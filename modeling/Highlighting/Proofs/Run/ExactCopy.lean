import Highlighting.Proofs.LineReader.Delivery
import Highlighting.Proofs.Run.PlainText

/-!
# Which inputs are copied exactly

A run into a plain sink ends every line in a line feed, and replaces what is ill-formed.  So it
copies the bytes that it reads only if there is nothing to replace, every line is ended, and none is
ended by `\r\n`.  The question is one about texts, since decoding undoes encoding and a line feed or
a carriage return stands for itself in either form.

What is lost otherwise is never a line: whatever terminators are written, the lines between them are
read again.
-/

namespace Highlighting

namespace Highlighter

variable {ε : Type}

/-- The highlighter of a grammar, or of no grammar, and the rules of a theme. -/
def ofGrammar (grammar : Option (GrammarEngine ε × Scope)) (rules : List Rule) :
    Highlighter (LexerState ε) Unit :=
  ⟨grammar.map fun (engine, root) => engine.tokenizer root, rules⟩

theorem keepsText_ofGrammar (grammar : Option (GrammarEngine ε × Scope)) (rules : List Rule) :
    (ofGrammar grammar rules).KeepsText := by
  intro tokenizer htokenizer
  obtain ⟨⟨engine, root⟩, -, rfl⟩ := Option.map_eq_some_iff.1 htokenizer
  exact (Tokenizer.followsOrFails_tokenizer engine root).keepsText

variable (grammar : Option (GrammarEngine ε × Scope)) (rules : List Rule)

/-- The text that is written is made of the lines of the decoded bytes. -/
theorem output_run_of_delivers {input : Input} {bytes : Bytes}
    (delivers : input.Delivers bytes none) :
    ((ofGrammar grammar rules).run () input .plain .unlimited).sink.output
      = Text.utf8 ((Utf8.decodeLossy bytes).lines.flatMap (· ++ ['\n'])) := by
  rw [output_run_plain (keepsText_ofGrammar grammar rules), LineReader.ofInput,
    delivers.readAll_eq]
  rfl

/-- A run copies the form of a text if the text ends in a line feed and has no other
terminators. -/
theorem output_run_eq_utf8_iff {input : Input} {t : Text} (delivers : input.Delivers t.utf8 none) :
    ((ofGrammar grammar rules).run () input .plain .unlimited).sink.output = t.utf8 ↔
      (t.utf8 = [] ∨ t.utf8.getLast? = some Input.lineFeed) ∧
        ¬[Input.carriageReturn, Input.lineFeed] <:+: t.utf8 := by
  have hnil : t.utf8 = [] ↔ t = [] := Utf8.utf8_inj (u := [])
  rw [output_run_of_delivers grammar rules delivers, Utf8.decodeLossy_utf8, Utf8.utf8_inj,
    Text.flatMap_lines_eq_iff, hnil, Utf8.getLast?_utf8_iff (by decide),
    Utf8.infix_utf8_iff (by decide) (by decide)]
  rfl

/-- **Which inputs are copied exactly.**  With any grammar or none, and any rules, a run into a
plain sink writes the bytes that it reads if and only if they are well-formed, end in a line feed
unless there are none, and do not have a carriage return in front of a line feed.  In any case,
lines are read as they were written, each with its own terminator and the last one with none if it
is not empty. -/
theorem run_plain_copies_iff {input : Input} {bytes : Bytes}
    (delivers : input.Delivers bytes none) :
    (((ofGrammar grammar rules).run () input .plain .unlimited).sink.output = bytes ↔
      (∃ t : Text, t.utf8 = bytes) ∧ (bytes = [] ∨ bytes.getLast? = some Input.lineFeed) ∧
        ¬[Input.carriageReturn, Input.lineFeed] <:+: bytes) ∧
    ∀ (ended : List EndedLine) (last : Text), '\n' ∉ last →
      Text.utf8 (ended.flatMap EndedLine.written ++ last) = bytes →
        (LineReader.ofInput input).readAll
          = ((ended.map EndedLine.text ++ if last = [] then [] else [last]).toArray, none) := by
  constructor
  · constructor
    · intro hcopy
      obtain ⟨t, rfl⟩ : ∃ t : Text, t.utf8 = bytes :=
        ⟨_, (output_run_of_delivers grammar rules delivers).symm.trans hcopy⟩
      exact ⟨⟨t, rfl⟩, (output_run_eq_utf8_iff grammar rules delivers).1 hcopy⟩
    · rintro ⟨⟨t, rfl⟩, hends⟩
      exact (output_run_eq_utf8_iff grammar rules delivers).2 hends
  · rintro ended last hclean rfl
    rw [LineReader.ofInput, delivers.readAll_eq, Utf8.decodeLossy_utf8, Text.linesBefore,
      EndedLine.lines_flatMap_written ended hclean]

/-- A line with either terminator, the second one with a carriage return of its own, and a line
with none. -/
def mixedLines : Input := [.data [0xC3], .data [0xA9, 0x0A, 0x0D, 0x0D], .data [0x0A, 0x7A]]

/-- All three lines are read, but not copied exactly; a line with a carriage return inside is. -/
theorem run_plain_copies_iff_mixed :
    let grammar := some (erraticEngine, Scope.empty)
    let bytes : Bytes := [0xC3, 0xA9, 0x0A, 0x0D, 0x0D, 0x0A, 0x7A]
    let copied : Bytes := [0x0D, 0x61, 0x0D, 0x62, 0x0A]
    mixedLines.Delivers bytes none ∧
      (LineReader.ofInput mixedLines).readAll = (#[['é'], ['\r'], ['z']], none) ∧
      ((ofGrammar grammar []).run () mixedLines .plain .unlimited).sink.output ≠ bytes ∧
      ((ofGrammar grammar []).run () [.data copied] .plain .unlimited).sink.output = copied := by
  intro grammar bytes copied
  have hmixed : mixedLines.Delivers bytes none :=
    .data (by simp) (.data (by simp) (.data (by simp) .ends))
  have hcopied : Input.Delivers [.data copied] copied none := .data (by simp [copied]) .ends
  obtain ⟨hexact, hlines⟩ := run_plain_copies_iff grammar [] hmixed
  refine ⟨hmixed, ?_, fun heq => ?_, ?_⟩
  · exact hlines [⟨['é'], .lineFeed, by decide, by decide⟩,
      ⟨['\r'], .returnLineFeed, by decide, by decide⟩] ['z'] (by decide) (by decide)
  · exact absurd (hexact.1 heq).2.1 (by decide)
  · exact (run_plain_copies_iff grammar [] hcopied).1.2
      ⟨⟨['\r', 'a', '\r', 'b', '\n'], by decide⟩, by decide, by decide⟩

end Highlighter

end Highlighting
