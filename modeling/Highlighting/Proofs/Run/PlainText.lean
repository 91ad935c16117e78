import Mathlib
import Highlighting.Proofs.Run.Script
import Highlighting.Proofs.Token.Partition

/-!
# Highlighting never changes text

However a line is cut into tokens, and whether it could be tokenized at all, the spans written for
it carry its text and nothing else (`Highlighter.flatMap_plainForm_lineSteps`).  A run into a plain
sink therefore writes every line that was read, each with a line feed behind it.

This needs a tokenizer that does not lose or repeat text.  Grammars are such, whatever their engine
answers, and so are tokenizers that fail where a grammar would not.
-/

namespace Highlighting

namespace Highlighter

variable {σ μ : Type}

/-! ### Spans of a line -/

/-- An empty line has no span, and needs none. -/
theorem flatMap_text_unstyledSpans (line : Text) :
    (unstyledSpans line).flatMap Span.text = line := by
  unfold unstyledSpans
  split
  · rename_i hempty
    exact (List.isEmpty_iff.1 hempty).symm
  · simp [Span.unstyled]

/-- The tokens that are skipped have no text to lose. -/
theorem flatMap_text_tokenSpans (rules : List Rule) (line : Text) (tokens : List Token) :
    (tokenSpans rules line tokens).flatMap Span.text = (tokens.map (·.text line)).flatten := by
  induction tokens with
  | nil => rfl
  | cons token tokens ih =>
    rw [List.map_cons, List.flatten_cons, ← ih, tokenSpans, tokenSpans, List.filterMap_cons]
    -- A token without text is skipped, and adds nothing on the other side either.
    by_cases hempty : token.textIn (ClusterIndex.ofLine line) = []
    · simp [hempty, Token.text]
    · simp [hempty, Token.text]

/-! ### Lines -/

/-- The tokenizer of the highlighter, if there is one, loses and repeats no text. -/
def KeepsText (h : Highlighter σ μ) : Prop := ∀ tokenizer ∈ h.tokenizer, tokenizer.KeepsText

/-- The spans of one line and its line break spell the line and a line feed. -/
theorem flatMap_plainForm_lineSteps {h : Highlighter σ μ} (keeps : h.KeepsText)
    (line : NumberedLine) (progress : Progress σ μ) :
    ((h.lineSteps line progress).1.filterMap Step.op?).flatMap SinkOp.plainForm
      = line.text ++ ['\n'] := by
  -- Plain operations spell the texts of the spans, whatever their styles are.
  have hspell : ∀ spans : List Span, spans.flatMap Span.text = line.text →
      (SinkOp.forLine spans).flatMap SinkOp.plainForm = line.text ++ ['\n'] := by
    intro spans htext
    rw [SinkOp.forLine, List.flatMap_append, List.flatMap_map, ← htext]
    rfl
  obtain ⟨spans, hops, -, -, rfl | ⟨tokenizer, htokenizer, tokens, _, _, hanswer, rfl⟩⟩ :=
    h.lineSteps_cases line progress
  · rw [hops]
    exact hspell _ (flatMap_text_unstyledSpans line.text)
  · rw [hops]
    have hline := keeps tokenizer htokenizer line.text _ _ tokens _ _ hanswer
    exact hspell _ ((flatMap_text_tokenSpans h.rules line.text tokens).trans hline)

/-- The same of any number of lines. -/
theorem flatMap_plainForm_linesSteps {h : Highlighter σ μ} (keeps : h.KeepsText)
    (lines : List NumberedLine) (progress : Progress σ μ) :
    ((h.linesSteps lines #[] progress).1.toList.filterMap Step.op?).flatMap SinkOp.plainForm
      = (lines.map NumberedLine.text).flatMap (· ++ ['\n']) := by
  induction lines generalizing progress with
  | nil => rfl
  | cons line lines ih =>
    rw [toList_linesSteps_cons, List.filterMap_append, List.flatMap_append, List.map_cons,
      List.flatMap_cons, flatMap_plainForm_lineSteps keeps, ih]

/-- What a whole run asks of its sink spells the lines that were read. -/
theorem flatMap_plainForm_script {h : Highlighter σ μ} (keeps : h.KeepsText) (memory : μ)
    (input : Input) :
    ((h.script memory input).steps.toList.filterMap Step.op?).flatMap SinkOp.plainForm
      = (LineReader.ofInput input).readAll.1.toList.flatMap (· ++ ['\n']) := by
  have hlines := flatMap_plainForm_linesSteps keeps
    (NumberedLine.numberFrom 1 (LineReader.ofInput input).readAll.1.toList) (.start memory)
  rw [NumberedLine.map_text_numberFrom, ← stepsOf] at hlines
  cases hread : (LineReader.ofInput input).readAll with
  | mk lines failure =>
    rw [hread] at hlines
    cases failure with
    | some failure => rwa [h.script_of_failure memory hread]
    | none =>
      rw [h.script_of_lines memory hread, ← hlines]
      simp [List.filterMap_cons, Step.op?, SinkOp.plainForm]

/-! ### The output of a run -/

theorem output_run_plain {h : Highlighter σ μ} (keeps : h.KeepsText) (memory : μ)
    (input : Input) :
    (h.run memory input .plain .unlimited).sink.output
      = Text.utf8 ((LineReader.ofInput input).readAll.1.toList.flatMap (· ++ ['\n'])) := by
  rw [h.run_of_neverFails memory input (Sink.writes_plain.neverFails rfl rfl),
    Sink.writes_plain.output_after, flatMap_plainForm_script keeps]

/-- A text made of lines is encoded line by line. -/
theorem utf8_flatMap_append_lineFeed (lines : List Text) :
    Text.utf8 (lines.flatMap (· ++ ['\n']))
      = lines.flatMap fun line => Text.utf8 line ++ [Input.lineFeed] := by
  induction lines with
  | nil => rfl
  | cons line lines ih =>
    rw [List.flatMap_cons, List.flatMap_cons, ← ih, Text.utf8_append, Text.utf8_append]
    rfl

/-- **Highlighting never changes text.**  Without a tokenizer, with that of a grammar engine, and
with one that fails where it pleases and otherwise follows the engine, a run into a plain sink
writes the lines that were read before the input ended or failed, each with a line feed behind it.
So the output is that of a run without a tokenizer, whatever the rules. -/
theorem run_plain_preserves_text {ε μ : Type} (engine : GrammarEngine ε) (root : Scope)
    (tokenizer : Option (Tokenizer (LexerState ε) μ))
    (follows : ∀ t ∈ tokenizer, t.FollowsOrFails engine root) (rules otherRules : List Rule)
    (memory : μ) (input : Input) :
    (run ⟨tokenizer, rules⟩ memory input .plain .unlimited).sink.output
        = ((LineReader.ofInput input).readAll.1.toList.flatMap fun line =>
            Text.utf8 line ++ [Input.lineFeed]) ∧
      (run ⟨tokenizer, rules⟩ memory input .plain .unlimited).sink.output
        = (run (⟨none, otherRules⟩ : Highlighter (LexerState ε) μ) memory input .plain
            .unlimited).sink.output := by
  have hkeeps : (⟨tokenizer, rules⟩ : Highlighter (LexerState ε) μ).KeepsText :=
    fun t ht => (follows t ht).keepsText
  have hnone : (⟨none, otherRules⟩ : Highlighter (LexerState ε) μ).KeepsText :=
    fun t ht => nomatch ht
  rw [output_run_plain hkeeps, output_run_plain hnone]
  exact ⟨utf8_flatMap_append_lineFeed _, rfl⟩

/-- An engine whose events run backwards, past the end of the line, and into the middle of a
cluster. -/
def erraticEngine : GrammarEngine Unit :=
  ⟨(), fun _ _ => .ok ([⟨2, .push ⟨[['a']]⟩⟩, ⟨99, .pop 1⟩, ⟨1, .push .empty⟩], ())⟩

/-- The tokenizer of that engine, made to fail on lines with an at sign. -/
def erraticTokenizer : Tokenizer (LexerState Unit) Unit :=
  (erraticEngine.tokenizer .empty).failingOn (·.contains '@') (.invalidScopeOperation "at sign")

/-- The input is cut inside a character and inside a line terminator. -/
theorem run_plain_preserves_accents :
    erraticTokenizer.FollowsOrFails erraticEngine .empty ∧
      (run ⟨some erraticTokenizer, []⟩ ()
          [.data [0x65, 0xCC], .interrupted, .data [0x81, 0x78, 0x0D], .data [0x0A, 0x0A, 0x40]]
          .plain .unlimited).sink.output
        = [0x65, 0xCC, 0x81, 0x78, 0x0A, 0x0A, 0x40, 0x0A] := by
  have hfollows : erraticTokenizer.FollowsOrFails erraticEngine .empty :=
    (Tokenizer.followsOrFails_tokenizer erraticEngine .empty).failingOn _ _
  refine ⟨hfollows, ?_⟩
  rw [(run_plain_preserves_text erraticEngine .empty (some erraticTokenizer)
    (fun _ ht => Option.mem_some.1 ht ▸ hfollows) [] [] () _).1]
  cbv

end Highlighter

end Highlighting
