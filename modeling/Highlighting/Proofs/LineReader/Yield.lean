import Highlighting.Proofs.LineReader.Chunking

/-!
# What a reader yields

Whatever an input is made of, each line that a reader yields is free of line feeds, and the number
that the reader shows behind it is its place among the lines.

Any such lines can be written down as an input without failures that reads as just these
(`Input.ofLines`): each line in a chunk of its own, ended by a carriage return and a line feed.
-/

namespace Highlighting

namespace LineReader

/-! ### Lines and their numbers -/

/-- The only line feed in a chunk that ends a line is its last byte, and that is stripped. -/
theorem lineFeed_notMem_of_next {reader after : LineReader} {line : Text}
    (read : reader.next = (some (.ok line), after)) : '\n' ∉ line := by
  unfold next at read
  split at read
  · simp at read
  split at read
  · simp at read
  · simp at read
  · rename_i bytes rest _ hread
    obtain ⟨rfl, -⟩ : Utf8.decodeLossy (stripTerminator bytes) = line ∧ _ := by simpa using read
    obtain ⟨body, hbody, hbytes⟩ := exists_of_readUntilLineFeed (by simp) hread
    have hclean : '\n' ∉ Utf8.decodeLossy body := lineFeed_notMem_decodeLossy hbody
    -- Either the input ended without a terminator, or the line feed goes, and a carriage return
    -- before it with it.
    rcases hbytes with rfl | rfl
    · rwa [stripTerminator_of_notMem hbody]
    · rw [decodeLossy_stripTerminator_concat]
      exact fun hmem => hclean ((Text.withoutReturn_sublist _).subset hmem)

/-- No line that is read contains a line feed. -/
theorem lineFeed_notMem_of_mem_readAll (reader : LineReader) :
    ∀ line ∈ reader.readAll.1, '\n' ∉ line := by
  induction reader using readInduction with
  | ends reader after hread => simp [readAll_of_end hread]
  | fails reader failure after hread => simp [readAll_of_failure hread]
  | line reader text after hread ih =>
    rw [readAll_of_line hread]
    intro other hmem
    rcases Array.mem_append.1 hmem with hfirst | hlater
    · obtain rfl : other = text := by simpa using hfirst
      exact lineFeed_notMem_of_next hread
    · exact ih other hlater

/-- The lines that are read are the answers of the reader, which counts them. -/
theorem answer_of_getElem?_readAll (reader : LineReader) {k : Nat} {line : Text}
    (found : reader.readAll.1.toList[k]? = some line) :
    reader.answer k = (some (.ok line), reader.lineNumber + k + 1) := by
  induction reader using readInduction generalizing k with
  | ends reader after hread => simp [readAll_of_end hread] at found
  | fails reader failure after hread => simp [readAll_of_failure hread] at found
  | line reader text after hread ih =>
    rw [readAll_of_line hread, Array.toList_append, List.singleton_append] at found
    cases k with
    | zero =>
      obtain rfl : text = line := by simpa using found
      -- The first line is the next answer, and the reader has just counted it.
      simp [answer, behind, hread, lineNumber_of_next hread]
    | succ k =>
      -- The later ones are answers of the reader behind that line, which has counted one more.
      have hanswer := ih found
      rw [lineNumber_of_next hread] at hanswer
      rw [answer, behind, hread, ← answer, hanswer, Nat.add_right_comm reader.lineNumber 1 k]
      rfl

end LineReader

namespace Input

/-! ### Writing lines down -/

/-- The input that has each line in a chunk of its own. -/
def ofLines (lines : List Text) : Input :=
  lines.map fun line => .data (Text.utf8 (line ++ ['\r', '\n']))

/-- The failures that an input has in store. -/
def failures (input : Input) : List IoFailure :=
  input.filterMap fun
    | .failed failure => some failure
    | _ => none

theorem failures_ofLines (lines : List Text) : (ofLines lines).failures = [] := by
  induction lines with
  | nil => rfl
  | cons line lines ih => exact ih

/-- No chunk is empty, as each holds at least its terminator. -/
theorem delivers_ofLines (lines : List Text) :
    (ofLines lines).Delivers (Text.utf8 (lines.flatMap (· ++ ['\r', '\n']))) none := by
  induction lines with
  | nil => exact .ends
  | cons line lines ih =>
    have hnonempty : Text.utf8 (line ++ ['\r', '\n']) ≠ [] := by simp
    rw [List.flatMap_cons, Text.utf8_append]
    exact .data hnonempty ih

/-- Lines without line feeds are read as they were written. -/
theorem readsAs_ofLines {lines : List Text} (clean : ∀ line ∈ lines, '\n' ∉ line) :
    (ofLines lines).ReadsAs lines := by
  -- Each line is one with a terminator.
  let ended : List EndedLine := lines.attach.map fun line =>
    ⟨line.1, .returnLineFeed, clean line.1 line.2, nofun⟩
  have htexts : ended.map EndedLine.text = lines := by
    simp [ended, Function.comp_def]
  have hwritten : ended.flatMap EndedLine.written = lines.flatMap (· ++ ['\r', '\n']) := by
    simp [ended, EndedLine.written, Terminator.text, List.flatMap_def]
  -- Nothing is left behind the last terminator, so there is no line without one.
  have hnil : '\n' ∉ ([] : Text) := List.not_mem_nil
  have hlines := EndedLine.lines_flatMap_written ended hnil
  rw [htexts, hwritten, List.append_nil, if_pos rfl, List.append_nil] at hlines
  rw [ReadsAs, LineReader.ofInput, (delivers_ofLines lines).readAll_eq, Utf8.decodeLossy_utf8,
    Text.linesBefore, hlines]

/-- Whatever an input does, some input without any failure reads as the lines that it yields. -/
theorem exists_readsAs (input : Input) :
    ∃ whole : Input, whole.failures = [] ∧
      whole.ReadsAs (LineReader.ofInput input).readAll.1.toList := by
  refine ⟨.ofLines _, failures_ofLines _, readsAs_ofLines fun line hline => ?_⟩
  exact LineReader.lineFeed_notMem_of_mem_readAll (.ofInput input) line
    (Array.mem_toList_iff.1 hline)

end Input

end Highlighting
