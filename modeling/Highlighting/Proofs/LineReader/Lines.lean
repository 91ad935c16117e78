import Highlighting.LineReader

/-!
# The lines of an input

`LineReader.readAll` asks for line after line; the three equations `readAll_of_*` say what the
answer to the first question means for the whole.  The numbers that the reader gives to these lines
are consecutive (`LineReader.readNumbered_eq`), so that nobody else has to count.

What one line is read from can be cut out of the input, and any selection of lines that were read is
what some other input reads as a whole (`Input.ReadsAs.exists_of_subset`).

Reading ends because every line takes something from the input.  `LineReader.readInduction` says
this once, with a case for each answer of a reader, so that no other proof has to measure an input.
-/

namespace Highlighting

namespace Input

/-! ### Reading one line -/

/-- A chunk without a line feed is gathered as a whole. -/
theorem readUntilLineFeed_of_notMem (gathered : Bytes) {bytes : Bytes} (nonempty : bytes ≠ [])
    (clean : lineFeed ∉ bytes) (rest : Input) :
    readUntilLineFeed gathered (.data bytes :: rest)
      = readUntilLineFeed (gathered ++ bytes) rest := by
  have hall : ∀ b ∈ bytes, (b != lineFeed) = true := by
    intro b hb
    exact bne_iff_ne.2 fun heq => clean (heq ▸ hb)
  have hdrop : bytes.dropWhile (· != lineFeed) = [] := by
    rw [← List.append_nil bytes, List.dropWhile_append_of_pos hall, List.dropWhile_nil]
  have htake : bytes.takeWhile (· != lineFeed) = bytes := by
    rw [← List.append_nil bytes, List.takeWhile_append_of_pos hall, List.takeWhile_nil]
  rw [readUntilLineFeed, hdrop, htake]
  -- An empty chunk would have been the end of the input.
  exact nonempty

/-- A chunk with a line feed ends the line, and what follows the first line feed is left over. -/
theorem readUntilLineFeed_of_mem (gathered : Bytes) {body : Bytes} (clean : lineFeed ∉ body)
    (tail : Bytes) (rest : Input) :
    readUntilLineFeed gathered (.data (body ++ lineFeed :: tail) :: rest)
      = (.ok (gathered ++ body ++ [lineFeed]),
          if tail = [] then rest else .data tail :: rest) := by
  have hall : ∀ b ∈ body, (b != lineFeed) = true := by
    intro b hb
    exact bne_iff_ne.2 fun heq => clean (heq ▸ hb)
  have hdrop : (body ++ lineFeed :: tail).dropWhile (· != lineFeed) = lineFeed :: tail := by
    rw [List.dropWhile_append_of_pos hall, List.dropWhile_cons_of_neg (by simp)]
  have htake : (body ++ lineFeed :: tail).takeWhile (· != lineFeed) = body := by
    rw [List.takeWhile_append_of_pos hall, List.takeWhile_cons_of_neg (by simp), List.append_nil]
  rw [readUntilLineFeed, hdrop, htake]
  · cases tail with
    | nil => rfl
    | cons b tail => rfl
  · simp

end Input

/-- The input reads as these lines and ends well. -/
def Input.ReadsAs (input : Input) (lines : List Text) : Prop :=
  (LineReader.ofInput input).readAll = (lines.toArray, none)

namespace NumberedLine

/-- Lines with consecutive numbers, from a first one on. -/
def numberFrom : Nat → List Text → List NumberedLine
  | _, [] => []
  | first, line :: lines => ⟨first, line⟩ :: numberFrom (first + 1) lines

/-- Numbering leaves the lines as they are. -/
@[simp] theorem map_text_numberFrom (first : Nat) (lines : List Text) :
    (numberFrom first lines).map text = lines := by
  induction lines generalizing first with
  | nil => rfl
  | cons line lines ih => rw [numberFrom, List.map_cons, ih]

@[simp] theorem length_numberFrom (first : Nat) (lines : List Text) :
    (numberFrom first lines).length = lines.length := by
  rw [← List.length_map text, map_text_numberFrom]

/-- A number tells how many lines stand in front. -/
theorem number_of_numberFrom_eq_append {first : Nat} {lines : List Text}
    {before after : List NumberedLine} {line : NumberedLine}
    (split : numberFrom first lines = before ++ line :: after) :
    line.number = first + before.length := by
  induction before generalizing first lines with
  | nil =>
    cases lines with
    | nil => cases split
    | cons text lines =>
      obtain ⟨rfl, -⟩ := List.cons.inj split
      rfl
  | cons other before ih =>
    cases lines with
    | nil => cases split
    | cons text lines =>
      obtain ⟨-, hrest⟩ := List.cons.inj split
      rw [ih hrest, List.length_cons]
      omega

end NumberedLine

namespace LineReader

/-! ### Reading everything -/

/-- A statement about all readers follows the lines that they yield: it has to hold where no line is
next, and to pass from the reader behind a line to the one in front of it. -/
@[elab_as_elim]
theorem readInduction {motive : LineReader → Prop}
    (ends : ∀ reader after, reader.next = (none, after) → motive reader)
    (fails : ∀ reader failure after, reader.next = (some (.error failure), after) → motive reader)
    (line : ∀ reader text after, reader.next = (some (.ok text), after) → motive after →
      motive reader)
    (reader : LineReader) : motive reader := by
  -- Each line takes bytes or chunks away from the input, so its weight is what decreases.
  induction hweight : Input.weight reader.input using Nat.strongRecOn generalizing reader with
  | ind weight ih =>
    cases hread : reader.next with
    | mk result after =>
      match result, hread with
      | none, hread => exact ends reader after hread
      | some (.error failure), hread => exact fails reader failure after hread
      | some (.ok text), hread =>
        exact line reader text after hread (ih _ (hweight ▸ weight_next_lt hread) after rfl)

theorem readNumbered_go_of_end {reader after : LineReader} (read : reader.next = (none, after))
    (lines : Array NumberedLine) : readNumbered.go reader lines = (lines, none) := by
  rw [readNumbered.go]
  split <;> simp_all

theorem readNumbered_go_of_failure {reader after : LineReader} {failure : IoFailure}
    (read : reader.next = (some (.error failure), after)) (lines : Array NumberedLine) :
    readNumbered.go reader lines = (lines, some failure) := by
  rw [readNumbered.go]
  split <;> simp_all

/-- A line is kept under the number that the reader shows behind it. -/
theorem readNumbered_go_of_line {reader after : LineReader} {line : Text}
    (read : reader.next = (some (.ok line), after)) (lines : Array NumberedLine) :
    readNumbered.go reader lines
      = readNumbered.go after (lines.push ⟨after.lineNumber, line⟩) := by
  rw [readNumbered.go]
  split <;> simp_all

/-- Lines that were read before stand in front. -/
theorem readNumbered_go_eq (reader : LineReader) (lines : Array NumberedLine) :
    readNumbered.go reader lines
      = (lines ++ reader.readNumbered.1, reader.readNumbered.2) := by
  induction reader using readInduction generalizing lines with
  | ends reader after hread => simp [readNumbered, readNumbered_go_of_end hread]
  | fails reader failure after hread => simp [readNumbered, readNumbered_go_of_failure hread]
  | line reader text after hread ih =>
    -- Both loops go on behind this line, with other lines in front of it.
    rw [readNumbered, readNumbered_go_of_line hread, readNumbered_go_of_line hread, ih, ih,
      ← Array.append_assoc]
    simp

/-- Where no line is next, there are none. -/
theorem readNumbered_of_end {reader after : LineReader} (read : reader.next = (none, after)) :
    reader.readNumbered = (#[], none) :=
  readNumbered_go_of_end read #[]

/-- A failure ends the reading. -/
theorem readNumbered_of_failure {reader after : LineReader} {failure : IoFailure}
    (read : reader.next = (some (.error failure), after)) :
    reader.readNumbered = (#[], some failure) :=
  readNumbered_go_of_failure read #[]

/-- The next line stands in front of those that are read behind it. -/
theorem readNumbered_of_line {reader after : LineReader} {line : Text}
    (read : reader.next = (some (.ok line), after)) :
    reader.readNumbered
      = (#[⟨after.lineNumber, line⟩] ++ after.readNumbered.1, after.readNumbered.2) := by
  rw [readNumbered, readNumbered_go_of_line read, readNumbered_go_eq]
  rfl

theorem readAll_of_end {reader after : LineReader} (read : reader.next = (none, after)) :
    reader.readAll = (#[], none) := by
  simp [readAll, readNumbered_of_end read]

theorem readAll_of_failure {reader after : LineReader} {failure : IoFailure}
    (read : reader.next = (some (.error failure), after)) :
    reader.readAll = (#[], some failure) := by
  simp [readAll, readNumbered_of_failure read]

/-- So it is without the numbers. -/
theorem readAll_of_line {reader after : LineReader} {line : Text}
    (read : reader.next = (some (.ok line), after)) :
    reader.readAll = (#[line] ++ after.readAll.1, after.readAll.2) := by
  simp [readAll, readNumbered_of_line read]

/-! ### Numbers -/

/-- A line that is read counts. -/
theorem lineNumber_of_next {reader after : LineReader} {line : Text}
    (read : reader.next = (some (.ok line), after)) :
    after.lineNumber = reader.lineNumber + 1 := by
  unfold next at read
  split at read
  · simp at read
  split at read
  · simp at read
  · simp at read
  · obtain ⟨-, rfl⟩ := Prod.mk.inj read
    rfl

/-- The reader numbers the lines that it yields consecutively, from the next number on. -/
theorem readNumbered_eq (reader : LineReader) :
    reader.readNumbered
      = ((NumberedLine.numberFrom (reader.lineNumber + 1) reader.readAll.1.toList).toArray,
          reader.readAll.2) := by
  induction reader using readInduction with
  | ends reader after hread =>
    rw [readNumbered_of_end hread, readAll_of_end hread]
    rfl
  | fails reader failure after hread =>
    rw [readNumbered_of_failure hread, readAll_of_failure hread]
    rfl
  | line reader text after hread ih =>
    -- The lines behind are numbered from where the reader's count has got to.
    rw [readNumbered_of_line hread, readAll_of_line hread, ih, lineNumber_of_next hread]
    simp [NumberedLine.numberFrom]

/-! ### Lines on their own -/

/-- What is gathered for a line has a line feed at its end, if anywhere. -/
theorem exists_of_readUntilLineFeed {gathered : Bytes} {input : Input} {line : Bytes}
    {rest : Input} (clean : Input.lineFeed ∉ gathered)
    (read : Input.readUntilLineFeed gathered input = (.ok line, rest)) :
    ∃ body, Input.lineFeed ∉ body ∧ (line = body ∨ line = body ++ [Input.lineFeed]) := by
  induction input generalizing gathered with
  | nil =>
    obtain ⟨rfl, -⟩ : gathered = line ∧ _ := by simpa [Input.readUntilLineFeed] using read
    exact ⟨gathered, clean, .inl rfl⟩
  | cons chunk input ih =>
    cases chunk with
    | interrupted => exact ih clean (by simpa [Input.readUntilLineFeed] using read)
    | failed failure => simp [Input.readUntilLineFeed] at read
    | data bytes =>
      by_cases hempty : bytes = []
      · subst hempty
        obtain ⟨rfl, -⟩ : gathered = line ∧ _ := by simpa [Input.readUntilLineFeed] using read
        exact ⟨gathered, clean, .inl rfl⟩
      by_cases hmem : Input.lineFeed ∈ bytes
      · -- The first line feed of the chunk ends the line.
        obtain ⟨body, tail, rfl, hbody⟩ := List.eq_append_cons_of_mem hmem
        rw [Input.readUntilLineFeed_of_mem gathered hbody] at read
        obtain ⟨rfl, -⟩ : gathered ++ body ++ [Input.lineFeed] = line ∧ _ := by simpa using read
        exact ⟨gathered ++ body, by simp [clean, hbody], .inr rfl⟩
      · rw [Input.readUntilLineFeed_of_notMem gathered hempty hmem] at read
        exact ih (by simp [clean, hmem]) read

/-- Some chunks read as the line, whatever follows them. -/
def Readable (line : Text) : Prop :=
  ∃ chunks : Input, ∀ (rest : Input) (number : Nat),
    next ⟨chunks ++ rest, number, false⟩ = (some (.ok line), ⟨rest, number + 1, false⟩)

/-- Anything that was gathered is a line, whatever the count is. -/
theorem next_of_readUntilLineFeed {input rest : Input} {bytes : Bytes} (nonempty : bytes ≠ [])
    (read : Input.readUntilLineFeed [] input = (.ok bytes, rest)) (number : Nat) :
    next ⟨input, number, false⟩
      = (some (.ok (Utf8.decodeLossy (stripTerminator bytes))), ⟨rest, number + 1, false⟩) := by
  unfold next
  rw [read]
  cases bytes with
  | nil => exact absurd rfl nonempty
  | cons b bytes => rfl

/-- A line without a terminator is read from one chunk and an end of input behind it; a line with
one, from a single chunk. -/
theorem readable_of_next {reader after : LineReader} {line : Text}
    (read : reader.next = (some (.ok line), after)) : Readable line := by
  unfold next at read
  split at read
  · simp at read
  split at read
  · simp at read
  · simp at read
  · rename_i bytes rest hnonempty hread
    obtain ⟨rfl, -⟩ : Utf8.decodeLossy (stripTerminator bytes) = line ∧ _ := by simpa using read
    obtain ⟨body, hbody, hbytes⟩ := exists_of_readUntilLineFeed (by simp) hread
    rcases hbytes with rfl | rfl
    · -- The line ended with its input, so an end of input is put behind it.
      refine ⟨[.data bytes, .data []], fun rest number => ?_⟩
      refine next_of_readUntilLineFeed hnonempty ?_ number
      exact Input.readUntilLineFeed_of_notMem [] hnonempty hbody _
    · -- The line feed ends the line, and whatever follows is left over.
      refine ⟨[.data (body ++ [Input.lineFeed])], fun rest number => ?_⟩
      refine next_of_readUntilLineFeed hnonempty ?_ number
      exact Input.readUntilLineFeed_of_mem [] hbody [] rest

/-- Where a line came from in the input does not matter for reading it again. -/
theorem readable_of_mem_readAll (reader : LineReader) :
    ∀ line ∈ reader.readAll.1, Readable line := by
  induction reader using readInduction with
  | ends reader after hread => simp [readAll_of_end hread]
  | fails reader failure after hread => simp [readAll_of_failure hread]
  | line reader text after hread ih =>
    rw [readAll_of_line hread]
    intro other hmem
    rcases Array.mem_append.1 hmem with hfirst | hlater
    · obtain rfl : other = text := by simpa using hfirst
      exact readable_of_next hread
    · exact ih other hlater

/-- Readable lines are what some input reads as a whole. -/
theorem exists_readsAs {lines : List Text} (readable : ∀ line ∈ lines, Readable line) :
    ∃ input : Input, input.ReadsAs lines := by
  -- A line in front moves the count on, so the lines behind it have to be readable from any.
  suffices hany : ∃ input, ∀ number, readAll ⟨input, number, false⟩ = (lines.toArray, none) by
    obtain ⟨input, hread⟩ := hany
    exact ⟨input, hread 0⟩
  induction lines with
  | nil => exact ⟨[], fun number => readAll_of_end rfl⟩
  | cons line lines ih =>
    obtain ⟨chunks, hnext⟩ := readable line (List.mem_cons_self ..)
    obtain ⟨rest, hrest⟩ := ih fun other hmem => readable other (List.mem_cons_of_mem line hmem)
    refine ⟨chunks ++ rest, fun number => ?_⟩
    rw [readAll_of_line (hnext rest number), hrest]
    simp

end LineReader

/-- Any lines that were read are read by some input as a whole. -/
theorem Input.ReadsAs.exists_of_subset {input : Input} {lines : List Text}
    (reads : input.ReadsAs lines) {others : List Text} (subset : ∀ line ∈ others, line ∈ lines) :
    ∃ other : Input, other.ReadsAs others := by
  refine LineReader.exists_readsAs fun line hmem => ?_
  refine LineReader.readable_of_mem_readAll (LineReader.ofInput input) line ?_
  rw [show (LineReader.ofInput input).readAll = (lines.toArray, none) from reads]
  exact List.mem_toArray.2 (subset line hmem)

end Highlighting
