import Highlighting.Error
import Highlighting.Text.Utf8

/-!
# Reading lines

Input arrives in **chunks**.  Reading one line gathers chunks up to the first line feed:

* an interruption is retried, and nothing is lost;
* any other failure ends the line, and the bytes gathered for it are lost;
* an empty chunk reports the end of the input once, which ends the line but leaves the rest of the
  input to later reads.

A `LineReader` yields lines without their terminators, `\n` or `\r\n`, and decodes them after the
terminator is gone.  It stops for good at the first failure and at the first end of input that finds
no bytes gathered.  It counts the lines that it yields, and hands each over under the number that
its count has got to (`NumberedLine`).

`weight` bounds how much there is to read; every line takes something from it, so reading all lines
ends (`weight_next_lt`).
-/

namespace Highlighting

/-- One answer of a buffered input. -/
inductive Chunk
  /-- Some bytes; none at all mean that the input has ended, for now. -/
  | data (bytes : Bytes)
  /-- The read was interrupted and can be retried. -/
  | interrupted
  /-- The read failed. -/
  | failed (failure : IoFailure)
  deriving Repr, DecidableEq

/-- A buffered input: its answers in order, and the end of input ever after. -/
abbrev Input := List Chunk

namespace Input

/-- The byte that ends a line. -/
def lineFeed : UInt8 := 0x0A

/-- The byte that may stand before a line feed as part of the terminator. -/
def carriageReturn : UInt8 := 0x0D

/-- Gathers bytes up to and including the first line feed, or up to an end of input. -/
def readUntilLineFeed (gathered : Bytes) : Input → Except IoFailure Bytes × Input
  | [] => (.ok gathered, [])
  | .interrupted :: rest => readUntilLineFeed gathered rest
  | .failed failure :: rest => (.error failure, rest)
  | .data [] :: rest => (.ok gathered, rest)
  | .data bytes :: rest =>
    let line := bytes.takeWhile (· != lineFeed)
    match bytes.dropWhile (· != lineFeed) with
    -- The line goes on in the next chunk.
    | [] => readUntilLineFeed (gathered ++ line) rest
    -- A chunk that is used up goes away, since an empty one would end the input.
    | [b] => (.ok (gathered ++ line ++ [b]), rest)
    | b :: tail => (.ok (gathered ++ line ++ [b]), .data tail :: rest)

/-- An upper bound for the bytes and answers left in an input. -/
def weight : Input → Nat
  | [] => 0
  | .data bytes :: rest => bytes.length + 1 + weight rest
  | _ :: rest => 1 + weight rest

/-- What a read gathers and what it leaves do not exceed what there was. -/
theorem length_add_weight_le (gathered : Bytes) (input : Input) {line : Bytes} {rest : Input}
    (read : readUntilLineFeed gathered input = (.ok line, rest)) :
    line.length + weight rest ≤ gathered.length + weight input := by
  induction input generalizing gathered with
  | nil => simp_all [readUntilLineFeed]
  | cons chunk input ih =>
    cases chunk with
    | interrupted =>
      have hrest := ih gathered (by simpa [readUntilLineFeed] using read)
      simp only [weight] at hrest ⊢
      omega
    | failed failure => simp [readUntilLineFeed] at read
    | data bytes =>
      have hlength : (bytes.takeWhile (· != lineFeed)).length
          + (bytes.dropWhile (· != lineFeed)).length = bytes.length := by
        rw [← List.length_append, List.takeWhile_append_dropWhile]
      cases bytes with
      | nil =>
        simp only [readUntilLineFeed, Prod.mk.injEq, Except.ok.injEq] at read
        obtain ⟨rfl, rfl⟩ := read
        simp [weight]
      | cons b bytes =>
        rw [readUntilLineFeed] at read
        split at read
        · rename_i hdrop
          have hrest := ih _ read
          rw [hdrop] at hlength
          simp only [List.length_append, weight,
            List.length_nil] at hrest hlength ⊢
          omega
        · rename_i hdrop
          simp only [Prod.mk.injEq, Except.ok.injEq] at read
          obtain ⟨rfl, rfl⟩ := read
          rw [hdrop] at hlength
          simp only [List.length_append, weight, List.length_cons,
            List.length_nil] at hlength ⊢
          omega
        · rename_i hdrop
          simp only [Prod.mk.injEq, Except.ok.injEq] at read
          obtain ⟨rfl, rfl⟩ := read
          rw [hdrop] at hlength
          simp only [List.length_append, weight, List.length_cons,
            List.length_nil] at hlength ⊢
          omega
        · exact List.cons_ne_nil b bytes

end Input

/-- The bytes of a line without its terminator.  A carriage return counts as part of the terminator
only before a line feed. -/
def stripTerminator (bytes : Bytes) : Bytes :=
  match bytes.reverse with
  | 0x0A :: 0x0D :: line => line.reverse
  | 0x0A :: line => line.reverse
  | _ => bytes

/-- A line as it is handed over: with how many lines have been read when it is. -/
structure NumberedLine where
  number : Nat
  text : Text
  deriving Repr, DecidableEq

/-- The lines of an input, in order.  A reader that is `done` stays so and reads nothing more. -/
structure LineReader where
  input : Input
  /-- The number of lines read so far. -/
  lineNumber : Nat
  done : Bool
  deriving Repr, DecidableEq

namespace LineReader

/-- A reader at the start of an input. -/
def ofInput (input : Input) : LineReader := ⟨input, 0, false⟩

/-- The next line or failure, if there is one, and the reader after it. -/
def next (reader : LineReader) : Option (Except IoFailure Text) × LineReader :=
  if reader.done then (none, reader)
  else match Input.readUntilLineFeed [] reader.input with
    | (.error failure, rest) =>
      (some (.error failure), { reader with input := rest, done := true })
    | (.ok [], rest) => (none, { reader with input := rest, done := true })
    | (.ok bytes, rest) =>
      (some (.ok (Utf8.decodeLossy (stripTerminator bytes))),
        { reader with input := rest, lineNumber := reader.lineNumber + 1 })

/-- Every line takes something from the input. -/
theorem weight_next_lt {reader : LineReader} {line : Text} {after : LineReader}
    (read : reader.next = (some (.ok line), after)) :
    Input.weight after.input < Input.weight reader.input := by
  unfold next at read
  split at read
  · simp at read
  · split at read
    · simp at read
    · simp at read
    · rename_i bytes rest hnonempty hread
      simp only [Prod.mk.injEq] at read
      obtain ⟨-, rfl⟩ := read
      have hbound := Input.length_add_weight_le [] reader.input hread
      have hpos : 0 < bytes.length := List.length_pos_iff.2 hnonempty
      simp only [List.length_nil] at hbound ⊢
      omega

/-- All the lines that are left, numbered by the reader, and the failure that ended them, if any. -/
def readNumbered (reader : LineReader) : Array NumberedLine × Option IoFailure := go reader #[]
where
  /-- Adds the lines that are left to those already read. -/
  go (reader : LineReader) (lines : Array NumberedLine) : Array NumberedLine × Option IoFailure :=
    match _read : reader.next with
    | (none, _) => (lines, none)
    | (some (.error failure), _) => (lines, some failure)
    | (some (.ok line), after) => go after (lines.push ⟨after.lineNumber, line⟩)
  termination_by Input.weight reader.input
  decreasing_by exact weight_next_lt _read

/-- All the lines that are left, without their numbers, and the failure that ended them, if any. -/
def readAll (reader : LineReader) : Array Text × Option IoFailure :=
  reader.readNumbered.map (·.map NumberedLine.text) id

end LineReader

end Highlighting
