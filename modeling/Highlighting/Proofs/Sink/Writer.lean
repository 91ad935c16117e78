import Highlighting.Sink.Writer

/-!
# How a writer takes bytes

Writing is described by the three things that can happen: the writer has no limit, the bytes fit, or
they do not.  In each case writing two pieces in turn is writing them at once, as long as the first
piece goes through (`Writer.write_append`).
-/

namespace Highlighting

namespace Writer

/-- The writer after it took some bytes, with the room that is left for more. -/
def fill (w : Writer) (bytes : Bytes) (room : Option Nat) : Writer :=
  { w with taken := w.taken ++ bytes, room }

/-- Filling adds to the output. -/
@[simp] theorem output_fill (w : Writer) (bytes : Bytes) (room : Option Nat) :
    (w.fill bytes room).output = w.output ++ bytes := by
  simp [fill, output]

@[simp] theorem room_fill (w : Writer) (bytes : Bytes) (room : Option Nat) :
    (w.fill bytes room).room = room := rfl

@[simp] theorem recovers_fill (w : Writer) (bytes : Bytes) (room : Option Nat) :
    (w.fill bytes room).recovers = w.recovers := rfl

@[simp] theorem flushes_fill (w : Writer) (bytes : Bytes) (room : Option Nat) :
    (w.fill bytes room).flushes = w.flushes := rfl

/-- Filling twice is filling once with both, and the later room counts. -/
@[simp] theorem fill_fill (w : Writer) (a b : Bytes) (r s : Option Nat) :
    (w.fill a r).fill b s = w.fill (a ++ b) s := by
  have htaken : w.taken ++ a ++ b = w.taken ++ (a ++ b) := Array.ext' (by simp)
  rw [fill, fill, fill, htaken]

/-- Filling with nothing changes nothing, if the room stays as it is. -/
theorem fill_nil (w : Writer) : w.fill [] w.room = w := by
  rw [fill, Array.appendList_nil]

/-! ### Writing -/

/-- Without a limit, all bytes are taken. -/
theorem write_of_unlimited {w : Writer} (limitless : w.room = none) (bytes : Bytes) :
    w.write bytes = (.ok (), w.fill bytes none) := by
  rw [write, fill, limitless]

/-- Bytes that fit are all taken, and use up room. -/
theorem write_of_le {w : Writer} {room : Nat} (limit : w.room = some room) {bytes : Bytes}
    (fits : bytes.length ≤ room) :
    w.write bytes = (.ok (), w.fill bytes (some (room - bytes.length))) := by
  rw [write, limit]
  exact if_pos fits

/-- Bytes that do not fit are taken as far as they do. -/
theorem write_of_lt {w : Writer} {room : Nat} (limit : w.room = some room) {bytes : Bytes}
    (exceeds : room < bytes.length) :
    w.write bytes = (.error .brokenPipe,
      w.fill (bytes.take room) (if w.recovers then none else some 0)) := by
  rw [write, limit]
  exact if_neg (Nat.not_le_of_lt exceeds)

/-- Whatever happens, some bytes are added to the output. -/
theorem exists_snd_write_eq (w : Writer) (bytes : Bytes) :
    ∃ taken room, (w.write bytes).2 = w.fill taken room := by
  cases hroom : w.room with
  | none => exact ⟨bytes, none, by rw [write_of_unlimited hroom]⟩
  | some room =>
    rcases Nat.lt_or_ge room bytes.length with hlt | hle
    · exact ⟨bytes.take room, _, by rw [write_of_lt hroom hlt]⟩
    · exact ⟨bytes, _, by rw [write_of_le hroom hle]⟩

/-- To write nothing always succeeds, even on a writer that is full. -/
theorem write_nil (w : Writer) : w.write [] = (.ok (), w) := by
  cases hroom : w.room with
  | none => rw [write_of_unlimited hroom, ← hroom, fill_nil]
  | some room => rw [write_of_le hroom (Nat.zero_le _), List.length_nil, Nat.sub_zero, ← hroom,
      fill_nil]

/-- A writer that is full for good takes nothing more. -/
theorem snd_write_of_full {w : Writer} (full : w.room = some 0) (breaks : w.recovers = false)
    (bytes : Bytes) : (w.write bytes).2 = w := by
  cases bytes with
  | nil => rw [write_nil]
  | cons b bytes =>
    have hexceeds : 0 < (b :: bytes).length := Nat.zero_lt_succ _
    have hsame := fill_nil w
    rw [full] at hsame
    rw [write_of_lt full hexceeds, breaks]
    exact hsame

/-- Two pieces in turn are one, unless the first one fails. -/
theorem write_append (w : Writer) (a b : Bytes) :
    w.write (a ++ b) = match w.write a with
      | (.ok (), w) => w.write b
      | (.error failure, w) => (.error failure, w) := by
  cases hroom : w.room with
  | none =>
    rw [write_of_unlimited hroom, write_of_unlimited hroom]
    dsimp only
    rw [write_of_unlimited rfl, fill_fill]
  | some room =>
    -- Either the first piece does not fit, or it does and the second one does not, or both fit.
    have hlength : (a ++ b).length = a.length + b.length := List.length_append
    rcases Nat.lt_or_ge room a.length with hlt | hle
    · rw [write_of_lt hroom hlt, write_of_lt hroom (by omega)]
      dsimp only
      rw [List.take_append_of_le_length (Nat.le_of_lt hlt)]
    · rw [write_of_le hroom hle]
      dsimp only
      rcases Nat.lt_or_ge (room - a.length) b.length with hlt' | hle'
      · rw [write_of_lt hroom (by omega), write_of_lt rfl hlt', fill_fill, recovers_fill,
          List.take_append, List.take_of_length_le hle]
      · rw [write_of_le hroom (by omega), write_of_le rfl hle', fill_fill, hlength, Nat.sub_sub]

end Writer

end Highlighting
