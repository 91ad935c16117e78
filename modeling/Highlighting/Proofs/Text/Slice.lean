import Highlighting.Text.Basic

/-!
# Cutting a text between characters

Offsets count bytes, but a text is a list of characters.  As long as the offsets lie between two
characters, cutting at them is cutting the list: the bytes of `a ++ b` before `a.byteSize` are
exactly those of `a`.

The offsets that the program cuts at are the sizes of the first few pieces of a line
(`Text.offsetAfter`), so this module also says what lies between two of those
(`Text.slice_offsetAfter`).
-/

namespace Highlighting

namespace Text

/-- A text that is not empty takes up bytes. -/
theorem byteSize_pos {t : Text} (nonempty : t ≠ []) : 0 < t.byteSize := by
  cases t with
  | nil => exact absurd rfl nonempty
  | cons c t =>
    rw [byteSize_cons]
    exact Nat.add_pos_left c.utf8Size_pos _

/-! ### One offset -/

/-- The count that is carried along is only added to. -/
theorem charsBefore_go_add (t : Text) (n count extra : Nat) :
    charsBefore.go n t (count + extra) = charsBefore.go n t count + extra := by
  induction t generalizing n count with
  | nil => rfl
  | cons c t ih =>
    rw [charsBefore.go, charsBefore.go]
    split
    · rfl
    · rw [Nat.add_right_comm, ih]

/-- No character starts before the first byte. -/
theorem charsBefore_zero (t : Text) : charsBefore 0 t = 0 := by
  cases t with
  | nil => rfl
  | cons c t => simp [charsBefore, charsBefore.go]

/-- All the characters of `a`, and no others, start before the first byte behind `a`. -/
theorem charsBefore_append (a b : Text) : charsBefore a.byteSize (a ++ b) = a.length := by
  induction a with
  | nil => exact charsBefore_zero b
  | cons c a ih =>
    -- The count has not reached the offset before the last character of `a` is passed.
    have hpos : c.utf8Size + byteSize a ≠ 0 := by
      have hc := c.utf8Size_pos
      omega
    rw [List.cons_append, byteSize_cons, charsBefore, charsBefore.go, if_neg hpos,
      Nat.add_sub_cancel_left, charsBefore_go_add, ← charsBefore, ih, List.length_cons]

/-- The bytes before an offset between two characters are the characters before it. -/
theorem takeBytes_append (a b : Text) : takeBytes a.byteSize (a ++ b) = a := by
  rw [takeBytes, charsBefore_append, List.take_left]

/-- So are those behind it. -/
theorem dropBytes_append (a b : Text) : dropBytes a.byteSize (a ++ b) = b := by
  rw [dropBytes, charsBefore_append, List.drop_left]

/-! ### Two offsets -/

/-- What lies between two offsets is what stands there. -/
theorem slice_append (a b c : Text) :
    slice (a ++ (b ++ c)) a.byteSize (a.byteSize + b.byteSize) = b := by
  rw [slice, dropBytes_append, Nat.add_sub_cancel_left, takeBytes_append]

/-! ### Offsets between pieces -/

/-- The number of bytes in the first `k` of several pieces of text. -/
def offsetAfter (pieces : List Text) (k : Nat) : Nat := byteSize (pieces.take k).flatten

/-- Nothing stands before the first piece. -/
@[simp] theorem offsetAfter_zero (pieces : List Text) : offsetAfter pieces 0 = 0 := by
  simp [offsetAfter]

/-- The first piece moves all later offsets by its size. -/
theorem offsetAfter_cons_succ (piece : Text) (pieces : List Text) (k : Nat) :
    offsetAfter (piece :: pieces) (k + 1) = piece.byteSize + offsetAfter pieces k := by
  simp [offsetAfter]

/-- Behind the last piece is the end of the text. -/
theorem offsetAfter_length (pieces : List Text) :
    offsetAfter pieces pieces.length = byteSize pieces.flatten := by
  rw [offsetAfter, List.take_length]

/-- The first `k` pieces are the first `j` of them and those in between. -/
theorem flatten_take_eq_append (pieces : List Text) {j k : Nat} (order : j ≤ k) :
    (pieces.take k).flatten = (pieces.take j).flatten ++ ((pieces.take k).drop j).flatten := by
  have hsplit := List.take_append_drop j (pieces.take k)
  rw [List.take_take, Nat.min_eq_left order] at hsplit
  rw [← List.flatten_append, hsplit]

/-- Later offsets differ from earlier ones by the pieces in between. -/
theorem offsetAfter_eq_add (pieces : List Text) {j k : Nat} (order : j ≤ k) :
    offsetAfter pieces k
      = offsetAfter pieces j + byteSize ((pieces.take k).drop j).flatten := by
  rw [offsetAfter, flatten_take_eq_append pieces order, byteSize_append, ← offsetAfter]

/-- Offsets grow along the pieces. -/
theorem offsetAfter_mono (pieces : List Text) {j k : Nat} (order : j ≤ k) :
    offsetAfter pieces j ≤ offsetAfter pieces k := by
  rw [offsetAfter_eq_add pieces order]
  exact Nat.le_add_right _ _

/-- Each piece ends where the next one starts. -/
theorem offsetAfter_succ (pieces : List Text) {k : Nat} (inside : k < pieces.length) :
    offsetAfter pieces (k + 1) = offsetAfter pieces k + byteSize pieces[k] := by
  rw [offsetAfter, List.take_succ_eq_append_getElem inside, List.flatten_concat, byteSize_append,
    ← offsetAfter]

/-- If no piece is empty, the offsets determine the pieces before them. -/
theorem le_of_offsetAfter_le {pieces : List Text} (nonempty : ∀ piece ∈ pieces, piece ≠ [])
    {j k : Nat} (inside : j ≤ pieces.length) (below : offsetAfter pieces j ≤ offsetAfter pieces k) :
    j ≤ k := by
  refine Nat.le_of_not_lt fun hlt => ?_
  have hk : k < pieces.length := Nat.lt_of_lt_of_le hlt inside
  -- If `k` came first, the piece behind it would fit in between, and it is not empty.
  have hstep := offsetAfter_succ pieces hk
  have hmono : offsetAfter pieces (k + 1) ≤ offsetAfter pieces j := offsetAfter_mono pieces hlt
  have hpos := byteSize_pos (nonempty _ (List.getElem_mem hk))
  omega

/-- Between two offsets stand the pieces in between. -/
theorem slice_offsetAfter (pieces : List Text) {j k : Nat} (order : j ≤ k) :
    slice pieces.flatten (offsetAfter pieces j) (offsetAfter pieces k)
      = ((pieces.take k).drop j).flatten := by
  -- What stands before, between and behind the two offsets.
  have hsplit : pieces.flatten = (pieces.take j).flatten
      ++ (((pieces.take k).drop j).flatten ++ (pieces.drop k).flatten) := by
    rw [← List.append_assoc, ← flatten_take_eq_append pieces order, ← List.flatten_append,
      List.take_append_drop]
  rw [offsetAfter_eq_add pieces order, hsplit]
  exact slice_append _ _ _

end Text

end Highlighting
