/-!
# Marks

What a match has noted on its way: where each group began and where it ended.  Group 0 is the match
itself.  Every group has two marks, and the latest note on a mark counts.
-/

namespace Highlighting

/-- Notes on marks, latest first.  A mark may also be noted as unset. -/
abbrev Marks := List (Nat × Option Nat)

namespace Marks

/-- The mark for the beginning of a group. -/
def opening (index : Nat) : Nat := 2 * index

/-- The mark for the end of a group. -/
def closing (index : Nat) : Nat := 2 * index + 1

/-- Notes a position. -/
def note (marks : Marks) (mark position : Nat) : Marks := (mark, some position) :: marks

/-- Notes that groups have not taken part. -/
def unset (marks : Marks) (groups : List Nat) : Marks :=
  groups.foldl (fun marks index => (opening index, none) :: (closing index, none) :: marks) marks

/-- Whether a group has begun, which it has also while its end is still ahead. -/
def hasBegun (marks : Marks) (index : Nat) : Bool := (marks.lookup (opening index)).join.isSome

/-- What a group took, if it took part. -/
def group? (marks : Marks) (index : Nat) : Option (Nat × Nat) :=
  match marks.lookup (opening index), marks.lookup (closing index) with
  | some (some start), some (some stop) => some (start, stop)
  | _, _ => none

end Marks

end Highlighting
