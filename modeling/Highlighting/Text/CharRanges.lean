import Highlighting.Text.Bisect

/-!
# Sets of characters as sorted ranges

A property of characters is tabulated as the array of its maximal code point ranges in ascending
order, ends included, and looked up by bisection.  Where a property holds of every second character
only, the table holds runs with a stride.
-/

namespace Highlighting

/-- Ranges of code points in ascending order, each with its first and its last member. -/
abbrev CharRanges := Array (Nat × Nat)

namespace CharRanges

/-- Whether the code point lies in one of the ranges: only the last range that starts at or before
it can hold it. -/
def contains (ranges : CharRanges) (codePoint : Nat) : Bool :=
  match lastAtMost Prod.fst ranges codePoint with
  | none => false
  | some (_, last) => codePoint ≤ last

end CharRanges

/-- Every `stride`-th code point from `first` to `last`. -/
structure CharRun where
  first : Nat
  last : Nat
  stride : Nat

namespace CharRun

/-- Whether a run holds a code point. -/
def covers (run : CharRun) (n : Nat) : Bool :=
  run.first ≤ n && n ≤ run.last && (n - run.first) % run.stride == 0

/-- Whether one of the runs, which are in ascending order, holds a code point. -/
def anyCovers (runs : Array CharRun) (n : Nat) : Bool :=
  (lastAtMost first runs n).any (·.covers n)

end CharRun

end Highlighting
