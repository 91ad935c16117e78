/-!
# Bisection

`upperBound` finds by halving how many leading entries of an array have a key of at most `x`.  On
an array whose keys do not decrease this is the number of *all* entries with such a key.
-/

namespace Highlighting

variable {α : Type}

/-- The first position in `[low, high)` whose key exceeds `x`, or `high`, found by halving. -/
def upperBoundIn (key : α → Nat) (entries : Array α) (x : Nat) (low high : Nat)
    (bounded : high ≤ entries.size) : Nat :=
  if unsettled : low < high then
    let middle := low + (high - low) / 2
    have inside : middle < entries.size := by omega
    if key entries[middle] ≤ x then
      upperBoundIn key entries x (middle + 1) high bounded
    else
      upperBoundIn key entries x low middle (by omega)
  else low
termination_by high - low

/-- The number of leading entries whose key is at most `x`. -/
def upperBound (key : α → Nat) (entries : Array α) (x : Nat) : Nat :=
  upperBoundIn key entries x 0 entries.size (Nat.le_refl _)

/-- The last entry whose key is at most `x`, if there is one. -/
def lastAtMost (key : α → Nat) (entries : Array α) (x : Nat) : Option α :=
  match upperBound key entries x with
  | 0 => none
  | n + 1 => entries[n]?

end Highlighting
