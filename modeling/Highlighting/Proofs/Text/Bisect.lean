import Highlighting.Text.Bisect

/-!
# What bisection finds

On an array whose keys do not decrease, `upperBound` separates the entries whose key is at most `x`
from the others (`lt_upperBound_iff`), so `lastAtMost` is the last of the former.
-/

namespace Highlighting

variable {α : Type} (key : α → Nat) (entries : Array α) (x : Nat)

/-- Later entries have no smaller key. -/
def KeysAscend : Prop :=
  ∀ i j (_ : i < entries.size) (_ : j < entries.size), i ≤ j → key entries[i] ≤ key entries[j]

variable {key entries}

/-- What is found is an entry, whatever the order. -/
theorem mem_of_lastAtMost {entry : α} (found : lastAtMost key entries x = some entry) :
    entry ∈ entries := by
  unfold lastAtMost at found
  split at found
  · simp at found
  · exact Array.mem_of_getElem? found

/-- The halving loop keeps two things true: keys before `low` are at most `x`, and keys from `high`
on exceed it.  Where it stops, every entry is on one side or the other. -/
theorem upperBoundIn_spec (ascend : KeysAscend key entries) (low high : Nat)
    (bounded : high ≤ entries.size) (order : low ≤ high)
    (before : ∀ i (inside : i < entries.size), i < low → key entries[i] ≤ x)
    (behind : ∀ i (inside : i < entries.size), high ≤ i → x < key entries[i]) :
    upperBoundIn key entries x low high bounded ≤ entries.size ∧
      ∀ i (inside : i < entries.size),
        i < upperBoundIn key entries x low high bounded ↔ key entries[i] ≤ x := by
  fun_induction upperBoundIn key entries x low high bounded with
  | case1 low high bounded unsettled middle inside atMost ih =>
    -- The middle entry joins those before `low`, and with it all that precede it.
    refine ih (by omega) (fun i hi hlow => ?_) behind
    exact Nat.le_trans (ascend i middle hi inside (by omega)) atMost
  | case2 low high bounded unsettled middle inside exceeds ih =>
    -- The middle entry joins those from `high` on, and with it all that follow it.
    refine ih (by omega) before (fun i hi hhigh => ?_)
    exact Nat.lt_of_lt_of_le (Nat.lt_of_not_le exceeds) (ascend middle i inside hi hhigh)
  | case3 low high bounded settled =>
    refine ⟨by omega, fun i hi => ⟨before i hi, fun atMost => ?_⟩⟩
    exact Nat.lt_of_not_le fun hlow =>
      absurd (behind i hi (by omega)) (Nat.not_lt_of_le atMost)

theorem upperBound_le_size (ascend : KeysAscend key entries) :
    upperBound key entries x ≤ entries.size :=
  (upperBoundIn_spec x ascend 0 entries.size (Nat.le_refl _) (Nat.zero_le _)
    (fun _ _ h => absurd h (Nat.not_lt_zero _)) (fun _ hi h => absurd hi (Nat.not_lt_of_le h))).1

/-- The entries before the bound are those whose key is at most `x`. -/
theorem lt_upperBound_iff (ascend : KeysAscend key entries) {i : Nat}
    (inside : i < entries.size) : i < upperBound key entries x ↔ key entries[i] ≤ x :=
  (upperBoundIn_spec x ascend 0 entries.size (Nat.le_refl _) (Nat.zero_le _)
    (fun _ _ h => absurd h (Nat.not_lt_zero _))
    (fun _ hi h => absurd hi (Nat.not_lt_of_le h))).2 i inside

/-- If any entry has a key of at most `x`, the last such entry is found. -/
theorem exists_lastAtMost (ascend : KeysAscend key entries) (nonempty : 0 < entries.size)
    (first : key entries[0] ≤ x) :
    ∃ k, ∃ inside : k < entries.size, lastAtMost key entries x = some entries[k] ∧
      key entries[k] ≤ x ∧ ∀ j (hj : j < entries.size), key entries[j] ≤ x → j ≤ k := by
  have hpos := (lt_upperBound_iff x ascend nonempty).2 first
  have hsize := upperBound_le_size x ascend
  obtain ⟨k, hk⟩ : ∃ k, upperBound key entries x = k + 1 := Nat.exists_eq_succ_of_ne_zero (by omega)
  have inside : k < entries.size := by omega
  refine ⟨k, inside, ?_, ?_, fun j hj atMost => ?_⟩
  · simp [lastAtMost, hk, inside]
  · exact (lt_upperBound_iff x ascend inside).1 (by omega)
  · have hlt := (lt_upperBound_iff x ascend hj).2 atMost
    omega

end Highlighting
