import Highlighting.Text.Basic
import Mathlib.Data.List.Forall2

/-!
# The case of letters

Two texts are equal up to the case of the letters `A` to `Z` if they have the same characters one by
one, but for capital letters in one that are small in the other (`Text.SameLetters`).  No letter
beyond these changes, whatever its case.
-/

namespace Highlighting

/-- The first character is a capital letter from `A` to `Z`, and the second one the small letter. -/
def IsCapitalOf (c d : Char) : Prop := 'A' ≤ c ∧ c ≤ 'Z' ∧ d.toNat = c.toNat + 32

/-- The same character, or the same letter from `A` to `Z` in two cases. -/
def SameLetter (c d : Char) : Prop := c = d ∨ IsCapitalOf c d ∨ IsCapitalOf d c

/-- Small letters are 32 code points behind the capital ones, and no other character moves. -/
theorem toNat_toLower (c : Char) :
    c.toLower.toNat = if 'A' ≤ c ∧ c ≤ 'Z' then c.toNat + 32 else c.toNat := by
  unfold Char.toLower
  simp only [Char.le_def]
  split
  · rename_i hcapital
    have hle : c.val.toNat ≤ 90 := UInt32.le_iff_toNat_le.1 hcapital.2
    -- A capital letter is so small that adding 32 does not wrap around.
    have hlt : c.val.toNat + 32 < 2 ^ 32 := by omega
    change (c.val + 32).toNat = c.val.toNat + 32
    rw [UInt32.toNat_add]
    exact Nat.mod_eq_of_lt hlt
  · rfl

/-- Two characters are alike in small letters exactly if they are the same letter.  The letters `A`
to `Z` and `a` to `z` do not meet, so a capital letter has no other partner than its own small one.
-/
theorem toLower_eq_iff {c d : Char} : c.toLower = d.toLower ↔ SameLetter c d := by
  -- With characters as numbers, all that is left is arithmetic.
  have hle : ∀ a b : Char, a ≤ b ↔ a.toNat ≤ b.toNat := by
    intro a b
    rw [Char.le_def, UInt32.le_iff_toNat_le]
    rfl
  have hfirst : 'A'.toNat = 65 := rfl
  have hlast : 'Z'.toNat = 90 := rfl
  rw [← Char.toNat_inj, toNat_toLower, toNat_toLower, SameLetter, IsCapitalOf, IsCapitalOf,
    ← Char.toNat_inj]
  simp only [hle, hfirst, hlast]
  -- Each of the two may be a capital letter or not.
  split <;> split <;> omega

namespace Text

/-- The two texts have the same letters, in whichever case. -/
def SameLetters (s t : Text) : Prop := List.Forall₂ SameLetter s t

/-- The comparison that the program makes, through small letters, is letter by letter that of
`SameLetter`. -/
theorem eqIgnoringAsciiCase_iff {s t : Text} :
    eqIgnoringAsciiCase s t = true ↔ s.SameLetters t := by
  have hletter : SameLetter = fun c d => c.toLower = d.toLower := by
    funext c d
    exact propext toLower_eq_iff.symm
  -- Equality of the two lists in small letters, put as a relation between their entries.
  have hlower : s.asciiLower = t.asciiLower ↔
      List.Forall₂ (· = ·) (s.map Char.toLower) (t.map Char.toLower) := by
    rw [List.forall₂_eq_eq_eq, asciiLower, asciiLower]
  rw [eqIgnoringAsciiCase, beq_iff_eq, hlower, List.forall₂_map_left_iff,
    List.forall₂_map_right_iff, SameLetters, hletter]

end Text

end Highlighting
