import Mathlib.Algebra.Group.Nat.Defs
import Highlighting.Text.Utf8

/-!
# The form of a character

The UTF-8 form of a character is a first byte (`leadByte`) and up to three more (`continuation`),
all determined by its code point (`utf8EncodeChar_eq`).  The first byte alone tells how many follow,
so that no form begins another one (`utf8EncodeChar_append_inj`).  A byte below `80` is a form of
its own and takes part in no other one (`mem_utf8EncodeChar_iff`).
-/

namespace Highlighting.Utf8

open String (utf8EncodeChar)

/-- A number that fits into a byte is the value of that byte. -/
theorem toNat_byte {n : Nat} (bound : n < 256) : (UInt8.ofNat n).toNat = n :=
  UInt8.toNat_ofNat_of_lt' bound

/-- Code points leave out the surrogates and end before `110000`. -/
theorem toNat_range (c : Char) :
    c.toNat < 0xD800 ∨ 0xDFFF < c.toNat ∧ c.toNat < 0x110000 :=
  c.valid

/-- A valid code point is that of its character; an invalid one would give the null character. -/
theorem toNat_ofNat_of_isValidChar {n : Nat} (valid : n.isValidChar) :
    (Char.ofNat n).toNat = n := by
  rw [Char.ofNat, dif_pos valid]
  rfl

/-- An ASCII byte, read as a code point, is that of its character. -/
theorem toNat_ofNat_of_ascii {b : UInt8} (ascii : b < 0x80) :
    (Char.ofNat b.toNat).toNat = b.toNat := by
  have hlt : b.toNat < 0x80 := UInt8.lt_iff_toNat_lt.1 ascii
  exact toNat_ofNat_of_isValidChar (.inl (by omega))

/-! ### The parts of a form -/

/-- The last bytes of the form of a code point. -/
def continuation : Nat → Nat → Bytes
  | 0, _ => []
  | k + 1, n => UInt8.ofNat (0x80 + n / 64 ^ k % 64) :: continuation k n

/-- There are as many last bytes as are asked for. -/
theorem length_continuation (k n : Nat) : (continuation k n).length = k := by
  induction k with
  | zero => rfl
  | succ k ih => rw [continuation, List.length_cons, ih]

/-- The first byte of the form of a code point. -/
def leadByte (n : Nat) : Nat :=
  if n ≤ 0x7F then n
  else if n ≤ 0x7FF then 0xC0 + n / 64
  else if n ≤ 0xFFFF then 0xE0 + n / 4096
  else 0xF0 + n / 262144

/-- The number of bytes that follow the first one. -/
def followers (n : Nat) : Nat :=
  if n ≤ 0x7F then 0 else if n ≤ 0x7FF then 1 else if n ≤ 0xFFFF then 2 else 3

/-- The form that the standard library writes, in terms of these parts.  It masks the bits of the
first byte where here they are only shifted; a code point is small enough for both to be the same.
-/
theorem utf8EncodeChar_eq (c : Char) :
    utf8EncodeChar c
      = UInt8.ofNat (leadByte c.toNat) :: continuation (followers c.toNat) c.toNat := by
  have hrange := toNat_range c
  unfold utf8EncodeChar leadByte followers
  rw [show c.val.toNat = c.toNat from rfl]
  generalize c.toNat = n at hrange ⊢
  by_cases hone : n ≤ 0x7F
  · simp only [if_pos hone, continuation]
  by_cases htwo : n ≤ 0x7FF
  · -- Two bytes hold 11 bits, 5 of them in the first one.
    have hlead : n / 64 % 32 + 0xC0 = 0xC0 + n / 64 := by omega
    simp only [if_neg hone, if_pos htwo, hlead, Nat.add_comm (_ % 64)]
    simp [continuation]
  by_cases hthree : n ≤ 0xFFFF
  · -- Three bytes hold 16 bits, 4 of them in the first one.
    have hlead : n / 4096 % 16 + 0xE0 = 0xE0 + n / 4096 := by omega
    simp only [if_neg hone, if_neg htwo, if_pos hthree, hlead, Nat.add_comm (_ % 64)]
    simp [continuation]
  · -- Four bytes hold 21 bits, 3 of them in the first one.
    have hlead : n / 262144 % 8 + 0xF0 = 0xF0 + n / 262144 := by omega
    simp only [if_neg hone, if_neg htwo, if_neg hthree, hlead, Nat.add_comm (_ % 64)]
    simp [continuation]

/-- The four kinds of forms. -/
theorem leadByte_cases (n : Nat) :
    (n ≤ 0x7F ∧ leadByte n = n ∧ followers n = 0) ∨
    (0x80 ≤ n ∧ n ≤ 0x7FF ∧ leadByte n = 0xC0 + n / 64 ∧ followers n = 1) ∨
    (0x800 ≤ n ∧ n ≤ 0xFFFF ∧ leadByte n = 0xE0 + n / 4096 ∧ followers n = 2) ∨
    (0x10000 ≤ n ∧ leadByte n = 0xF0 + n / 262144 ∧ followers n = 3) := by
  unfold leadByte followers
  by_cases hone : n ≤ 0x7F
  · rw [if_pos hone, if_pos hone]
    exact .inl ⟨hone, rfl, rfl⟩
  by_cases htwo : n ≤ 0x7FF
  · rw [if_neg hone, if_neg hone, if_pos htwo, if_pos htwo]
    exact .inr (.inl ⟨Nat.lt_of_not_le hone, htwo, rfl, rfl⟩)
  rw [if_neg hone, if_neg hone, if_neg htwo, if_neg htwo]
  by_cases hthree : n ≤ 0xFFFF
  · rw [if_pos hthree, if_pos hthree]
    exact .inr (.inr (.inl ⟨Nat.lt_of_not_le htwo, hthree, rfl, rfl⟩))
  · rw [if_neg hthree, if_neg hthree]
    exact .inr (.inr (.inr ⟨Nat.lt_of_not_le hthree, rfl, rfl⟩))

/-- The first byte is a byte. -/
theorem leadByte_lt (c : Char) : leadByte c.toNat < 256 := by
  have hrange := toNat_range c
  have hkind := leadByte_cases c.toNat
  omega

/-- A form begins with its first byte, and with no other one. -/
theorem singleton_prefix_utf8EncodeChar_iff {b : UInt8} {c : Char} :
    [b] <+: utf8EncodeChar c ↔ leadByte c.toNat = b.toNat := by
  have hlead : (UInt8.ofNat (leadByte c.toNat)).toNat = leadByte c.toNat :=
    toNat_byte (leadByte_lt c)
  rw [utf8EncodeChar_eq, List.cons_prefix_cons, ← UInt8.toNat_inj, hlead, eq_comm]
  simp

/-! ### ASCII -/

/-- An ASCII byte is the form of a character. -/
theorem utf8EncodeChar_of_ascii {b : UInt8} (ascii : b < 0x80) :
    utf8EncodeChar (Char.ofNat b.toNat) = [b] := by
  have hlt : b.toNat < 0x80 := UInt8.lt_iff_toNat_lt.1 ascii
  have hkind := leadByte_cases b.toNat
  have hlead : leadByte b.toNat = b.toNat := by omega
  have hfollowers : followers b.toNat = 0 := by omega
  rw [utf8EncodeChar_eq, toNat_ofNat_of_ascii ascii, hlead, hfollowers, UInt8.ofNat_toNat]
  rfl

/-- No last byte is ASCII. -/
theorem mem_continuation_ge {b : UInt8} {k n : Nat} (mem : b ∈ continuation k n) :
    0x80 ≤ b.toNat := by
  induction k with
  | zero => simp [continuation] at mem
  | succ k ih =>
    rcases List.mem_cons.1 mem with rfl | hlater
    · rw [toNat_byte (by omega)]
      exact Nat.le_add_right _ _
    · exact ih hlater

/-- An ASCII byte stands in the form of one character only. -/
theorem mem_utf8EncodeChar_iff {b : UInt8} (ascii : b < 0x80) {c : Char} :
    b ∈ utf8EncodeChar c ↔ c = Char.ofNat b.toNat := by
  constructor
  · intro hmem
    have hlt : b.toNat < 0x80 := UInt8.lt_iff_toNat_lt.1 ascii
    rw [utf8EncodeChar_eq, List.mem_cons] at hmem
    rcases hmem with hlead | hlater
    · have hcode : b.toNat = leadByte c.toNat := by rw [hlead, toNat_byte (leadByte_lt c)]
      have hkind := leadByte_cases c.toNat
      -- Only the first of the four kinds has a first byte below `80`.
      have hsame : b.toNat = c.toNat := by omega
      rw [hsame, Char.ofNat_toNat]
    · have hge := mem_continuation_ge hlater
      omega
  · rintro rfl
    rw [utf8EncodeChar_of_ascii ascii]
    exact List.mem_singleton_self b

/-! ### No form begins another one -/

/-- The first byte tells how many bytes follow, and the bits that they do not. -/
theorem leadByte_inj {c d : Char} (same : leadByte c.toNat = leadByte d.toNat) :
    followers c.toNat = followers d.toNat ∧
      c.toNat / 64 ^ followers c.toNat = d.toNat / 64 ^ followers c.toNat := by
  have hc := toNat_range c
  have hd := toNat_range d
  have hkind := leadByte_cases d.toNat
  rcases leadByte_cases c.toNat with ⟨hhigh, hlead, hfollowers⟩ | ⟨hlow, hhigh, hlead, hfollowers⟩ |
    ⟨hlow, hhigh, hlead, hfollowers⟩ | ⟨hlow, hlead, hfollowers⟩
  -- Different kinds have first bytes in different ranges, and within a kind the first byte holds
  -- the upper bits.
  all_goals
    rw [hfollowers]
    simp only [Nat.reducePow]
    omega

/-- The last bytes hold the bits that they stand for, so that these and the bits above them tell the
code point. -/
theorem continuation_inj {k n m : Nat} (top : n / 64 ^ k = m / 64 ^ k)
    (same : continuation k n = continuation k m) : n = m := by
  induction k with
  | zero => simpa using top
  | succ k ih =>
    obtain ⟨hbyte, hrest⟩ := List.cons.inj same
    have hbits := congrArg UInt8.toNat hbyte
    rw [toNat_byte (by omega), toNat_byte (by omega)] at hbits
    -- The six bits of the byte extend the bits above by the next digit to the base 64.
    rw [Nat.pow_succ, ← Nat.div_div_eq_div_mul, ← Nat.div_div_eq_div_mul] at top
    exact ih (by omega) hrest

/-- **No form begins another one.** Bytes that start with the forms of two characters start with
those of the same one. -/
theorem utf8EncodeChar_append_inj {c d : Char} {rest other : Bytes}
    (same : utf8EncodeChar c ++ rest = utf8EncodeChar d ++ other) : c = d ∧ rest = other := by
  rw [utf8EncodeChar_eq, utf8EncodeChar_eq, List.cons_append, List.cons_append] at same
  obtain ⟨hfirst, hbehind⟩ := List.cons.inj same
  have hlead := congrArg UInt8.toNat hfirst
  rw [toNat_byte (leadByte_lt c), toNat_byte (leadByte_lt d)] at hlead
  -- So many bytes follow on both sides, and what is behind them is the rest.
  obtain ⟨hfollowers, htop⟩ := leadByte_inj hlead
  rw [← hfollowers] at hbehind
  obtain ⟨hlast, hrest⟩ := List.append_inj hbehind (by simp only [length_continuation])
  exact ⟨Char.toNat_inj.1 (continuation_inj htop hlast), hrest⟩

end Highlighting.Utf8
