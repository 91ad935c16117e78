import Highlighting.Proofs.Text.Subparts

/-!
# Lossy decoding follows its rule

The decoder does what the rule for ill-formed bytes says, and nothing else does (`decodesTo_iff`).
An unfinished sequence is described by the bytes that were read of it (`Pending.Spells`), and
`beginSequence_cases` and `step_cases` say all that one byte can do: it completes a character, goes
on with the sequence, or breaks it off.

What follows is read off the rule.  Decoding gives back every text from its UTF-8 form
(`decodeLossy_utf8`), and decodes what stands in front of an ASCII byte apart from what stands
behind it (`decodeLossy_append_ascii`).

### The induction

Bytes are decoded from left to right, and some of them may be undecided in between
(`Decoder.Keeps`).  So the statement that is proved by induction on the bytes is about a decoder in
any state: what it adds to what it has decoded follows the rule for the undecided bytes and those
still to come (`Decoder.exists_finish_foldl`).
-/

namespace Highlighting.Utf8

open String (utf8EncodeChar)

/-! ### Unfinished sequences -/

namespace Pending

/-- The code points that an unfinished sequence can still become: those with the bits that were read
on top and the next six in the range for the next byte. -/
def Allows (p : Pending) (n : Nat) : Prop :=
  p.bits * 64 + p.low.toNat % 64 ≤ n / 64 ^ (p.missing - 1) ∧
    n / 64 ^ (p.missing - 1) ≤ p.bits * 64 + p.high.toNat % 64

/-- The unfinished sequence stands for the bytes `seen`: the characters that it can still become are
those whose forms begin with these bytes, and the bytes that it misses are the other ones. -/
structure Spells (p : Pending) (seen : Bytes) : Prop where
  nonempty : seen ≠ []
  missing_pos : 0 < p.missing
  low_ge : 0x80 ≤ p.low.toNat
  low_le_high : p.low.toNat ≤ p.high.toNat
  high_le : p.high.toNat ≤ 0xBF
  valid : ∀ n, p.Allows n → n.isValidChar
  allows : ∀ c : Char, seen <+: utf8EncodeChar c → p.Allows c.toNat
  form : ∀ c : Char, p.Allows c.toNat →
    utf8EncodeChar c = seen ++ continuation p.missing c.toNat

/-- A first byte is spelled if it leads the forms of the code points allowed. -/
theorem Spells.singleton {p : Pending} {b : UInt8} (missing_pos : 0 < p.missing)
    (low_ge : 0x80 ≤ p.low.toNat) (low_le_high : p.low.toNat ≤ p.high.toNat)
    (high_le : p.high.toNat ≤ 0xBF) (valid : ∀ n, p.Allows n → n.isValidChar)
    (lead : ∀ n, n.isValidChar → leadByte n = b.toNat → p.Allows n)
    (led : ∀ n, p.Allows n → leadByte n = b.toNat ∧ followers n = p.missing) :
    p.Spells [b] where
  nonempty := List.cons_ne_nil b []
  missing_pos := missing_pos
  low_ge := low_ge
  low_le_high := low_le_high
  high_le := high_le
  valid := valid
  allows c hbegins := lead _ c.valid (singleton_prefix_utf8EncodeChar_iff.1 hbegins)
  form c hallows := by
    obtain ⟨hlead, hfollowers⟩ := led _ hallows
    rw [utf8EncodeChar_eq, hlead, hfollowers, UInt8.ofNat_toNat]
    rfl

/-- The first byte of two. -/
theorem spells_two {b : UInt8} (first : 0xC2 ≤ b.toNat) (last : b.toNat < 0xE0) :
    Spells ⟨b.toNat % 32, 1, 0x80, 0xBF⟩ [b] := by
  refine .singleton Nat.zero_lt_one (by simp) (by simp) (by simp) ?_ ?_ ?_
  all_goals
    intro n
    have hkind := leadByte_cases n
    simp only [Allows, Nat.isValidChar, UInt8.reduceToNat, Nat.reduceSub, Nat.pow_zero, Nat.div_one]
    omega

/-- The first byte of three. -/
theorem spells_three {b low high : UInt8} (first : 0xE0 ≤ b.toNat) (last : b.toNat < 0xF0)
    (lowest : b.toNat = 0xE0 ∧ low.toNat = 0xA0 ∨ b.toNat ≠ 0xE0 ∧ low.toNat = 0x80)
    (highest : b.toNat = 0xED ∧ high.toNat = 0x9F ∨ b.toNat ≠ 0xED ∧ high.toNat = 0xBF) :
    Spells ⟨b.toNat % 16, 2, low, high⟩ [b] := by
  refine .singleton Nat.two_pos ?_ ?_ ?_ ?_ ?_ ?_
  iterate 3
    dsimp only
    omega
  all_goals
    intro n
    have hkind := leadByte_cases n
    simp only [Allows, Nat.isValidChar, Nat.reduceSub, Nat.pow_one]
    omega

/-- The first byte of four. -/
theorem spells_four {b low high : UInt8} (first : 0xF0 ≤ b.toNat) (last : b.toNat < 0xF5)
    (lowest : b.toNat = 0xF0 ∧ low.toNat = 0x90 ∨ b.toNat ≠ 0xF0 ∧ low.toNat = 0x80)
    (highest : b.toNat = 0xF4 ∧ high.toNat = 0x8F ∨ b.toNat ≠ 0xF4 ∧ high.toNat = 0xBF) :
    Spells ⟨b.toNat % 8, 3, low, high⟩ [b] := by
  refine .singleton (Nat.zero_lt_succ 2) ?_ ?_ ?_ ?_ ?_ ?_
  iterate 3
    dsimp only
    omega
  all_goals
    intro n
    have hkind := leadByte_cases n
    simp only [Allows, Nat.isValidChar, Nat.reduceSub, Nat.reducePow]
    omega

variable {p : Pending} {seen : Bytes}

/-- Some character can still be made of an unfinished sequence. -/
theorem Spells.exists_allows (spells : p.Spells seen) : ∃ c : Char, p.Allows c.toNat := by
  -- The lowest byte of the range, with zeros for what is missing behind it, is a code point that is
  -- allowed.
  have hlow := spells.low_ge
  have hle := spells.low_le_high
  have hhigh := spells.high_le
  have hallows : p.Allows ((p.bits * 64 + p.low.toNat % 64) * 64 ^ (p.missing - 1)) := by
    unfold Allows
    rw [Nat.mul_div_cancel _ (Nat.pow_pos (by decide))]
    omega
  refine ⟨Char.ofNat ((p.bits * 64 + p.low.toNat % 64) * 64 ^ (p.missing - 1)), ?_⟩
  rwa [toNat_ofNat_of_isValidChar (spells.valid _ hallows)]

/-- The next byte of a character that is allowed is in the range, and has the next six bits. -/
theorem Spells.concat_prefix_iff (spells : p.Spells seen) {b : UInt8} {c : Char} :
    seen ++ [b] <+: utf8EncodeChar c ↔
      p.Allows c.toNat ∧ b.toNat = 0x80 + c.toNat / 64 ^ (p.missing - 1) % 64 := by
  obtain ⟨missing, hmissing⟩ := Nat.exists_eq_add_one.2 spells.missing_pos
  -- The form goes on with the next six bits of the character.
  have hbyte : (UInt8.ofNat (0x80 + c.toNat / 64 ^ missing % 64)).toNat
      = 0x80 + c.toNat / 64 ^ missing % 64 := toNat_byte (by omega)
  have hnext : p.Allows c.toNat →
      (seen ++ [b] <+: utf8EncodeChar c ↔ b.toNat = 0x80 + c.toNat / 64 ^ missing % 64) := by
    intro hallows
    rw [spells.form c hallows, hmissing, continuation, List.prefix_append_right_inj,
      List.cons_prefix_cons, ← UInt8.toNat_inj, hbyte]
    simp
  rw [hmissing, Nat.add_sub_cancel]
  constructor
  · intro hbegins
    have hallows := spells.allows c ((List.prefix_append seen [b]).trans hbegins)
    exact ⟨hallows, (hnext hallows).1 hbegins⟩
  · rintro ⟨hallows, hb⟩
    exact (hnext hallows).2 hb

/-- A sequence that cannot be continued is a maximal ill-formed subpart. -/
theorem Spells.maximalSubpart (spells : p.Spells seen) {rest : Bytes}
    (maximal : ∀ b, rest.head? = some b → ∀ c, ¬seen ++ [b] <+: utf8EncodeChar c) :
    MaximalSubpart seen rest where
  nonempty := spells.nonempty
  begins := by
    obtain ⟨c, hallows⟩ := spells.exists_allows
    exact .inr ⟨c, spells.form c hallows ▸ List.prefix_append _ _⟩
  illFormed c hform := by
    -- A form that is read in full misses nothing, but an unfinished sequence does.
    have hallows := spells.allows c (hform ▸ List.prefix_refl _)
    have hlength := congrArg List.length (spells.form c hallows)
    have hmissing := spells.missing_pos
    rw [← hform, List.length_append, length_continuation] at hlength
    omega
  maximal := maximal

/-- A byte out of range continues nothing. -/
theorem Spells.not_prefix_of_refused (spells : p.Spells seen) {b : UInt8}
    (refused : ¬(p.low ≤ b ∧ b ≤ p.high)) (c : Char) : ¬seen ++ [b] <+: utf8EncodeChar c := by
  intro hbegins
  obtain ⟨hallows, hb⟩ := spells.concat_prefix_iff.1 hbegins
  have hlow := spells.low_ge
  have hle := spells.low_le_high
  have hhigh := spells.high_le
  unfold Allows at hallows
  rw [UInt8.le_iff_toNat_le, UInt8.le_iff_toNat_le] at refused
  omega

/-- A byte in range completes a sequence that misses only one. -/
theorem Spells.completed (spells : p.Spells seen) (last : p.missing = 1) {b : UInt8}
    (above : p.low ≤ b) (below : b ≤ p.high) :
    utf8EncodeChar (Char.ofNat (p.bits * 64 + b.toNat % 64)) = seen ++ [b] := by
  have hlow := spells.low_ge
  have hhigh := spells.high_le
  rw [UInt8.le_iff_toNat_le] at above below
  have hallows : p.Allows (p.bits * 64 + b.toNat % 64) := by
    simp only [Allows, last, Nat.sub_self, Nat.pow_zero, Nat.div_one]
    omega
  have hcode := toNat_ofNat_of_isValidChar (spells.valid _ hallows)
  have hbyte : 0x80 + (p.bits * 64 + b.toNat % 64) % 64 = b.toNat := by omega
  rw [spells.form (Char.ofNat _) (by rwa [hcode]), hcode, last, continuation, Nat.pow_zero,
    Nat.div_one, hbyte, UInt8.ofNat_toNat]
  rfl

/-- A byte in range narrows a sequence that misses more down to the code points with its bits. -/
theorem Spells.continued (spells : p.Spells seen) {missing : Nat} (more : p.missing = missing + 2)
    {b : UInt8} (above : p.low ≤ b) (below : b ≤ p.high) :
    Spells ⟨p.bits * 64 + b.toNat % 64, missing + 1, 0x80, 0xBF⟩ (seen ++ [b]) := by
  have hlow := spells.low_ge
  have hhigh := spells.high_le
  rw [UInt8.le_iff_toNat_le] at above below
  -- To go on with a byte means to have its six bits next, which divides the code points by 64 once
  -- less.
  have hnarrow : ∀ n, Allows ⟨p.bits * 64 + b.toNat % 64, missing + 1, 0x80, 0xBF⟩ n ↔
      p.Allows n ∧ b.toNat = 0x80 + n / 64 ^ (p.missing - 1) % 64 := by
    intro n
    simp only [Allows, more, Nat.add_sub_cancel, Nat.reduceSubDiff, Nat.pow_succ,
      ← Nat.div_div_eq_div_mul, UInt8.reduceToNat]
    omega
  refine ⟨by simp, Nat.zero_lt_succ _, Nat.le_refl _, by simp, Nat.le_refl _, ?_, ?_, ?_⟩
  · intro n hn
    exact spells.valid n ((hnarrow n).1 hn).1
  · intro c hbegins
    exact (hnarrow _).2 (spells.concat_prefix_iff.1 hbegins)
  · intro c hallows
    obtain ⟨hold, hb⟩ := (hnarrow _).1 hallows
    have hb' : b.toNat = 0x80 + c.toNat / 64 ^ (missing + 1) % 64 := by rwa [more] at hb
    rw [spells.form c hold, more, continuation, ← hb', UInt8.ofNat_toNat, List.append_cons]

end Pending

namespace Decoder

/-! ### One byte -/

/-- What a first byte does: it is a character, begins one, or cannot begin any. -/
theorem beginSequence_cases (decoded : Array Char) (b : UInt8) :
    (∃ c, utf8EncodeChar c = [b] ∧ beginSequence decoded b = ⟨decoded.push c, none⟩) ∨
    (∃ p : Pending, p.Spells [b] ∧ beginSequence decoded b = ⟨decoded, some p⟩) ∨
    ((∀ c, ¬[b] <+: utf8EncodeChar c) ∧
      beginSequence decoded b = ⟨decoded.push replacement, none⟩) := by
  -- The branches of the decoder are the ranges of first bytes, and those between them lead no form.
  have hbound : b.toNat < 256 := b.toNat_lt
  unfold beginSequence
  simp only [singleton_prefix_utf8EncodeChar_iff, UInt8.lt_iff_toNat_lt, ← UInt8.toNat_inj,
    UInt8.reduceToNat]
  split
  · rename_i hascii
    exact .inl ⟨Char.ofNat b.toNat, utf8EncodeChar_of_ascii (UInt8.lt_iff_toNat_lt.2 hascii), rfl⟩
  split
  · refine .inr (.inr ⟨fun c => ?_, rfl⟩)
    have hrange := toNat_range c
    have hkind := leadByte_cases c.toNat
    omega
  split
  · exact .inr (.inl ⟨_, Pending.spells_two (by omega) (by omega), rfl⟩)
  split
  · refine .inr (.inl ⟨_, Pending.spells_three (by omega) (by omega) ?_ ?_, rfl⟩)
    · split <;> simp_all
    · split <;> simp_all
  split
  · refine .inr (.inl ⟨_, Pending.spells_four (by omega) (by omega) ?_ ?_, rfl⟩)
    · split <;> simp_all
    · split <;> simp_all
  · refine .inr (.inr ⟨fun c => ?_, rfl⟩)
    have hrange := toNat_range c
    have hkind := leadByte_cases c.toNat
    omega

/-- What another byte does to an unfinished sequence: it completes it, continues it, or is looked at
afresh. -/
theorem step_cases (decoded : Array Char) {p : Pending} {seen : Bytes} (spells : p.Spells seen)
    (b : UInt8) :
    (∃ c, utf8EncodeChar c = seen ++ [b] ∧ step ⟨decoded, some p⟩ b = ⟨decoded.push c, none⟩) ∨
    (∃ q : Pending, q.Spells (seen ++ [b]) ∧ step ⟨decoded, some p⟩ b = ⟨decoded, some q⟩) ∨
    ((∀ c, ¬seen ++ [b] <+: utf8EncodeChar c) ∧
      step ⟨decoded, some p⟩ b = beginSequence (decoded.push replacement) b) := by
  simp only [step]
  split
  · rename_i hrange
    split
    · rename_i hmissing
      -- A sequence that misses nothing is not unfinished.
      exact absurd spells.missing_pos (by omega)
    · rename_i hmissing
      exact .inl ⟨_, spells.completed hmissing hrange.1 hrange.2, rfl⟩
    · rename_i missing hmissing
      exact .inr (.inl ⟨_, spells.continued hmissing hrange.1 hrange.2, rfl⟩)
  · rename_i hrefused
    exact .inr (.inr ⟨spells.not_prefix_of_refused hrefused, rfl⟩)

/-! ### Many bytes -/

/-- All bytes but the ones `seen` have been decoded. -/
def Keeps (d : Decoder) (seen : Bytes) : Prop :=
  match d.pending with
  | none => seen = []
  | some p => p.Spells seen

/-- Decoding follows the rule from one byte on if it does from the next byte on. -/
theorem exists_finish_beginSequence (decoded : Array Char) (b : UInt8) {bytes : Bytes}
    (later : ∀ (d : Decoder) (seen : Bytes), d.Keeps seen →
      ∃ t, DecodesTo (seen ++ bytes) t ∧ (bytes.foldl step d).finish = d.decoded.toList ++ t) :
    ∃ t, DecodesTo (b :: bytes) t ∧
      (bytes.foldl step (beginSequence decoded b)).finish = decoded.toList ++ t := by
  rcases beginSequence_cases decoded b with ⟨c, hform, hbegin⟩ | ⟨p, hspells, hbegin⟩ |
    ⟨hnone, hbegin⟩
  · -- A character: nothing is kept, and the rule goes on behind its form.
    obtain ⟨t, hrule, hfinish⟩ := later ⟨decoded.push c, none⟩ [] rfl
    refine ⟨c :: t, ?_, ?_⟩
    · rw [← List.singleton_append, ← hform]
      exact .character c hrule
    · rw [hbegin, hfinish]
      simp
  · rw [hbegin]
    -- The beginning of a character: the byte is kept.
    exact later ⟨decoded, some p⟩ [b] hspells
  · -- No beginning of any: the byte is a subpart on its own.
    obtain ⟨t, hrule, hfinish⟩ := later ⟨decoded.push replacement, none⟩ [] rfl
    refine ⟨replacement :: t, .subpart (.singleton hnone bytes) hrule, ?_⟩
    rw [hbegin, hfinish]
    simp

/-- What a decoder adds to what it has decoded follows the rule. -/
theorem exists_finish_foldl (bytes : Bytes) (d : Decoder) (seen : Bytes) (keeps : d.Keeps seen) :
    ∃ t, DecodesTo (seen ++ bytes) t ∧ (bytes.foldl step d).finish = d.decoded.toList ++ t := by
  induction bytes generalizing d seen with
  | nil =>
    obtain ⟨decoded, _ | p⟩ := d
    · obtain rfl : seen = [] := keeps
      exact ⟨[], .nil, by simp [finish]⟩
    · have hspells : p.Spells seen := keeps
      -- The bytes ended inside a sequence, and nothing behind it could make it longer.
      exact ⟨[replacement], .subpart (hspells.maximalSubpart (by simp)) .nil, by simp [finish]⟩
  | cons b bytes ih =>
    obtain ⟨decoded, _ | p⟩ := d
    · obtain rfl : seen = [] := keeps
      exact exists_finish_beginSequence decoded b ih
    · have hspells : p.Spells seen := keeps
      rw [List.foldl_cons]
      rcases step_cases decoded hspells b with ⟨c, hform, hstep⟩ | ⟨q, hnext, hstep⟩ |
        ⟨hrefused, hstep⟩
      · obtain ⟨t, hrule, hfinish⟩ := ih ⟨decoded.push c, none⟩ [] rfl
        refine ⟨c :: t, ?_, ?_⟩
        · rw [List.append_cons, ← hform]
          exact .character c hrule
        · rw [hstep, hfinish]
          simp
      · rw [hstep, List.append_cons]
        exact ih ⟨decoded, some q⟩ _ hnext
      · -- The sequence breaks off, and the byte that ended it is looked at afresh.
        obtain ⟨t, hrule, hfinish⟩ := exists_finish_beginSequence (decoded.push replacement) b ih
        have hpart : MaximalSubpart seen (b :: bytes) := by
          refine hspells.maximalSubpart fun next hnext => ?_
          obtain rfl : b = next := by simpa using hnext
          exact hrefused
        refine ⟨replacement :: t, .subpart hpart hrule, ?_⟩
        rw [hstep, hfinish]
        simp

end Decoder

/-- The decoder follows the rule. -/
theorem decodesTo_decodeLossy (bytes : Bytes) : DecodesTo bytes (decodeLossy bytes) := by
  obtain ⟨t, hrule, hfinish⟩ := Decoder.exists_finish_foldl bytes .start [] rfl
  rw [decodeLossy, hfinish]
  exact hrule

/-- The rule defines the decoding. -/
theorem decodesTo_iff {bytes : Bytes} {t : Text} :
    DecodesTo bytes t ↔ t = decodeLossy bytes := by
  constructor
  · intro hrule
    exact hrule.unique (decodesTo_decodeLossy bytes)
  · rintro rfl
    exact decodesTo_decodeLossy bytes

/-! ### Encoded texts -/

/-- An encoded text is made of forms alone, and so decodes to itself. -/
theorem decodesTo_utf8 (t : Text) : DecodesTo t.utf8 t := by
  induction t with
  | nil => exact .nil
  | cons c t ih => exact .character c ih

/-- Decoding undoes encoding, and so replaces nothing in well-formed bytes. -/
@[simp] theorem decodeLossy_utf8 (t : Text) : decodeLossy t.utf8 = t :=
  (decodesTo_iff.1 (decodesTo_utf8 t)).symm

theorem utf8_inj {t u : Text} : t.utf8 = u.utf8 ↔ t = u := by
  constructor
  · intro hsame
    have hdecoded := congrArg decodeLossy hsame
    rwa [decodeLossy_utf8, decodeLossy_utf8] at hdecoded
  · rintro rfl
    rfl

/-! ### ASCII -/

section Ascii

variable {b : UInt8} (ascii : b < 0x80)
include ascii

/-- Decoding starts afresh behind an ASCII byte. -/
theorem decodeLossy_append_ascii (bytes rest : Bytes) :
    decodeLossy (bytes ++ b :: rest)
      = decodeLossy bytes ++ Char.ofNat b.toNat :: decodeLossy rest :=
  (decodesTo_iff.1 ((decodesTo_decodeLossy bytes).append_ascii ascii
    (decodesTo_decodeLossy rest))).symm

theorem decodeLossy_concat_ascii (bytes : Bytes) :
    decodeLossy (bytes ++ [b]) = decodeLossy bytes ++ [Char.ofNat b.toNat] :=
  decodeLossy_append_ascii ascii bytes []

/-- The ASCII characters of the text are those that stand among the bytes. -/
theorem mem_decodeLossy_iff {bytes : Bytes} : Char.ofNat b.toNat ∈ decodeLossy bytes ↔ b ∈ bytes :=
  (decodesTo_decodeLossy bytes).mem_iff ascii

end Ascii

theorem decodeLossy_eq_nil_iff {bytes : Bytes} : decodeLossy bytes = [] ↔ bytes = [] := by
  constructor
  · intro hempty
    have hrule := hempty ▸ decodesTo_decodeLossy bytes
    cases hrule with
    | nil => rfl
  · rintro rfl
    rfl

/-- The text ends in an ASCII character where the bytes end in it. -/
theorem getLast?_decodeLossy_iff {b : UInt8} (ascii : b < 0x80) {bytes : Bytes} :
    (decodeLossy bytes).getLast? = some (Char.ofNat b.toNat) ↔ bytes.getLast? = some b := by
  constructor
  · intro hlast
    have hmem := (mem_decodeLossy_iff ascii).1 (List.mem_of_getLast? hlast)
    -- Nothing stands behind the last such byte, since its text would end in another character.
    obtain ⟨rest, front, hreverse, hrest⟩ :=
      List.eq_append_cons_of_mem (List.mem_reverse.2 hmem)
    obtain rfl : bytes = front.reverse ++ b :: rest.reverse := by
      rw [← List.reverse_reverse bytes, hreverse]
      simp
    rw [decodeLossy_append_ascii ascii, List.getLast?_append, List.getLast?_cons, Option.some_or,
      Option.some_inj] at hlast
    cases hbehind : (decodeLossy rest.reverse).getLast? with
    | none =>
      rw [decodeLossy_eq_nil_iff.1 (List.getLast?_eq_none_iff.1 hbehind)]
      exact List.getLast?_concat
    | some c =>
      obtain rfl : c = Char.ofNat b.toNat := by simpa [hbehind] using hlast
      have hmem' := (mem_decodeLossy_iff ascii).1 (List.mem_of_getLast? hbehind)
      exact absurd (List.mem_reverse.1 hmem') hrest
  · intro hlast
    obtain ⟨front, rfl⟩ := List.getLast?_eq_some_iff.1 hlast
    rw [decodeLossy_concat_ascii ascii, List.getLast?_concat]

/-- For an encoded text, the decoded one is the text. -/
theorem getLast?_utf8_iff {b : UInt8} (ascii : b < 0x80) {t : Text} :
    t.utf8.getLast? = some b ↔ t.getLast? = some (Char.ofNat b.toNat) := by
  rw [← getLast?_decodeLossy_iff ascii, decodeLossy_utf8]

/-- ASCII bytes stand side by side where their characters do. -/
theorem infix_utf8_iff {a b : UInt8} (ascii : a < 0x80) (ascii' : b < 0x80) {t : Text} :
    [a, b] <:+: t.utf8 ↔ [Char.ofNat a.toNat, Char.ofNat b.toNat] <:+: t := by
  constructor
  · rintro ⟨front, rest, hbytes⟩
    refine ⟨decodeLossy front, decodeLossy rest, ?_⟩
    have hdecoded := congrArg decodeLossy hbytes
    rw [decodeLossy_utf8] at hdecoded
    rw [← hdecoded, show front ++ [a, b] ++ rest = front ++ a :: ([] ++ b :: rest) by simp,
      decodeLossy_append_ascii ascii, decodeLossy_append_ascii ascii']
    simp [decodeLossy_eq_nil_iff.2 rfl]
  · rintro ⟨front, rest, rfl⟩
    refine ⟨Text.utf8 front, Text.utf8 rest, ?_⟩
    simp [utf8EncodeChar_of_ascii ascii, utf8EncodeChar_of_ascii ascii']

end Highlighting.Utf8
