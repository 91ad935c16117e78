import Highlighting.Proofs.Text.Bisect
import Highlighting.Proofs.Text.Forms
import Highlighting.Proofs.Text.LetterCase
import Highlighting.Text.LowerCase

/-!
# Texts with the small form of a word

Unicode has some fourteen hundred capital letters, and a text may look around itself for its small
form.  None of that is to be seen in words like `theme`: the texts with that small form are the
ones that spell it in the letters `A` to `Z` and `a` to `z` (`Text.lower_eq_iff`).

Two characters beyond these have a basic letter in their small form.  The one of `İ` is an `i` with
a dot of its own behind it, which is in no such word.  But the one of the Kelvin sign is a `k` and
nothing else, so words with a `k` are left out.
-/

namespace Highlighting

/-- A character that is the small form of nothing but a basic letter in either case, or of itself
alone. -/
structure IsPlain (c : Char) : Prop where
  toLower_eq : c.toLower = c
  toNat_pos : 0 < c.toNat
  ascii : c.toNat < 0x80
  /-- It is not the small form of the Kelvin sign. -/
  ne_k : c ≠ 'k'

instance : DecidablePred IsPlain := fun c =>
  decidable_of_iff (c.toLower = c ∧ 0 < c.toNat ∧ c.toNat < 0x80 ∧ c ≠ 'k')
    ⟨fun ⟨hlower, hpos, hascii, hk⟩ => ⟨hlower, hpos, hascii, hk⟩,
      fun plain => ⟨plain.toLower_eq, plain.toNat_pos, plain.ascii, plain.ne_k⟩⟩

/-! ### The table -/

/-- Only the run of the Kelvin sign leads back to ASCII, and it holds nothing else. -/
theorem image_of_mem_lowerRuns :
    ∀ run ∈ lowerRuns.toList,
      0x80 ≤ run.image ∨ run.image = 'k'.toNat ∧ run.last = run.first := by
  decide +kernel

/-- Beyond ASCII, small forms stay beyond ASCII, but for that of the Kelvin sign. -/
theorem le_lowerCodePoint_or_eq {n : Nat} (beyond : 0x80 ≤ n) :
    0x80 ≤ lowerCodePoint n ∨ lowerCodePoint n = 'k'.toNat := by
  unfold lowerCodePoint
  split
  · rename_i run found
    split
    · rename_i covered
      -- The run that was found covers the character, so the image is moved as far as the character
      -- stands behind the start of the run.
      have hbounds : run.first ≤ n ∧ n ≤ run.last := by
        simp only [CharRun.covers, Bool.and_eq_true, decide_eq_true_eq] at covered
        exact covered.1
      have hmem : run ∈ lowerRuns.toList :=
        Array.mem_toList_iff.2 (mem_of_lastAtMost n found)
      rcases image_of_mem_lowerRuns run hmem with himage | ⟨himage, hlast⟩
      · exact .inl (by omega)
      · exact .inr (by omega)
    · exact .inl beyond
  · exact .inl beyond

/-! ### One character -/

/-- No character beyond ASCII is plain, and neither is `k`. -/
theorem not_isPlain_ofNat {n : Nat} (beyond : 0x80 ≤ n ∨ n = 'k'.toNat) :
    ¬IsPlain (Char.ofNat n) := by
  intro plain
  by_cases hvalid : n.isValidChar
  · rcases beyond with hbeyond | rfl
    · have hascii := plain.ascii
      rw [Utf8.toNat_ofNat_of_isValidChar hvalid] at hascii
      omega
    · exact plain.ne_k (Char.ofNat_toNat 'k')
  · -- A number that is no code point stands for the null character.
    have hpos := plain.toNat_pos
    rw [Char.ofNat, dif_neg hvalid] at hpos
    exact absurd hpos (Nat.lt_irrefl 0)

namespace Text

/-- Within ASCII, the small form is a single character. -/
theorem lowerForm_of_ascii {c : Char} (ascii : c.toNat < 0x80) : lowerForm c = [c.toLower] :=
  if_pos ascii

/-- What a character beyond ASCII becomes is in no plain word. -/
theorem exists_mem_lowerForm_not_isPlain {c : Char} (beyond : ¬c.toNat < 0x80) :
    ∃ d ∈ lowerForm c, ¬IsPlain d := by
  rw [lowerForm, if_neg beyond]
  split
  · -- The small form of `İ` ends in a dot above.
    exact ⟨'\u0307', by simp, by decide⟩
  · exact ⟨_, List.mem_singleton_self _,
      not_isPlain_ofNat (le_lowerCodePoint_or_eq (Nat.le_of_not_lt beyond))⟩

end Text

/-- A plain character is the small form of its own letter only. -/
theorem toLower_eq_iff_of_isPlain {c d : Char} (plain : IsPlain d) :
    c.toLower = d ↔ SameLetter c d := by
  rw [← toLower_eq_iff, plain.toLower_eq]

/-- Capital letters do not go beyond `Z`. -/
theorem IsCapitalOf.toNat_le {c d : Char} (capital : IsCapitalOf c d) : c.toNat ≤ 'Z'.toNat :=
  UInt32.le_iff_toNat_le.1 (Char.le_def.1 capital.2.1)

/-- Whoever is the same letter as an ASCII character is one too. -/
theorem SameLetter.ascii {c d : Char} (same : SameLetter c d) (ascii : d.toNat < 0x80) :
    c.toNat < 0x80 := by
  have hlast : 'Z'.toNat = 90 := rfl
  rcases same with rfl | hcapital | hcapital
  · exact ascii
  · have hle := hcapital.toNat_le
    omega
  · have hle := hcapital.toNat_le
    have hsmall := hcapital.2.2
    omega

/-! ### A word -/

namespace Text

/-- A word of plain characters. -/
def IsPlainWord (word : Text) : Prop := ∀ c ∈ word, IsPlain c

instance (word : Text) : Decidable word.IsPlainWord := List.decidableBAll _ word

/-- An ASCII character is made small whatever surrounds it, since it is no sigma. -/
theorem lowerBehind_cons_of_ascii {c : Char} (ascii : c.toNat < 0x80) (before t : Text) :
    lowerBehind before (c :: t) = c.toLower :: lowerBehind (c :: before) t := by
  have hsigma : c ≠ 'Σ' := by
    rintro rfl
    exact absurd ascii (by decide)
  rw [lowerBehind, if_neg fun h => hsigma h.1, lowerForm_of_ascii ascii]
  rfl

/-- A character beyond ASCII leaves something in the text that is not plain, also when it is a sigma
at the end of a word. -/
theorem exists_mem_lowerBehind_not_isPlain {c : Char} (beyond : ¬c.toNat < 0x80)
    (before t : Text) : ∃ d ∈ lowerBehind before (c :: t), ¬IsPlain d := by
  rw [lowerBehind]
  split
  · exact ⟨'ς', by simp, by decide⟩
  · obtain ⟨d, hmem, hplain⟩ := exists_mem_lowerForm_not_isPlain beyond
    exact ⟨d, List.mem_append_left _ hmem, hplain⟩

/-- What stands before the text makes no difference to a word of plain characters, since only a
capital sigma looks there. -/
theorem lowerBehind_eq_iff {t word : Text} (plain : word.IsPlainWord) (before : Text) :
    lowerBehind before t = word ↔ t.SameLetters word := by
  induction t generalizing before word with
  | nil => rw [lowerBehind, SameLetters, List.forall₂_nil_left_iff, eq_comm]
  | cons c t ih =>
    by_cases ascii : c.toNat < 0x80
    · rw [lowerBehind_cons_of_ascii ascii]
      cases word with
      | nil => simp [SameLetters]
      | cons d word =>
        obtain ⟨hd, hword⟩ := List.forall_mem_cons.1 plain
        -- Character by character: the same letter in front, and the rest by induction.
        rw [List.cons.injEq, toLower_eq_iff_of_isPlain hd, ih hword, SameLetters, SameLetters,
          List.forall₂_cons]
    · -- Beyond ASCII, neither side holds: what comes of `c` is not plain, and no letter of the
      -- word is the same letter as `c`.
      constructor
      · rintro rfl
        obtain ⟨d, hmem, hplain⟩ := exists_mem_lowerBehind_not_isPlain ascii before t
        exact absurd (plain d hmem) hplain
      · intro same
        cases same with
        | cons hsame _ =>
          exact absurd (hsame.ascii (plain _ List.mem_cons_self).ascii) ascii

/-- **A plain word is the small form of its own spellings only**, each letter in either case. -/
theorem lower_eq_iff {t word : Text} (plain : word.IsPlainWord) :
    t.lower = word ↔ t.SameLetters word :=
  lowerBehind_eq_iff plain []

/-- The Kelvin sign, which is why a plain word has no `k`. -/
example : lower ['\u212A'] = ['k'] := by decide +kernel

end Text

end Highlighting
