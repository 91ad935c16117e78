import Highlighting.Proofs.Text.Forms

/-!
# Characters and ill-formed subparts

Any bytes are made of characters' forms and of *maximal ill-formed subparts*.  Decoding them lossily
gives the characters, with one replacement character for each subpart; `DecodesTo` states this rule
without a machine.  Since no form begins another one and a subpart cannot be made longer, the rule
leaves no choice (`DecodesTo.unique`).

An ASCII byte is a form of its own and occurs in no subpart.  So it always stands for itself
(`DecodesTo.mem_iff`), and bytes in front of it can be decoded apart from those behind it
(`DecodesTo.append_ascii`).
-/

namespace Highlighting.Utf8

open String (utf8EncodeChar)

/-- A maximal ill-formed subpart in front of other bytes: a single byte, or the beginning of a
character's form, that is no form itself and cannot be made longer. -/
structure MaximalSubpart (part rest : Bytes) : Prop where
  nonempty : part ≠ []
  begins : part.length = 1 ∨ ∃ c, part <+: utf8EncodeChar c
  illFormed : ∀ c, part ≠ utf8EncodeChar c
  maximal : ∀ b, rest.head? = some b → ∀ c, ¬part ++ [b] <+: utf8EncodeChar c

/-- A byte that begins no form is a subpart of its own. -/
theorem MaximalSubpart.singleton {b : UInt8} (unfit : ∀ c, ¬[b] <+: utf8EncodeChar c)
    (rest : Bytes) : MaximalSubpart [b] rest where
  nonempty := List.cons_ne_nil b []
  begins := .inl rfl
  illFormed c hform := unfit c (hform ▸ List.prefix_refl _)
  maximal _ _ c hbegins := unfit c ((List.prefix_append _ _).trans hbegins)

/-- Bytes decode to the characters whose forms they are made of, with a mark for each maximal
ill-formed subpart. -/
inductive DecodesTo : Bytes → Text → Prop
  | nil : DecodesTo [] []
  | character (c : Char) {rest : Bytes} {t : Text} :
      DecodesTo rest t → DecodesTo (utf8EncodeChar c ++ rest) (c :: t)
  | subpart {part rest : Bytes} {t : Text} :
      MaximalSubpart part rest → DecodesTo rest t → DecodesTo (part ++ rest) (replacement :: t)

/-! ### No choice -/

namespace MaximalSubpart

variable {part rest part' rest' : Bytes}

/-- No character's form stands where a maximal ill-formed subpart does. -/
theorem append_ne_utf8EncodeChar_append (sub : MaximalSubpart part rest) (c : Char)
    (other : Bytes) : part ++ rest ≠ utf8EncodeChar c ++ other := by
  intro hsame
  -- Either the form reaches beyond the subpart, which could then be made longer, or it ends inside.
  rcases List.append_eq_append_iff.1 hsame with ⟨more, hform, hrest⟩ | ⟨excess, hpart, -⟩
  · cases more with
    | nil => exact sub.illFormed c (by rw [hform, List.append_nil])
    | cons b more =>
      refine sub.maximal b (by rw [hrest]; rfl) c ⟨more, ?_⟩
      rw [hform, List.append_assoc, List.singleton_append]
  · -- A form inside would begin the subpart, but no form begins another one.
    have hexcess : excess = [] := by
      rcases sub.begins with hlength | ⟨d, front, hd⟩
      · have hpos : 0 < (utf8EncodeChar c).length := by
          rw [String.length_utf8EncodeChar]
          exact c.utf8Size_pos
        rw [hpart, List.length_append] at hlength
        exact List.length_eq_zero_iff.1 (by omega)
      · have hd' : utf8EncodeChar c ++ (excess ++ front) = utf8EncodeChar d ++ [] := by
          rw [← List.append_assoc, ← hpart, hd, List.append_nil]
        exact (List.append_eq_nil_iff.1 (utf8EncodeChar_append_inj hd').2).1
    exact sub.illFormed c (by rw [hpart, hexcess, List.append_nil])

/-- A maximal ill-formed subpart cannot be made longer. -/
theorem eq_nil_of_append {more : Bytes} (sub : MaximalSubpart part (more ++ rest))
    (longer : MaximalSubpart (part ++ more) rest) : more = [] := by
  cases more with
  | nil => rfl
  | cons b more =>
    rcases longer.begins with hlength | ⟨c, hbegins⟩
    · have hpos := List.length_pos_iff.2 sub.nonempty
      rw [List.length_append, List.length_cons] at hlength
      omega
    · rw [List.append_cons] at hbegins
      exact absurd ((List.prefix_append _ _).trans hbegins) (sub.maximal b rfl c)

/-- The longer one of two subparts at one place could be cut short, so they are equal. -/
theorem append_inj (sub : MaximalSubpart part rest) (sub' : MaximalSubpart part' rest')
    (same : part ++ rest = part' ++ rest') : part = part' ∧ rest = rest' := by
  rcases List.append_eq_append_iff.1 same with ⟨more, rfl, rfl⟩ | ⟨more, rfl, rfl⟩
  · rw [sub.eq_nil_of_append sub', List.append_nil, List.nil_append]
    exact ⟨rfl, rfl⟩
  · rw [sub'.eq_nil_of_append sub, List.append_nil, List.nil_append]
    exact ⟨rfl, rfl⟩

/-- ASCII bytes occur in no ill-formed subpart. -/
theorem notMem_of_ascii (sub : MaximalSubpart part rest) {b : UInt8} (ascii : b < 0x80) :
    b ∉ part := by
  intro hmem
  have hform := utf8EncodeChar_of_ascii ascii
  refine sub.illFormed (Char.ofNat b.toNat) ?_
  rw [hform]
  rcases sub.begins with hlength | ⟨c, hbegins⟩
  · obtain ⟨a, rfl⟩ := List.length_eq_one_iff.1 hlength
    rw [List.mem_singleton.1 hmem]
  · obtain rfl := (mem_utf8EncodeChar_iff ascii).1 (hbegins.subset hmem)
    rw [hform] at hbegins
    exact (List.prefix_cons_iff.1 hbegins).elim (fun hnil => absurd hnil sub.nonempty)
      (fun ⟨t, ht, hnil⟩ => by rw [ht, List.prefix_nil.1 hnil])

end MaximalSubpart

/-- Bytes decode to one text only. -/
theorem DecodesTo.unique {bytes : Bytes} {t u : Text} (rule : DecodesTo bytes t)
    (other : DecodesTo bytes u) : t = u := by
  induction rule generalizing u with
  | nil =>
    generalize hbytes : ([] : Bytes) = bytes at other
    cases other with
    | nil => rfl
    | character c _ =>
      simp at hbytes
    | subpart hpart _ => exact absurd (List.append_eq_nil_iff.1 hbytes.symm).1 hpart.nonempty
  | @character c rest t _ ih =>
    generalize hbytes : utf8EncodeChar c ++ rest = bytes at other
    cases other with
    | nil => simp at hbytes
    | character d hlater =>
      obtain ⟨rfl, rfl⟩ := utf8EncodeChar_append_inj hbytes
      rw [ih hlater]
    | subpart hpart _ => exact absurd hbytes.symm (hpart.append_ne_utf8EncodeChar_append c rest)
  | @subpart part rest t hpart _ ih =>
    generalize hbytes : part ++ rest = bytes at other
    cases other with
    | nil => exact absurd (List.append_eq_nil_iff.1 hbytes).1 hpart.nonempty
    | character d _ => exact absurd hbytes (hpart.append_ne_utf8EncodeChar_append d _)
    | subpart hpart' hlater =>
      obtain ⟨rfl, rfl⟩ := hpart.append_inj hpart' hbytes
      rw [ih hlater]

/-! ### ASCII -/

section Ascii

variable {b : UInt8} (ascii : b < 0x80)
include ascii

/-- An ASCII byte completes nothing that stands in front of it, and a subpart stays maximal there.
-/
theorem DecodesTo.append_ascii {bytes rest : Bytes} {t u : Text} (front : DecodesTo bytes t)
    (back : DecodesTo rest u) : DecodesTo (bytes ++ b :: rest) (t ++ Char.ofNat b.toNat :: u) := by
  induction front with
  | nil =>
    rw [List.nil_append, ← List.singleton_append, ← utf8EncodeChar_of_ascii ascii]
    exact .character _ back
  | character c _ ih =>
    rw [List.append_assoc]
    exact .character c ih
  | @subpart part later t hpart _ ih =>
    have hlonger : MaximalSubpart part (later ++ b :: rest) := by
      refine ⟨hpart.nonempty, hpart.begins, hpart.illFormed, fun next hnext c hbegins => ?_⟩
      cases later with
      | nil =>
        -- The ASCII byte would be part of a longer form.
        obtain rfl : b = next := by simpa using hnext
        obtain rfl := (mem_utf8EncodeChar_iff ascii).1 (hbegins.subset (by simp))
        rw [utf8EncodeChar_of_ascii ascii] at hbegins
        have hlength := hbegins.length_le
        have hpos := List.length_pos_iff.2 hpart.nonempty
        rw [List.length_append, List.length_singleton] at hlength
        omega
      | cons a later => exact hpart.maximal next hnext c hbegins
    rw [List.append_assoc]
    exact .subpart hlonger ih

/-- The character of an ASCII byte is no mark, and no other form has the byte in it. -/
theorem DecodesTo.mem_iff {bytes : Bytes} {t : Text} (rule : DecodesTo bytes t) :
    Char.ofNat b.toNat ∈ t ↔ b ∈ bytes := by
  induction rule with
  | nil => simp
  | character c _ ih =>
    rw [List.mem_cons, List.mem_append, mem_utf8EncodeChar_iff ascii, ih, eq_comm]
  | subpart hpart _ ih =>
    -- The mark is not an ASCII character.
    have hmark : Char.ofNat b.toNat ≠ replacement := by
      intro heq
      have hcode := congrArg Char.toNat heq
      rw [toNat_ofNat_of_ascii ascii] at hcode
      have hlt : b.toNat < 0x80 := UInt8.lt_iff_toNat_lt.1 ascii
      rw [hcode] at hlt
      exact absurd hlt (by decide)
    rw [List.mem_cons, List.mem_append, ih]
    simp [hmark, hpart.notMem_of_ascii ascii]

end Ascii

end Highlighting.Utf8
