import Highlighting.Proofs.Text.Lines
import Highlighting.Proofs.Theme.Resolution
import Highlighting.Token.Basic

/-!
# Scopes match up to a dot

Scopes are compared atom by atom, and atoms are what dots divide a text into.  So a scope can be
found among others by its text alone: one text is under another if it is the same, or goes on behind
it with a dot (`Text.DottedUnder`), where dots at their ends do not count.  An atom is taken whole
or not at all, since nothing but a dot may follow.

White space around a text does not belong to it, and has to be taken off before texts are compared
(`Text.FallsUnder`).  Then tokens and rules find the same scopes, and those that the texts say
(`Scope.matches_dotted_texts`).
-/

namespace Highlighting

/-- A list with a separator is known from its first piece and from what follows it. -/
theorem append_separator_eq_iff {α : Type} {separator : α} {front rest front' rest' : List α}
    (clean : separator ∉ front) (clean' : separator ∉ front') :
    front ++ separator :: rest = front' ++ separator :: rest' ↔ front = front' ∧ rest = rest' := by
  constructor
  · exact append_separator_inj clean clean'
  · rintro ⟨rfl, rfl⟩
    rfl

/-- Of two lists with a separator, one starts the other if they have the same first piece and what
follows it starts what follows there. -/
theorem append_separator_prefix_iff {α : Type} {separator : α} {front rest front' rest' : List α}
    (clean : separator ∉ front) (clean' : separator ∉ front') :
    front ++ separator :: rest <+: front' ++ separator :: rest' ↔
      front = front' ∧ rest <+: rest' := by
  constructor
  · rintro ⟨later, hsame⟩
    rw [List.append_assoc, List.cons_append] at hsame
    obtain ⟨rfl, rfl⟩ := append_separator_inj clean clean' hsame
    exact ⟨rfl, later, rfl⟩
  · rintro ⟨rfl, later, rfl⟩
    exact ⟨later, by simp⟩

/-- The pieces of one list are the first pieces of another if the lists are equal, or the other one
goes on with a separator. -/
theorem splitOn_prefix_iff {α : Type} [BEq α] [LawfulBEq α] (separator : α) (s t : List α) :
    s.splitOn separator <+: t.splitOn separator ↔ s = t ∨ s ++ [separator] <+: t := by
  induction s using separatorInduction separator generalizing t with
  -- The first list has no separator, and so it is the only piece: it is either all of the other
  -- list, or its first piece.
  | piece s clean =>
    rw [List.splitOn_eq_singleton clean]
    by_cases hmem : separator ∈ t
    · obtain ⟨front, rest, rfl, hfront⟩ := List.eq_append_cons_of_mem hmem
      have hne : s ≠ front ++ separator :: rest := fun hsame => clean (hsame ▸ hmem)
      rw [splitOn_append_separator hfront, List.cons_prefix_cons, or_iff_right hne,
        append_separator_prefix_iff clean hfront, iff_true_intro List.nil_prefix,
        iff_true_intro List.nil_prefix]
    · have hnot : ¬s ++ [separator] <+: t := fun hstarts => hmem (hstarts.subset (by simp))
      rw [List.splitOn_eq_singleton hmem, or_iff_left hnot, List.cons_prefix_cons,
        and_iff_left List.nil_prefix]
  | append front rest clean ih =>
    rw [splitOn_append_separator clean]
    by_cases hmem : separator ∈ t
    · obtain ⟨front', rest', rfl, hfront'⟩ := List.eq_append_cons_of_mem hmem
      -- Both lists have a first piece; it is the same one, and the question is passed on to what
      -- follows.
      rw [splitOn_append_separator hfront', List.cons_prefix_cons, ih,
        append_separator_eq_iff clean hfront', List.append_assoc, List.cons_append,
        append_separator_prefix_iff clean hfront', and_or_left]
    · -- The other list has one piece only, and this one has at least two.
      have hmore : ¬rest.splitOn separator <+: [] := fun hstarts =>
        List.splitOn_ne_nil _ _ (List.prefix_nil.1 hstarts)
      have hne : front ++ separator :: rest ≠ t := fun hsame => hmem (hsame ▸ by simp)
      have hnot : ¬front ++ separator :: rest ++ [separator] <+: t :=
        fun hstarts => hmem (hstarts.subset (by simp))
      rw [List.splitOn_eq_singleton hmem, List.cons_prefix_cons, or_iff_left hnot]
      exact iff_of_false (fun hstarts => hmore hstarts.2) hne

namespace Text

/-- The text without the dots at its end. -/
def stem (t : Text) : Text := t.trimEnd (· == '.')

/-- The text `p` is empty, or this one is not, and without the dots at their ends this one is the
same as `p` or goes on behind it with a dot. -/
def DottedUnder (s p : Text) : Prop :=
  p = [] ∨ s ≠ [] ∧ (s.stem = p.stem ∨ p.stem ++ ['.'] <+: s.stem)

/-- This text is under the other one when the white space around them is gone. -/
def FallsUnder (s p : Text) : Prop := s.trim.DottedUnder p.trim

instance (s p : Text) : Decidable (s.DottedUnder p) :=
  inferInstanceAs (Decidable (_ ∨ _ ∧ (_ ∨ _)))

instance (s p : Text) : Decidable (s.FallsUnder p) :=
  inferInstanceAs (Decidable (s.trim.DottedUnder p.trim))

end Text

namespace Scope

/-- A scope covers those whose atoms begin with its own. -/
theorem covers_iff {p s : Scope} : p.covers s = true ↔ p.atoms <+: s.atoms :=
  List.isPrefixOf_iff_prefix

/-- White space spells the empty scope. -/
theorem ofText_of_trim_eq_nil {t : Text} (blank : t.trim = []) : ofText t = empty := by
  rw [ofText, blank]
  rfl

/-- Otherwise the atoms are what the dots divide the text into, the dots at the end left out. -/
theorem atoms_ofText {t : Text} (spelled : t.trim ≠ []) :
    (ofText t).atoms = t.trim.stem.splitOn '.' := by
  unfold ofText
  rw [if_neg (by simpa using spelled)]
  rfl

/-- Whether one scope covers another can be read off the texts that spell them. -/
theorem covers_ofText_iff {p s : Text} :
    (ofText p).covers (ofText s) = true ↔ s.FallsUnder p := by
  rw [covers_iff, Text.FallsUnder, Text.DottedUnder]
  -- The empty scope covers everything, and is covered by itself only.
  by_cases hp : p.trim = []
  · rw [ofText_of_trim_eq_nil hp]
    exact ⟨fun _ => .inl hp, fun _ => List.nil_prefix ..⟩
  rw [or_iff_right hp, atoms_ofText hp]
  by_cases hs : s.trim = []
  · rw [ofText_of_trim_eq_nil hs]
    constructor
    · intro hstarts
      exact absurd (List.prefix_nil.1 hstarts) (List.splitOn_ne_nil _ _)
    · rintro ⟨hspelled, -⟩
      exact absurd hs hspelled
  · rw [and_iff_right hs, atoms_ofText hs, splitOn_prefix_iff, eq_comm]

/-- A text that is a scope spells just that one. -/
theorem eq_ofText_of_parse {t : Text} {scope : Scope} (spells : parse t = .ok scope) :
    scope = ofText t := by
  simp only [parse] at spells
  split at spells
  · exact (Except.ok.inj spells).symm
  · simp at spells

/-- The same of texts that are read as scopes. -/
theorem covers_of_parse {p s : Text} {selector scope : Scope} (spells : parse p = .ok selector)
    (spells' : parse s = .ok scope) : selector.covers scope = true ↔ s.FallsUnder p := by
  rw [eq_ofText_of_parse spells, eq_ofText_of_parse spells', covers_ofText_iff]

/-- A token is asked for a text by asking its scopes for what the text spells. -/
theorem hasScope_of_parse {p : Text} {selector : Scope} (spells : parse p = .ok selector)
    (token : Token) : token.hasScope p = selector.coversAny token.scopes := by
  rw [Token.hasScope, spells]

/-- Among one scope, that one is asked. -/
@[simp] theorem coversAny_singleton (p s : Scope) : p.coversAny [s] = p.covers s :=
  Bool.or_false _

end Scope

namespace Text

/-- A text is under itself, since a list begins itself. -/
theorem fallsUnder_refl (t : Text) : t.FallsUnder t :=
  Scope.covers_ofText_iff.1 (Scope.covers_iff.2 (List.prefix_refl _))

/-- What is under a text is under all that this is under, since beginnings of beginnings are
beginnings. -/
theorem FallsUnder.trans {r q p : Text} (lower : r.FallsUnder q) (upper : q.FallsUnder p) :
    r.FallsUnder p := by
  rw [← Scope.covers_ofText_iff, Scope.covers_iff] at lower upper ⊢
  exact upper.trans lower

end Text

namespace Scope

/-- **Scopes match up to a dot**, for tokens and for rules alike: whether the scope of one text
covers that of another can be read off the texts, up to white space around them.  Among several
scopes it is enough that one is covered.  Every text is under itself, and under what the texts above
it are under. -/
theorem matches_dotted_texts {p : Text} {selector : Scope} (spells : parse p = .ok selector) :
    (∀ (s : Text) (scope : Scope), parse s = .ok scope → ∀ (start stop : Nat) (style : Style),
      ((⟨start, stop, [scope]⟩ : Token).hasScope p = true ↔ s.FallsUnder p) ∧
        ((⟨selector, style⟩ : Rule).covers [scope] = true ↔ s.FallsUnder p)) ∧
    (∀ (scopes : List Scope) (start stop : Nat) (style : Style),
      (⟨start, stop, scopes⟩ : Token).hasScope p = (⟨selector, style⟩ : Rule).covers scopes ∧
        ((⟨selector, style⟩ : Rule).covers scopes = true ↔
          ∃ scope ∈ scopes, (⟨selector, style⟩ : Rule).covers [scope] = true)) ∧
    p.FallsUnder p ∧
    ∀ q r : Text, q.FallsUnder p → r.FallsUnder q → r.FallsUnder p := by
  refine ⟨fun s scope hs start stop style => ?_, fun scopes start stop style => ?_,
    p.fallsUnder_refl, fun q r hupper hlower => hlower.trans hupper⟩
  · have hcovers : selector.coversAny [scope] = true ↔ s.FallsUnder p := by
      rw [coversAny_singleton, covers_of_parse spells hs]
    exact ⟨by rw [hasScope_of_parse spells, hcovers], hcovers⟩
  · refine ⟨hasScope_of_parse spells _, ?_⟩
    unfold Rule.covers
    rw [coversAny, List.any_eq_true]
    simp only [coversAny_singleton]

/-- Dots at the ends do not count, and an atom is taken whole. -/
theorem matches_dotted_texts_partial :
    parse [' ', 'c', '.', '.'] = .ok ⟨[['c']]⟩ ∧
      parse ['c', '.', '.', 'd'] = .ok ⟨[['c'], [], ['d']]⟩ ∧
      parse ['c', 'd'] = .ok ⟨[['c', 'd']]⟩ ∧
      (⟨0, 2, [⟨[['c'], [], ['d']]⟩]⟩ : Token).hasScope [' ', 'c', '.', '.'] = true ∧
      ¬(⟨⟨[['c']]⟩, .unset⟩ : Rule).covers [⟨[['c', 'd']]⟩] = true := by
  have hp : parse [' ', 'c', '.', '.'] = .ok ⟨[['c']]⟩ := by cbv
  have hwhole : parse ['c', '.', '.', 'd'] = .ok ⟨[['c'], [], ['d']]⟩ := by cbv
  have hpartial : parse ['c', 'd'] = .ok ⟨[['c', 'd']]⟩ := by cbv
  obtain ⟨htexts, -⟩ := matches_dotted_texts hp
  refine ⟨hp, hwhole, hpartial, (htexts _ _ hwhole 0 2 .unset).1.2 ?_, ?_⟩
  · decide +kernel
  · rw [(htexts _ _ hpartial 0 2 .unset).2]
    decide +kernel

/-- White space around a text has to be taken off first: as they stand, `a` is not under ` a`, but
the scope of the one is covered by that of the other. -/
theorem matches_despite_space :
    parse [' ', 'a'] = .ok ⟨[['a']]⟩ ∧ parse ['a'] = .ok ⟨[['a']]⟩ ∧
      ¬Text.DottedUnder ['a'] [' ', 'a'] ∧
      (⟨0, 1, [⟨[['a']]⟩]⟩ : Token).hasScope [' ', 'a'] = true ∧
      (⟨⟨[['a']]⟩, .unset⟩ : Rule).covers [⟨[['a']]⟩] = true :=
  ⟨by cbv, by cbv, by decide, by decide +kernel, by decide⟩

end Scope

end Highlighting
