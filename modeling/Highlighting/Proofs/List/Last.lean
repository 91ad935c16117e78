/-!
# The last entry of a kind

Where later entries of a list take precedence, what counts is the last one with some property
(`IsLast`).  It is what a search from the end finds, and the entries without the property make no
difference to it.
-/

namespace Highlighting

/-- The entry satisfies the predicate, and none behind it does. -/
def IsLast {α : Type} (holds : α → Prop) (entries : List α) (entry : α) : Prop :=
  holds entry ∧ ∃ before after, entries = before ++ entry :: after ∧ ∀ other ∈ after, ¬holds other

/-- A search from the end finds the last entry of the kind: what it passes is what stands behind,
turned around. -/
theorem find?_reverse_eq_some_iff {α : Type} {holds : α → Bool} {entries : List α} {entry : α} :
    entries.reverse.find? holds = some entry ↔ IsLast (holds · = true) entries entry := by
  rw [List.find?_eq_some_iff_append, IsLast]
  refine and_congr_right fun _ => ?_
  constructor
  · rintro ⟨before, after, hentries, hbefore⟩
    -- In the reversed list, `before` is what the search has passed.
    refine ⟨after.reverse, before.reverse, ?_, ?_⟩
    · rw [← List.reverse_inj, hentries]
      simp
    · intro other hmem
      simpa using hbefore other (List.mem_reverse.1 hmem)
  · rintro ⟨before, after, rfl, hafter⟩
    refine ⟨after.reverse, before.reverse, by simp, ?_⟩
    intro other hmem
    simpa using hafter other (List.mem_reverse.1 hmem)

/-- It finds nothing exactly if there is no entry of the kind. -/
theorem find?_reverse_eq_none_iff {α : Type} {holds : α → Bool} {entries : List α} :
    entries.reverse.find? holds = none ↔ ∀ entry ∈ entries, ¬holds entry = true := by
  rw [List.find?_eq_none]
  simp only [List.mem_reverse]

/-- What a search from the end finds depends on the entries of the kind and their order alone. -/
theorem find?_reverse_congr {α : Type} {holds : α → Bool} {entries others : List α}
    (same : entries.filter holds = others.filter holds) :
    entries.reverse.find? holds = others.reverse.find? holds := by
  rw [← List.head?_filter, ← List.head?_filter, List.filter_reverse, List.filter_reverse, same]

end Highlighting
