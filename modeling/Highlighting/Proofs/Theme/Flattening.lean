import Mathlib.Data.List.Forall2
import Highlighting.Theme.Basic
import Highlighting.Proofs.Theme.Resolution

/-!
# What flattening a theme keeps

`Theme.rules` turns a tree of items and selectors into a list of rules.  An item **applies** if one
of its selectors has no exclusions and ends in a scope that starts one of the token's
(`ThemeItem.Applies`).  All rules of an item give the same style, so that on each channel they say
what the item says if it applies, and nothing otherwise (`Channel.first_rules`).  Hence the first
rule that sets a channel is one of the first item that applies and sets it.

A selector stands for a path, from the outermost scope inwards.  Its rule looks at the end of the
path alone, so that it matches wherever the path does.
-/

namespace Highlighting

/-- One of the item's selectors can be flattened, to a scope that starts one of these. -/
def ThemeItem.Applies (item : ThemeItem) (scopes : List Scope) : Prop :=
  ∃ selector ∈ item.selectors, selector.exclusions = [] ∧
    ∃ innermost, selector.path.getLast? = some innermost ∧ innermost.StartsOneOf scopes

/-- The selector's path can be found among the scopes, which are read from the outermost inwards:
its scopes start some of them, in the same order. -/
def Selector.LeadsTo (selector : Selector) (scopes : List Scope) : Prop :=
  List.SublistForall₂ (fun p s : Scope => p.atoms <+: s.atoms) selector.path scopes.reverse

/-- A selector is flattened to the last scope of its path, unless it has exclusions. -/
theorem Selector.innermost?_eq_some_iff {selector : Selector} {scope : Scope} :
    selector.innermost? = some scope ↔
      selector.exclusions = [] ∧ selector.path.getLast? = some scope := by
  unfold innermost?
  rw [Option.ite_none_right_eq_some, List.isEmpty_iff]

namespace ThemeItem

/-- The rules of an item are its style, with the ends of those of its selectors that can be
flattened. -/
theorem mem_rules_iff {item : ThemeItem} {rule : Rule} :
    rule ∈ item.rules ↔ rule.style = item.style ∧ ∃ selector ∈ item.selectors,
      selector.exclusions = [] ∧ selector.path.getLast? = some rule.selector := by
  unfold rules
  rw [List.mem_map]
  constructor
  · rintro ⟨scope, hmem, rfl⟩
    obtain ⟨selector, hselector, hscope⟩ := List.mem_filterMap.1 hmem
    exact ⟨rfl, selector, hselector, Selector.innermost?_eq_some_iff.1 hscope⟩
  · rintro ⟨hstyle, selector, hselector, hscope⟩
    refine ⟨rule.selector, ?_, by rw [← hstyle]⟩
    exact List.mem_filterMap.2 ⟨selector, hselector, Selector.innermost?_eq_some_iff.2 hscope⟩

/-- An item applies where one of its rules matches. -/
theorem any_rules_covers_iff {item : ThemeItem} {scopes : List Scope} :
    item.rules.any (·.covers scopes) = true ↔ item.Applies scopes := by
  rw [List.any_eq_true]
  constructor
  · rintro ⟨rule, hmem, hcovers⟩
    obtain ⟨-, selector, hselector, hexclusions, hlast⟩ := mem_rules_iff.1 hmem
    exact ⟨selector, hselector, hexclusions, rule.selector, hlast, Rule.covers_iff.1 hcovers⟩
  · rintro ⟨selector, hselector, hexclusions, innermost, hlast, hstarts⟩
    refine ⟨⟨innermost, item.style⟩, ?_, Rule.covers_iff.2 hstarts⟩
    exact mem_rules_iff.2 ⟨rfl, selector, hselector, hexclusions, hlast⟩

end ThemeItem

namespace Channel

variable (channel : Channel)

/-- Entries that all have one style say what it says as soon as one of them applies. -/
theorem first_of_style_eq {α : Type} {applies : α → Bool} {style : α → Style} {given : Style}
    {entries : List α} (uniform : ∀ entry ∈ entries, style entry = given) :
    channel.first applies style entries
      = if entries.any applies then channel.setBy given else none := by
  induction entries with
  | nil => rfl
  | cons entry entries ih =>
    rw [List.forall_mem_cons] at uniform
    rw [first_cons, ih uniform.2, uniform.1, List.any_cons]
    cases applies entry with
    | true =>
      -- What the others say is the same, if they say anything.
      rw [Bool.true_or, if_pos rfl]
      split
      · exact Option.or_self
      · exact Option.or_none
    | false => exact Option.none_or

/-- The rules of a theme say what its items say. -/
theorem first_rules (theme : Theme) (scopes : List Scope) :
    channel.first (·.covers scopes) Rule.style (Theme.rules theme)
      = channel.first (·.rules.any (·.covers scopes)) ThemeItem.style theme := by
  unfold Theme.rules
  induction theme with
  | nil => rfl
  | cons item theme ih =>
    -- The rules of the first item have one style, and those of the others come behind them.
    have hitem : ∀ rule ∈ item.rules, rule.style = item.style := by
      intro rule hmem
      exact (ThemeItem.mem_rules_iff.1 hmem).1
    rw [List.flatMap_cons, first_append, ih, first_cons, first_of_style_eq channel hitem]

end Channel

/-- Each scope of a path that can be found starts some scope. -/
theorem Scope.startsOneOf_of_sublistForall₂ {path scopes : List Scope}
    (leads : List.SublistForall₂ (fun p s : Scope => p.atoms <+: s.atoms) path scopes) :
    ∀ p ∈ path, p.StartsOneOf scopes := by
  intro p hmem
  induction leads with
  | nil => exact absurd hmem List.not_mem_nil
  | cons hstarts _ ih =>
    rcases List.mem_cons.1 hmem with rfl | hlater
    · exact ⟨_, List.mem_cons_self, hstarts⟩
    · obtain ⟨scope, hscope, hp⟩ := ih hlater
      exact ⟨scope, List.mem_cons_of_mem _ hscope, hp⟩
  | cons_right _ ih =>
    obtain ⟨scope, hscope, hp⟩ := ih hmem
    exact ⟨scope, List.mem_cons_of_mem _ hscope, hp⟩

/-- The end of a path starts one of the scopes that the path leads to. -/
theorem Selector.LeadsTo.getLast_startsOneOf {selector : Selector} {scopes : List Scope}
    (leads : selector.LeadsTo scopes) (nonempty : selector.path ≠ []) :
    (selector.path.getLast nonempty).StartsOneOf scopes := by
  obtain ⟨scope, hmem, hstarts⟩ :=
    Scope.startsOneOf_of_sublistForall₂ leads _ (List.getLast_mem nonempty)
  exact ⟨scope, List.mem_reverse.1 hmem, hstarts⟩

/-- **Flattening keeps what a theme means, item by item.**  On each channel, the answer is that of
the first item that applies and sets the channel.  And a rule matches wherever the path of its
selector can be found. -/
theorem rules_keep_meaning (theme : Theme) (scopes : List Scope) :
    (∀ (channel : Channel) answer, channel.get (resolve (Theme.rules theme) scopes) = answer ↔
        channel.IsFirst (ThemeItem.Applies · scopes) ThemeItem.style theme answer) ∧
      ∀ item ∈ theme, ∀ selector ∈ item.selectors, selector.exclusions = [] →
        ∀ nonempty : selector.path ≠ [], selector.LeadsTo scopes →
          ⟨selector.path.getLast nonempty, item.style⟩ ∈ Theme.rules theme ∧
            Rule.covers ⟨selector.path.getLast nonempty, item.style⟩ scopes = true := by
  constructor
  · intro channel answer
    -- The rules of an item are asked one by one whether they match, which is to ask whether the
    -- item applies.
    have happlies : (fun item : ThemeItem => item.rules.any (·.covers scopes) = true)
        = (ThemeItem.Applies · scopes) := by
      funext item
      exact propext ThemeItem.any_rules_covers_iff
    rw [Channel.get_resolve, Channel.first_rules, Channel.first_eq_iff, happlies]
  · intro item hitem selector hselector hexclusions nonempty hleads
    constructor
    · refine List.mem_flatMap.2 ⟨item, hitem, ThemeItem.mem_rules_iff.2 ⟨rfl, ?_⟩⟩
      exact ⟨selector, hselector, hexclusions, List.getLast?_eq_some_getLast nonempty⟩
    · exact Rule.covers_iff.2 (hleads.getLast_startsOneOf nonempty)

/-- A path of two scopes. -/
def nestedSelector : Selector := ⟨[⟨[['m']]⟩, ⟨[['s'], ['q']]⟩], []⟩

/-- An item that asks for bold letters there, and has another selector with an exclusion. -/
def nestedItem : ThemeItem :=
  ⟨[⟨[⟨[['t']]⟩], [[]]⟩, nestedSelector], ⟨none, none, some ⟨true, false, false⟩⟩⟩

/-- The scopes of a token, innermost first, among which that path can be found. -/
def nestedScopes : List Scope := [⟨[['s'], ['q'], ['d']]⟩, ⟨[['m'], ['b']]⟩, ⟨[['t']]⟩]

/-- The first selector of the item is dropped for its exclusion, and the end of the second one is
found without its path. -/
theorem rules_keep_meaning_nested :
    Channel.get .font (resolve (Theme.rules [nestedItem]) nestedScopes)
        = some (⟨true, false, false⟩ : FontStyle) ∧
      (nestedSelector ∈ nestedItem.selectors ∧ nestedSelector.exclusions = [] ∧
        nestedSelector.path ≠ [] ∧ nestedSelector.LeadsTo nestedScopes) ∧
      ⟨⟨[['s'], ['q']]⟩, nestedItem.style⟩ ∈ Theme.rules [nestedItem] ∧
        Rule.covers ⟨⟨[['s'], ['q']]⟩, nestedItem.style⟩ nestedScopes = true := by
  have hmem : nestedSelector ∈ nestedItem.selectors := List.mem_cons_of_mem _ List.mem_cons_self
  have hpath : nestedSelector.path ≠ [] := List.cons_ne_nil _ _
  have hleads : nestedSelector.LeadsTo nestedScopes := by
    refine .cons_right (.cons ?_ (.cons ?_ .nil))
    · exact List.prefix_append [['m']] [['b']]
    · exact List.prefix_append [['s'], ['q']] [['d']]
  have happlies : nestedItem.Applies nestedScopes :=
    ⟨nestedSelector, hmem, rfl, ⟨[['s'], ['q']]⟩, rfl, hleads.getLast_startsOneOf hpath⟩
  obtain ⟨hresolve, hbroadens⟩ := rules_keep_meaning [nestedItem] nestedScopes
  refine ⟨(hresolve .font _).2 ⟨[], nestedItem, [], rfl, happlies, rfl, ?_⟩,
    ⟨hmem, rfl, hpath, hleads⟩, ?_⟩
  · intro earlier hearlier
    exact absurd hearlier List.not_mem_nil
  · exact hbroadens nestedItem List.mem_cons_self nestedSelector hmem rfl hpath hleads

end Highlighting
