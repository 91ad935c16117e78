import Highlighting.Proofs.Theme.Resolution

/-!
# Rules that never decide

The order of the rules decides, and not how special their selectors are.  So a rule is **shadowed**
by an earlier one whose selector starts its own and which sets every channel that it sets
(`Rule.Shadows`): wherever the later rule matches the earlier one does too, and has spoken on those
channels before.

Such a rule can be left out, whatever stands before, between and behind the two
(`resolve_without_shadowed`).  On each channel this is a fact about the first of several entries:
one that says nothing unless an earlier one does is never the first
(`Channel.first_append_cons_of_isSome`).
-/

namespace Highlighting

namespace Channel

variable {α : Type} {channel : Channel} {applies : α → Bool} {style : α → Style}

/-- There is an answer as soon as one entry applies and sets the channel. -/
theorem isSome_first_of_mem {entries : List α} {entry : α} (member : entry ∈ entries)
    (happlies : applies entry = true) (hsets : (channel.setBy (style entry)).isSome = true) :
    (channel.first applies style entries).isSome = true := by
  unfold first
  rw [List.findSome?_isSome_iff]
  exact ⟨entry, member, by rwa [if_pos happlies]⟩

/-- An entry that says nothing unless there is an answer before it can be left out. -/
theorem first_append_cons_of_isSome {before : List α} {entry : α}
    (answered : applies entry = true → (channel.setBy (style entry)).isSome = true →
      (channel.first applies style before).isSome = true) (after : List α) :
    channel.first applies style (before ++ entry :: after)
      = channel.first applies style (before ++ after) := by
  rw [first_append, first_append, first_cons]
  cases hbefore : channel.first applies style before with
  | some value => rw [Option.some_or, Option.some_or]
  | none =>
    have hsilent : (if applies entry then channel.setBy (style entry) else none) = none := by
      rw [ite_eq_right_iff]
      intro happlies
      rw [← Option.not_isSome_iff_eq_none]
      intro hsets
      have hanswer := answered happlies hsets
      rw [hbefore] at hanswer
      exact absurd hanswer Bool.false_ne_true
    rw [hsilent, Option.none_or]

end Channel

namespace Rule

/-- Standing before the other rule, this one leaves nothing for it to decide. -/
structure Shadows (above below : Rule) : Prop where
  /-- The selector is, atom by atom, the start of the other one. -/
  starts : above.selector.atoms <+: below.selector.atoms
  /-- What the other rule sets, this one sets too.  A font style that asks for nothing does not
  count. -/
  sets : ∀ channel : Channel, (channel.setBy below.style).isSome = true →
    (channel.setBy above.style).isSome = true

/-- The start of a scope starts whatever that scope starts. -/
theorem Shadows.covers_of_covers {above below : Rule} (shadows : above.Shadows below)
    {scopes : List Scope} (covers : below.covers scopes = true) : above.covers scopes = true := by
  obtain ⟨scope, hmem, hstarts⟩ := covers_iff.1 covers
  exact covers_iff.2 ⟨scope, hmem, shadows.starts.trans hstarts⟩

end Rule

/-- **A shadowed rule is dead.**  Leaving it out changes the style of no token, whatever the other
rules are. -/
theorem resolve_without_shadowed {above below : Rule} (shadows : above.Shadows below)
    (before between after : List Rule) (scopes : List Scope) :
    resolve (before ++ above :: between ++ below :: after) scopes
      = resolve (before ++ above :: between ++ after) scopes := by
  apply Channel.ext_get
  intro channel
  rw [Channel.get_resolve, Channel.get_resolve]
  refine Channel.first_append_cons_of_isSome (fun hcovers hsets => ?_) after
  have hmem : above ∈ before ++ above :: between :=
    List.mem_append_right before List.mem_cons_self
  exact Channel.isSome_first_of_mem hmem (shadows.covers_of_covers hcovers)
    (shadows.sets channel hsets)

/-- Bold letters for everything under `s`. -/
def broadRule : Rule := ⟨⟨[['s']]⟩, ⟨none, none, some ⟨true, false, false⟩⟩⟩

/-- Italic letters for `s.q` alone. -/
def specialRule : Rule := ⟨⟨[['s'], ['q']]⟩, ⟨none, none, some ⟨false, false, true⟩⟩⟩

/-- No attribute for anything, which sets nothing. -/
def plainRule : Rule := ⟨.empty, ⟨none, none, some .plain⟩⟩

/-- A black foreground for everything. -/
def blackRule : Rule := ⟨.empty, ⟨some ⟨0, 0, 0, 255⟩, none, none⟩⟩

/-- The more special rule comes too late. -/
theorem resolve_without_shadowed_special :
    broadRule.Shadows specialRule ∧
      resolve [plainRule, broadRule, plainRule, specialRule, blackRule] [⟨[['s'], ['q'], ['d']]⟩]
        = resolve [plainRule, broadRule, plainRule, blackRule] [⟨[['s'], ['q'], ['d']]⟩] ∧
      resolve [plainRule, broadRule, plainRule, blackRule] [⟨[['s'], ['q'], ['d']]⟩]
        = ⟨some ⟨0, 0, 0, 255⟩, none, some ⟨true, false, false⟩⟩ := by
  have hshadows : broadRule.Shadows specialRule := by
    refine ⟨List.prefix_append [['s']] [['q']], fun channel hsets => ?_⟩
    cases channel with
    | foreground => exact hsets
    | background => exact hsets
    | font => rfl
  exact ⟨hshadows, resolve_without_shadowed hshadows [plainRule] [plainRule] [blackRule] _,
    by decide⟩

end Highlighting
