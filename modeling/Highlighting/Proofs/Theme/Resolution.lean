import Highlighting.Theme.Rule

/-!
# The first rule that sets a channel

A style is resolved channel by channel: the foreground may come from one rule and the font from
another.  On each **channel** the answer is that of the first rule, in the theme's order, whose
selector covers one of the scopes and whose style sets the channel (`Channel.IsFirst`).

`resolve` fills all channels in one walk and stops when the last one is set.  What the walk leaves
on a channel is what was there before, or else what the first of the rules ahead sets
(`Channel.get_fillFromRules`); a complete style leaves nothing to the rules ahead, so stopping early
cannot be observed.
-/

namespace Highlighting

/-- The scope is, atom by atom, the start of one of several. -/
def Scope.StartsOneOf (p : Scope) (scopes : List Scope) : Prop :=
  ∃ scope ∈ scopes, p.atoms <+: scope.atoms

/-- What the program checks atom by atom is that the selector starts one of the scopes. -/
theorem Scope.coversAny_iff {p : Scope} {scopes : List Scope} :
    p.coversAny scopes = true ↔ p.StartsOneOf scopes := by
  unfold coversAny StartsOneOf
  rw [List.any_eq_true]
  constructor
  · rintro ⟨scope, hmem, hcovers⟩
    exact ⟨scope, hmem, List.isPrefixOf_iff_prefix.1 hcovers⟩
  · rintro ⟨scope, hmem, hstarts⟩
    exact ⟨scope, hmem, List.isPrefixOf_iff_prefix.2 hstarts⟩

/-- The rule's selector starts one of the scopes. -/
def Rule.Matches (rule : Rule) (scopes : List Scope) : Prop := rule.selector.StartsOneOf scopes

/-- A rule covers the scopes that it matches. -/
theorem Rule.covers_iff {rule : Rule} {scopes : List Scope} :
    rule.covers scopes = true ↔ rule.Matches scopes :=
  Scope.coversAny_iff

/-! ### Channels -/

/-- A part of a style that is resolved on its own. -/
inductive Channel
  | foreground
  | background
  | font
  deriving Repr, DecidableEq

namespace Channel

/-- What the channel holds when it is set. -/
def Value : Channel → Type
  | .foreground => Color
  | .background => Color
  | .font => FontStyle

/-- What a style holds on the channel. -/
def get : (channel : Channel) → Style → Option channel.Value
  | .foreground, style => style.foreground
  | .background, style => style.background
  | .font, style => style.font

/-- What a style sets the channel to when it stands in a rule.  A font style that asks for nothing
does not count. -/
def setBy : (channel : Channel) → Style → Option channel.Value
  | .foreground, style => style.foreground
  | .background, style => style.background
  | .font, style => style.font.filter fun font : FontStyle => font ≠ .plain

/-- A rule never sets a font to plain, although its style may hold that: a plain font asks for
nothing. -/
theorem setBy_font_ne_plain (style : Style) :
    setBy .font style ≠ some FontStyle.plain := by
  intro hset
  obtain ⟨-, hasks⟩ := Option.filter_eq_some_iff.1 hset
  exact of_decide_eq_true hasks rfl

/-- No channel of the unset style holds anything. -/
theorem get_unset (channel : Channel) : channel.get .unset = none := by
  cases channel <;> rfl

/-- Styles that agree on every channel are equal. -/
theorem ext_get {s t : Style} (agree : ∀ channel : Channel, channel.get s = channel.get t) :
    s = t := by
  have hforeground : s.foreground = t.foreground := agree .foreground
  have hbackground : s.background = t.background := agree .background
  have hfont : s.font = t.font := agree .font
  cases s
  cases t
  simp_all

/-- To fill a style from another one keeps what a channel holds, and otherwise takes what the other
one sets.  For the font, the program tests what it takes in its own way, which comes to the same. -/
theorem get_fillFrom (channel : Channel) (style given : Style) :
    channel.get (style.fillFrom given) = (channel.get style).or (channel.setBy given) := by
  -- Only the font is treated in a way of its own.
  cases channel with
  | foreground => rfl
  | background => rfl
  | font =>
    have hplain : (fun font : FontStyle => !font.isPlain)
        = fun font => decide (font ≠ .plain) := by
      funext font
      rw [FontStyle.isPlain, decide_not]
      rfl
    exact congrArg (fun asks => style.font.or (given.font.filter asks)) hplain

/-- A complete style holds something on every channel. -/
theorem exists_get_of_isComplete (channel : Channel) {style : Style} (complete : style.isComplete) :
    ∃ value, channel.get style = some value := by
  unfold Style.isComplete at complete
  simp only [Bool.and_eq_true] at complete
  obtain ⟨⟨hforeground, hbackground⟩, hfont⟩ := complete
  cases channel with
  | foreground => exact Option.isSome_iff_exists.1 hforeground
  | background => exact Option.isSome_iff_exists.1 hbackground
  | font => exact Option.isSome_iff_exists.1 hfont

/-! ### The first of several entries -/

variable {α : Type}

/-- The answer on a channel: the value of the first of the entries that apply whose style sets the
channel, and nothing if there is no such entry. -/
def IsFirst (channel : Channel) (applies : α → Prop) (style : α → Style) (entries : List α) :
    Option channel.Value → Prop
  | some value => ∃ before entry after, entries = before ++ entry :: after ∧ applies entry ∧
      channel.setBy (style entry) = some value ∧
      ∀ earlier ∈ before, applies earlier → channel.setBy (style earlier) = none
  | none => ∀ entry ∈ entries, applies entry → channel.setBy (style entry) = none

/-- Finds that answer. -/
def first (channel : Channel) (applies : α → Bool) (style : α → Style) (entries : List α) :
    Option channel.Value :=
  entries.findSome? fun entry => if applies entry then channel.setBy (style entry) else none

/-- The search finds the answer that `IsFirst` describes, and that one only. -/
theorem first_eq_iff {channel : Channel} {applies : α → Bool} {style : α → Style}
    {entries : List α} {answer : Option channel.Value} :
    channel.first applies style entries = answer ↔
      channel.IsFirst (applies · = true) style entries answer := by
  cases answer with
  | none =>
    unfold first IsFirst
    rw [List.findSome?_eq_none_iff]
    simp only [ite_eq_right_iff]
  | some value =>
    unfold first IsFirst
    rw [List.findSome?_eq_some_iff]
    constructor
    · rintro ⟨before, entry, after, hentries, hset, hbefore⟩
      obtain ⟨happlies, hvalue⟩ := Option.ite_none_right_eq_some.1 hset
      refine ⟨before, entry, after, hentries, happlies, hvalue, ?_⟩
      intro earlier hmem
      exact ite_eq_right_iff.1 (hbefore earlier hmem)
    · rintro ⟨before, entry, after, hentries, happlies, hvalue, hbefore⟩
      refine ⟨before, entry, after, hentries, by rw [if_pos happlies, hvalue], ?_⟩
      intro earlier hmem
      exact ite_eq_right_iff.2 (hbefore earlier hmem)

variable (channel : Channel) (applies : α → Bool) (style : α → Style)

/-- Without entries there is no answer. -/
theorem first_nil : channel.first applies style [] = none := rfl

/-- Entries behind others count only where those in front give no answer. -/
theorem first_append (entries more : List α) :
    channel.first applies style (entries ++ more)
      = (channel.first applies style entries).or (channel.first applies style more) :=
  List.findSome?_append

/-- The first entry either gives the answer or leaves it to the others. -/
theorem first_cons (entry : α) (entries : List α) :
    channel.first applies style (entry :: entries)
      = (if applies entry then channel.setBy (style entry) else none).or
          (channel.first applies style entries) := by
  rw [← List.singleton_append, first_append]
  congr 1
  unfold first
  rw [List.findSome?_singleton]

/-! ### The walk through the rules -/

/-- What the walk leaves on a channel is what was there, or else the first setting ahead. -/
theorem get_fillFromRules (scopes : List Scope) (style : Style) (rules : List Rule) :
    channel.get (style.fillFromRules scopes rules)
      = (channel.get style).or (channel.first (·.covers scopes) Rule.style rules) := by
  induction rules generalizing style with
  | nil =>
    rw [first_nil, Option.or_none]
    rfl
  | cons rule rules ih =>
    rw [Style.fillFromRules, first_cons]
    by_cases hcovers : rule.covers scopes = true
    · -- What this rule sets moves over to the style that is carried on.
      rw [if_pos hcovers, if_pos hcovers, ← Option.or_assoc, ← get_fillFrom]
      by_cases hcomplete : (style.fillFrom rule.style).isComplete
      · -- Nothing is left for the rules ahead to set.
        obtain ⟨value, hvalue⟩ := channel.exists_get_of_isComplete hcomplete
        rw [if_pos hcomplete, hvalue, Option.some_or]
      · -- Some channel is still open, and the walk goes on.
        rw [if_neg hcomplete]
        exact ih _
    · rw [if_neg hcovers, if_neg hcovers, Option.none_or]
      exact ih style

/-- What a resolved style holds is the first setting among the rules.  Without scopes no rule is
looked at, and none would match. -/
theorem get_resolve (rules : List Rule) (scopes : List Scope) :
    channel.get (resolve rules scopes) = channel.first (·.covers scopes) Rule.style rules := by
  unfold resolve
  cases scopes with
  | nil =>
    -- The program answers at once; a search would find no rule that covers.
    have hnone : channel.IsFirst (·.covers [] = true) Rule.style rules none :=
      fun rule _ hcovers => absurd hcovers Bool.false_ne_true
    rw [first_eq_iff.2 hnone]
    exact channel.get_unset
  | cons scope scopes =>
    rw [List.isEmpty_cons, if_neg Bool.false_ne_true, get_fillFromRules, get_unset, Option.none_or]

/-- The same as a description of the answer. -/
theorem get_resolve_eq_iff {channel : Channel} {rules : List Rule} {scopes : List Scope}
    {answer : Option channel.Value} : channel.get (resolve rules scopes) = answer ↔
      channel.IsFirst (Rule.Matches · scopes) Rule.style rules answer := by
  have hmatches : (fun rule : Rule => rule.covers scopes = true) = (Rule.Matches · scopes) := by
    funext rule
    exact propext Rule.covers_iff
  rw [get_resolve, first_eq_iff, hmatches]

end Channel

/-- Fills the channels from every matching rule, without stopping early. -/
def Style.fullScan (scopes : List Scope) (rules : List Rule) : Style :=
  (rules.filter (·.covers scopes)).foldl (fun style rule => style.fillFrom rule.style) .unset

/-- A walk that never stops early leaves the same on each channel as one that does. -/
theorem Style.get_foldl_fillFrom (channel : Channel) (scopes : List Scope) (style : Style)
    (rules : List Rule) :
    channel.get ((rules.filter (·.covers scopes)).foldl
        (fun style rule => style.fillFrom rule.style) style)
      = (channel.get style).or (channel.first (·.covers scopes) Rule.style rules) := by
  induction rules generalizing style with
  | nil =>
    rw [Channel.first_nil, Option.or_none]
    rfl
  | cons rule rules ih =>
    rw [List.filter_cons, Channel.first_cons]
    by_cases hcovers : rule.covers scopes = true
    · rw [if_pos hcovers, if_pos hcovers, List.foldl_cons, ih, Channel.get_fillFrom,
        Option.or_assoc]
    · rw [if_neg hcovers, if_neg hcovers, ih, Option.none_or]

/-- **The first match wins on each channel.**  So stopping early makes no difference, a font style
that is set asks for something, and later rules fill only what earlier ones leave unset. -/
theorem resolve_takes_first_settings (rules : List Rule) (scopes : List Scope) :
    (∀ (channel : Channel) answer, channel.get (resolve rules scopes) = answer ↔
        channel.IsFirst (Rule.Matches · scopes) Rule.style rules answer) ∧
      resolve rules scopes = Style.fullScan scopes rules ∧
      (resolve rules scopes).font ≠ some .plain ∧
      (∀ (channel : Channel) more, channel.get (resolve (rules ++ more) scopes)
        = (channel.get (resolve rules scopes)).or (channel.get (resolve more scopes))) ∧
      resolve rules [] = .unset := by
  refine ⟨fun channel answer => Channel.get_resolve_eq_iff, ?_, ?_, ?_, rfl⟩
  · -- Styles are compared channel by channel; on each of them both walks are the same search.
    apply Channel.ext_get
    intro channel
    rw [Channel.get_resolve, Style.fullScan, Style.get_foldl_fillFrom, Channel.get_unset,
      Option.none_or]
  · intro hfont
    -- Whatever rule the plain style came from does not set it.
    have hget : Channel.get .font (resolve rules scopes) = some FontStyle.plain := hfont
    obtain ⟨_, rule, _, -, -, hset, -⟩ := Channel.get_resolve_eq_iff.1 hget
    exact Channel.setBy_font_ne_plain rule.style hset
  · intro channel more
    rw [Channel.get_resolve, Channel.get_resolve, Channel.get_resolve, Channel.first_append]

end Highlighting
