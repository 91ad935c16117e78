import Highlighting.Scope.Basic
import Highlighting.Style

/-!
# Theme rules

A **rule** gives a style to everything that its selector covers.  `resolve` finds the style of a
token: it goes through the rules in the theme's order and takes each channel from the first matching
rule that sets it.  Order alone decides — a more special selector further down does not win.

The walk stops as soon as all three channels are set, since no later rule can change them.
-/

namespace Highlighting

/-- A selector and the style it gives.  A channel that is unset is left to other rules. -/
structure Rule where
  selector : Scope
  style : Style
  deriving Repr, DecidableEq, Inhabited

namespace Rule

/-- Whether the selector covers one of the scopes. -/
def covers (rule : Rule) (scopes : List Scope) : Bool := rule.selector.coversAny scopes

end Rule

namespace Style

/-- Fills the channels that are unset from a rule's style.  A font style that asks for nothing does
not count as set. -/
def fillFrom (style given : Style) : Style where
  foreground := style.foreground.or given.foreground
  background := style.background.or given.background
  font := style.font.or (given.font.filter (!·.isPlain))

/-- Goes on filling channels from the matching rules until all are set. -/
def fillFromRules (scopes : List Scope) (style : Style) : List Rule → Style
  | [] => style
  | rule :: rules =>
    if rule.covers scopes then
      let filled := style.fillFrom rule.style
      if filled.isComplete then filled else fillFromRules scopes filled rules
    else fillFromRules scopes style rules

end Style

/-- The style that the rules give to a token with these scopes. -/
def resolve (rules : List Rule) (scopes : List Scope) : Style :=
  if scopes.isEmpty then .unset else Style.unset.fillFromRules scopes rules

end Highlighting
