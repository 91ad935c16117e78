import Highlighting.Theme.Rule
import Highlighting.Theme.Selector

/-!
# Themes

A theme is a list of **items**, each a list of selectors and a style.  `Theme.rules` flattens it:
every selector becomes a rule for the *innermost* scope of its path.

Flattening only broadens.  A rule for `meta.block string.quoted` applies to every quoted string,
inside a block or not.  What a single scope cannot express is left out: selectors with exclusions,
even empty ones, and selectors with an empty path.
-/

namespace Highlighting

/-- Selectors that share a style. -/
structure ThemeItem where
  selectors : List Selector
  style : Style
  deriving Repr, DecidableEq, Inhabited

/-- A theme: its items, in order of priority. -/
abbrev Theme := List ThemeItem

/-- The scope that a selector is flattened to, if it can be. -/
def Selector.innermost? (selector : Selector) : Option Scope :=
  if selector.exclusions.isEmpty then selector.path.getLast? else none

/-- The rules of one item, in the order of its selectors. -/
def ThemeItem.rules (item : ThemeItem) : List Rule :=
  (item.selectors.filterMap Selector.innermost?).map (⟨·, item.style⟩)

/-- The rules of a theme, in its order. -/
def Theme.rules (theme : Theme) : List Rule := theme.flatMap ThemeItem.rules

end Highlighting
