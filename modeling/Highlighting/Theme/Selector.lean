import Highlighting.Scope.Basic

/-!
# Selectors

A theme says where an item applies by a list of **selectors**, separated by commas or bars.  A
selector is a path of scopes, outermost first, followed by any number of exclusions, each after a
space and a hyphen.  Parentheses and ampersands mean nothing.
-/

namespace Highlighting

/-- A path of scopes, outermost first, and the paths it excludes. -/
structure Selector where
  path : List Scope
  exclusions : List (List Scope)
  deriving Repr, DecidableEq, Inhabited

namespace Selector

/-- Cuts a text at every space that a hyphen follows, and drops both. -/
def splitExclusions (t : Text) : Text → List Text
  | ' ' :: '-' :: rest => t.reverse :: splitExclusions [] rest
  | c :: rest => splitExclusions (c :: t) rest
  | [] => [t.reverse]

/-- Reads one selector. -/
def parse (t : Text) : Except ScopeError Selector :=
  match splitExclusions [] t with
  | [] => .ok ⟨[], []⟩
  | path :: exclusions => do
    let exclusions ← exclusions.mapM Scope.parseWords
    let path ← Scope.parseWords path
    pure ⟨path, exclusions⟩

/-- Reads a list of selectors. -/
def parseList (t : Text) : Except ScopeError (List Selector) :=
  (t.splitOnP fun c => c == ',' || c == '|').mapM parse

end Selector

end Highlighting
