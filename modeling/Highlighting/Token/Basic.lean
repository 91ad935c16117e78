import Highlighting.Cluster.Index
import Highlighting.Scope.Basic

/-!
# Tokens

A token is a range of one line together with the scopes that hold there, innermost first.  Its
offsets may be anything; they are clamped when the text is taken.
-/

namespace Highlighting

/-- A range `[start, stop)` of byte offsets of a line, with its scopes, innermost first. -/
structure Token where
  start : Nat
  stop : Nat
  scopes : List Scope
  deriving Repr, DecidableEq, Inhabited

namespace Token

/-- The token's part of an indexed line. -/
def textIn (token : Token) (index : ClusterIndex) : Text := index.slice token.start token.stop

/-- The token's part of a line. -/
def text (token : Token) (line : Text) : Text := token.textIn (ClusterIndex.ofLine line)

/-- Whether the scope that a text spells covers one of the token's scopes.  A text that spells no
scope covers nothing. -/
def hasScope (token : Token) (selector : Text) : Bool :=
  match Scope.parse selector with
  | .ok scope => scope.coversAny token.scopes
  | .error _ => false

end Token

end Highlighting
