import Highlighting.Scope.Stack
import Highlighting.Token.Basic

/-!
# From scope events to tokens

A grammar describes a line by **events**: at this byte offset, change the scope stack so.
`Token.ofEvents` turns them into tokens that cut the line wherever the scopes may change.

Offsets are clamped to cluster boundaries first.  A token is closed whenever an event lies beyond
its start, and carries the scopes from before that event; events that lie further back change the
stack but cut nothing.  What is left at the end becomes the last token, and an empty line has one
empty token.

The stack outlives the line.  When an operation fails, the stack keeps what the earlier events did
to it.
-/

namespace Highlighting

/-- A change of the scope stack at a byte offset. -/
structure ScopeEvent where
  offset : Nat
  op : ScopeOp
  deriving Repr, DecidableEq

namespace Token

/-- The scopes for a token: those that are open, or the root scope alone when none is. -/
def scopesOf (stack : ScopeStack) (root : Scope) : List Scope :=
  if stack.scopes.isEmpty then [root] else stack.scopes

/-- The tokens cut so far, the start of the open one, and the scope stack. -/
structure Cutting where
  tokens : Array Token
  start : Nat
  stack : ScopeStack

namespace Cutting

/-- Closes the open token at `offset`, if that lies beyond its start. -/
def closeAt (cutting : Cutting) (offset : Nat) (root : Scope) : Cutting :=
  if cutting.start < offset then
    { cutting with
      tokens := cutting.tokens.push ⟨cutting.start, offset, scopesOf cutting.stack root⟩
      start := offset }
  else cutting

/-- Takes the events in order, up to the first one whose operation fails. -/
def takeEvents (index : ClusterIndex) (root : Scope) (cutting : Cutting) :
    List ScopeEvent → Option ScopeStackError × Cutting
  | [] => (none, cutting)
  | event :: events =>
    let cut := cutting.closeAt (index.clamp event.offset) root
    match cut.stack.apply event.op with
    | .error error => (some error, cut)
    | .ok stack => takeEvents index root { cut with stack } events

/-- Closes the last token at the end of the line.  A line without any token gets an empty one. -/
def finish (cutting : Cutting) (size : Nat) (root : Scope) : List Token :=
  if cutting.start < size ∨ cutting.tokens.isEmpty then
    (cutting.tokens.push ⟨cutting.start, size, scopesOf cutting.stack root⟩).toList
  else cutting.tokens.toList

end Cutting

/-- The tokens that the events make of a line, and the scope stack afterwards. -/
def ofEvents (line : Text) (events : List ScopeEvent) (stack : ScopeStack) (root : Scope) :
    Except ScopeStackError (List Token) × ScopeStack :=
  let index := ClusterIndex.ofLine line
  match Cutting.takeEvents index root ⟨#[], 0, stack⟩ events with
  | (some error, cutting) => (.error error, cutting.stack)
  | (none, cutting) => (.ok (cutting.finish index.size root), cutting.stack)

end Token

end Highlighting
