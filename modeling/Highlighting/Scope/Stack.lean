import Highlighting.Scope.Basic

/-!
# The scope stack

While a text is scanned, scopes open and close.  `ScopeStack` holds the open ones, innermost first,
and a side stack of scopes that were *cleared* — set aside for a while, to be put back by a restore.

A grammar describes the changes as a list of operations.  Only one of them can fail: a restore when
nothing is set aside.
-/

namespace Highlighting

/-- How many scopes a clear sets aside. -/
inductive ClearAmount
  | top (count : Nat)
  | all
  deriving Repr, DecidableEq

/-- A change of the open scopes. -/
inductive ScopeOp
  | push (scope : Scope)
  | pop (count : Nat)
  | clear (amount : ClearAmount)
  | restore
  | noop
  deriving Repr, DecidableEq

/-- The open scopes, innermost first, and the groups of scopes set aside, latest first. -/
structure ScopeStack where
  scopes : List Scope
  cleared : List (List Scope)
  deriving Repr, DecidableEq, Inhabited

/-- Why an operation cannot be carried out. -/
inductive ScopeStackError
  | noClearedScopesToRestore
  deriving Repr, DecidableEq

/-- The name of the error, for use in a message. -/
def ScopeStackError.detail : ScopeStackError → String
  | .noClearedScopesToRestore => "NoClearedScopesToRestore"

namespace ScopeStack

/-- No scope is open and none is set aside. -/
def empty : ScopeStack := ⟨[], []⟩

/-- Carries out one operation. -/
def apply (stack : ScopeStack) : ScopeOp → Except ScopeStackError ScopeStack
  | .push scope => .ok { stack with scopes := scope :: stack.scopes }
  | .pop count => .ok { stack with scopes := stack.scopes.drop count }
  | .clear (.top count) =>
    .ok ⟨stack.scopes.drop count, stack.scopes.take count :: stack.cleared⟩
  | .clear .all => .ok ⟨[], stack.scopes :: stack.cleared⟩
  | .restore =>
    match stack.cleared with
    | [] => .error .noClearedScopesToRestore
    | group :: cleared => .ok ⟨group ++ stack.scopes, cleared⟩
  | .noop => .ok stack

end ScopeStack

end Highlighting
