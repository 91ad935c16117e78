import Highlighting.Scope.Stack

/-!
# Grammars as they are written

A grammar is a set of named **contexts**, each a list of entries.  A context says which scopes hold
while it is on top of the stack, and which patterns are looked for; a pattern that matches may
change the stack.

Scopes come in two kinds.  The *meta scopes* of a context hold from the text that enters it to the
text that leaves it, both included; its *meta content scopes* hold only in between.
-/

namespace Highlighting

/-- What a pattern does to the stack of contexts. -/
inductive Transition
  | stay
  | push (contexts : List String)
  /-- Replaces the top context. -/
  | set (contexts : List String)
  | pop
  deriving Repr, DecidableEq, Inhabited

/-- A pattern as written: what to look for, the scopes of the match and of its groups, and what to
do then. -/
structure PatternSource where
  regex : Text
  scopes : List Scope
  captures : List (Nat × List Scope)
  transition : Transition
  deriving Repr, DecidableEq, Inhabited

/-- A line of a context. -/
inductive ContextEntry
  | metaScopes (scopes : List Scope)
  | metaContentScopes (scopes : List Scope)
  | clearScopes (amount : ClearAmount)
  /-- Stands for the patterns of another context. -/
  | patternsOf (context : String)
  | pattern (source : PatternSource)
  deriving Repr, DecidableEq

/-- A grammar as written. -/
structure GrammarSource where
  name : String
  /-- File extensions, and whole file names that count as such. -/
  extensions : List String
  /-- The scope of every text in this grammar. -/
  scope : Scope
  contexts : List (String × List ContextEntry)
  deriving Repr, DecidableEq

end Highlighting
