import Highlighting.Grammar.Source

/-!
# Writing grammars down

The bundled grammars are tables of contexts.  These functions make their entries from texts.
-/

namespace Highlighting.BundledGrammar

/-- The scopes that the words of a text spell. -/
def scopes (t : String) : List Scope := (Text.words t.toList).map Scope.ofText

/-- A pattern, with the scopes of its match and of its groups. -/
def pattern (regex : String) (scope : String) (captures : List (Nat × String))
    (transition : Transition) : ContextEntry :=
  .pattern {
    regex := regex.toList
    scopes := scopes scope
    captures := captures.map fun (group, scope) => (group, scopes scope)
    transition }

end Highlighting.BundledGrammar
