import Highlighting.Text.Space

/-!
# Scopes

A **scope** names what a piece of text is, from the general to the special: `comment.line.lua` is a
comment, a line comment, and one of Lua's.  It is a list of *atoms*, written with dots between them.

One scope covers another when its atoms come first in the other, so `comment.line` covers
`comment.line.lua` but not `comment.lines`.  The empty scope has no atoms and covers every scope.

Reading a scope forgives white space around it and dots at its end; dots elsewhere delimit atoms,
empty ones included.
-/

namespace Highlighting

/-- A scope: its atoms, most general first. -/
structure Scope where
  atoms : List Text
  deriving Repr, DecidableEq, Inhabited

/-- Why a text is no scope. -/
inductive ScopeError
  | tooManyAtoms
  deriving Repr, DecidableEq

/-- The text of a scope error. -/
def ScopeError.message : ScopeError → String
  | .tooManyAtoms => "Too many atoms. Max 2^16-2 atoms allowed."

namespace Scope

/-- The scope without atoms. -/
def empty : Scope := ⟨[]⟩

/-- The largest number of atoms in a scope. -/
def maxAtoms : Nat := 8

/-- The scope that a text spells, whatever its length. -/
def ofText (t : Text) : Scope :=
  let trimmed := t.trim
  if trimmed.isEmpty then empty
  else ⟨(trimmed.trimEnd (· == '.')).splitOnP (· == '.')⟩

/-- The scope that a text spells, unless it has too many atoms. -/
def parse (t : Text) : Except ScopeError Scope :=
  let scope := ofText t
  if scope.atoms.length ≤ maxAtoms then .ok scope else .error .tooManyAtoms

/-- The scopes that the words of a text spell. -/
def parseWords (t : Text) : Except ScopeError (List Scope) := t.words.mapM parse

/-- The written form: the atoms with dots between them. -/
def toText (s : Scope) : Text := ['.'].intercalate s.atoms

/-- Whether the atoms of `p` are the first atoms of `s`. -/
def covers (p s : Scope) : Bool := p.atoms.isPrefixOf s.atoms

/-- Whether a scope covers one of several. -/
def coversAny (p : Scope) (scopes : List Scope) : Bool := scopes.any p.covers

end Scope

end Highlighting
