import Highlighting.Regex.Escape

/-!
# Classes in brackets

A class is written in brackets: characters, ranges, escapes, classes inside the class, and named
ASCII classes such as `[:space:]`.  A caret in front takes the complement.  Members are joined;
`&&` intersects what stands before it with what stands after it, `--` takes the one from the other,
and `~~` keeps what is in one of them only.  The operators bind equally and to the left, and a side
without members is the empty set.

Hyphens that come first are members, and so is a closing bracket that comes first of all.
-/

namespace Highlighting.Regex

/-- The joins of classes that are written as operators. -/
inductive ClassOperator
  | both
  | without
  | either
  deriving Repr, DecidableEq

/-- What an operator makes of its two sides. -/
def ClassOperator.apply : ClassOperator → CharSet → CharSet → CharSet
  | both, a, b => .both a b
  | without, a, b => .without a b
  | either, a, b => .either a b

/-- Several sets joined. -/
def unionOf (sets : List CharSet) : CharSet := sets.foldr CharSet.union .nothing

/-- The sets with names of their own. -/
def asciiClass : List (String × CharSet) :=
  let digit := CharSet.range 0x30 0x39
  let lower := CharSet.range 0x61 0x7A
  let upper := CharSet.range 0x41 0x5A
  let letter := CharSet.union upper lower
  [("alnum", .union digit letter), ("alpha", letter), ("ascii", .range 0 0x7F),
    ("blank", .union (.single '\t') (.single ' ')),
    ("cntrl", .union (.range 0 0x1F) (.range 0x7F 0x7F)), ("digit", digit),
    ("graph", .range 0x21 0x7E), ("lower", lower), ("print", .range 0x20 0x7E),
    ("punct", unionOf [.range 0x21 0x2F, .range 0x3A 0x40, .range 0x5B 0x60, .range 0x7B 0x7E]),
    ("space", .union (.range 0x09 0x0D) (.single ' ')), ("upper", upper),
    ("word", unionOf [digit, letter, .single '_']), ("xdigit", .hexDigit)]

/-- Reads a named class after its opening bracket, if there is one. -/
def readAsciiClass : Text → Option (CharSet × Text)
  | ':' :: t =>
    let (negated, t) := match t with
      | '^' :: t => (true, t)
      | t => (false, t)
    let name := t.takeWhile (· != ':')
    match t.dropWhile (· != ':') with
    | ':' :: ']' :: rest => do
      let set ← asciiClass.lookup (String.ofList name)
      pure (if negated then .complement set else set, rest)
    | _ => none
  | _ => none

/-- Reads one character or escape of a class. -/
def readMember : Text → Option (Escape × Text)
  | [] => none
  | '\\' :: t => readEscape t
  | c :: t => some (.char c, t)

/-- Reads a member that is no class inside the class: a range, or what `readMember` reads. -/
def readRange (t : Text) : Option (CharSet × Text) := do
  match ← readMember t with
  | (.set s, t) => pure (s, t)
  | (.char c, t) =>
    match t with
    | '-' :: ']' :: _ | '-' :: '-' :: _ => pure (.single c, t)
    | '-' :: t =>
      match ← readMember t with
      | (.char d, t) => pure (.range c.toNat d.toNat, t)
      | (.set _, _) => none
    | t => pure (.single c, t)

/-- What has been read of a class: the operator that waits for its right side, with its left side,
and the members since. -/
structure ClassSides where
  left : Option (CharSet × ClassOperator)
  members : CharSet

namespace ClassSides

/-- All that has been read, as one set. -/
def whole (sides : ClassSides) : CharSet :=
  match sides.left with
  | some (left, operator) => operator.apply left sides.members
  | none => sides.members

/-- One more member. -/
def add (sides : ClassSides) (s : CharSet) : ClassSides :=
  { sides with members := .union sides.members s }

/-- One more operator. -/
def operate (sides : ClassSides) (operator : ClassOperator) : ClassSides :=
  ⟨some (sides.whole, operator), .nothing⟩

end ClassSides

/-- Reads what may only come first in a class: hyphens, or else a closing bracket. -/
def readFirst : Text → ClassSides × Text
  | ']' :: t => (⟨none, .single ']'⟩, t)
  | '-' :: t => (⟨none, .single '-'⟩, t.dropWhile (· == '-'))
  | t => (⟨none, .nothing⟩, t)

/-- Reads a class up to its closing bracket; `outer` are the classes around it, each with whether it
is a complement, and `negated` tells the same of this class. -/
def readMembers (fuel : Nat) (outer : List (Bool × ClassSides)) (negated : Bool)
    (sides : ClassSides) (t : Text) : Option (CharSet × Text) :=
  match fuel, t with
  | 0, _ | _, [] => none
  | fuel + 1, ']' :: t =>
    let set := if negated then .complement sides.whole else sides.whole
    match outer with
    | [] => some (set, t)
    | (negated, sides) :: outer => readMembers fuel outer negated (sides.add set) t
  | fuel + 1, '[' :: t =>
    match readAsciiClass t with
    | some (set, t) => readMembers fuel outer negated (sides.add set) t
    | none =>
      let outer := (negated, sides) :: outer
      match t with
      | '^' :: t => readMembers fuel outer true (readFirst t).1 (readFirst t).2
      | t => readMembers fuel outer false (readFirst t).1 (readFirst t).2
  | fuel + 1, '&' :: '&' :: t => readMembers fuel outer negated (sides.operate .both) t
  | fuel + 1, '-' :: '-' :: t => readMembers fuel outer negated (sides.operate .without) t
  | fuel + 1, '~' :: '~' :: t => readMembers fuel outer negated (sides.operate .either) t
  | fuel + 1, t => do
    let (set, t) ← readRange t
    readMembers fuel outer negated (sides.add set) t

/-- Reads a class after its opening bracket. -/
def readClass (t : Text) : Option (CharSet × Text) :=
  match t with
  | '^' :: t => readMembers (t.length + 1) [] true (readFirst t).1 (readFirst t).2
  | t => readMembers (t.length + 1) [] false (readFirst t).1 (readFirst t).2

end Highlighting.Regex
