import Highlighting.Regex.CharSet
import Highlighting.Text.Basic

/-!
# Regular expressions

The expressions that grammars search lines with.  They describe not only *whether* a text matches
but *which* match is preferred: the first alternative before the second, the longer repetition
before the shorter one, or the other way round where a repetition is lazy.

Besides characters, choice and repetition there are conditions on the place reached, looks at what
stands ahead or behind, parts that are not reconsidered once they have matched, references to what a
group took, and branches that depend on it.

A sequence of two or more items is a right-nested chain of `seq` that ends in `empty`; so an item
that is itself a sequence can be told from the items around it.
-/

namespace Highlighting

/-- A condition on a place between two characters. -/
inductive Condition
  | textStart
  | textEnd
  /-- The very start, or after a line feed. -/
  | lineStart
  /-- The very end, or before a line feed. -/
  | lineEnd
  /-- Between a word character and something else. -/
  | wordEdge
  | notWordEdge
  | wordStart
  | wordEnd
  /-- Where the search began. -/
  | searchStart
  deriving Repr, DecidableEq, Inhabited

/-- Whether a word character stands at a position. -/
def wordAt (text : Array Char) (position : Nat) : Bool := (text[position]?).any isWordChar

/-- Whether a word character stands before a position. -/
def wordBefore (text : Array Char) (position : Nat) : Bool :=
  0 < position && wordAt text (position - 1)

namespace Condition

/-- Whether a condition holds at a position of a text that is searched from `origin` on. -/
def holds (text : Array Char) (origin position : Nat) : Condition → Bool
  | textStart => position == 0
  | textEnd => position == text.size
  | lineStart => position == 0 || text[position - 1]? == some '\n'
  | lineEnd => position == text.size || text[position]? == some '\n'
  | wordEdge => wordBefore text position != wordAt text position
  | notWordEdge => wordBefore text position == wordAt text position
  | wordStart => !wordBefore text position && wordAt text position
  | wordEnd => wordBefore text position && !wordAt text position
  | searchStart => position == origin

/-- Whether a condition regards line feeds and the ends of the text only. -/
def isPlain : Condition → Bool
  | textStart | textEnd | lineStart | lineEnd => true
  | _ => false

end Condition

/-- A regular expression. -/
inductive Regex
  /-- Matches without taking anything. -/
  | empty
  /-- Takes one character. -/
  | one (test : CharTest)
  | seq (first second : Regex)
  /-- Prefers the first alternative. -/
  | alt (first second : Regex)
  /-- Remembers what the body takes. -/
  | group (index : Nat) (body : Regex)
  /-- Repeats the body, more often rather than less if `greedy`. -/
  | loop (body : Regex) (least : Nat) (most : Option Nat) (greedy : Bool)
  | holds (condition : Condition)
  /-- Holds if the body matches what follows, or does not if `negated`. -/
  | ahead (body : Regex) (negated : Bool)
  /-- Holds if the body, which always takes the same number of characters, matches what ends here,
  or does not if `negated`. -/
  | behind (body : Regex) (negated : Bool)
  /-- Takes the preferred match of the body and no other. -/
  | atomic (body : Regex)
  /-- Takes what a group took before, up to case if `folded`. -/
  | again (index : Nat) (folded : Bool)
  /-- Holds if a group has begun, also inside that group. -/
  | begun (index : Nat)
  /-- Goes on with one part if the test matches, and with the other if it does not. -/
  | branch (test yes no : Regex)
  /-- Lets the match start here. -/
  | keep
  deriving Repr, DecidableEq, Inhabited

namespace Regex

/-- Items one after the other. -/
def ofItems : List Regex → Regex
  | [] => empty
  | [item] => item
  | items => items.foldr seq empty

/-- The least number of characters that a match takes, as far as the form of the expression
tells. -/
def shortest : Regex → Nat
  | one _ => 1
  | seq a b => a.shortest + b.shortest
  | alt a b => min a.shortest b.shortest
  | group _ body | atomic body => body.shortest
  | loop body least _ _ => body.shortest * least
  | branch test yes no => test.shortest + min yes.shortest no.shortest
  | _ => 0

/-- Whether all matches take the same number of characters, by the form of the expression. -/
def isFixed : Regex → Bool
  | seq a b => a.isFixed && b.isFixed
  | alt a b => a.isFixed && b.isFixed && a.shortest == b.shortest
  | group _ body | atomic body => body.isFixed
  | loop body least most _ => body.isFixed && most == some least
  | again _ _ => false
  | branch test yes no =>
    test.isFixed && yes.isFixed && no.isFixed && test.shortest + yes.shortest == no.shortest
  | _ => true

/-- The groups whose text an expression refers to. -/
def references : Regex → List Nat
  | seq a b | alt a b => a.references ++ b.references
  | group _ body | loop body _ _ _ | ahead body _ | behind body _ | atomic body => body.references
  | branch test yes no => test.references ++ yes.references ++ no.references
  | again index _ => [index]
  | _ => []

/-- The groups of an expression. -/
def groups : Regex → List Nat
  | seq a b | alt a b => a.groups ++ b.groups
  | group index body => index :: body.groups
  | loop body _ _ _ | ahead body _ | behind body _ | atomic body => body.groups
  | branch test yes no => test.groups ++ yes.groups ++ no.groups
  | _ => []

/-- Whether an expression is made of characters, choice, repetition, groups and plain conditions
only, and nothing refers to its groups.  `referenced` are the groups that something refers to. -/
def isPlain (referenced : List Nat) : Regex → Bool
  | empty | one _ => true
  | seq a b | alt a b => a.isPlain referenced && b.isPlain referenced
  | group index body => !referenced.contains index && body.isPlain referenced
  | loop body _ _ _ => body.isPlain referenced
  | holds condition => condition.isPlain
  | _ => false

/-- Holds if the body matches what ends here, or does not if `negated`.  Where the alternatives of
the body differ in length, each is looked for on its own. -/
def lookingBehind (negated : Bool) : Regex → Regex
  | alt a b =>
    if (alt a b).isFixed then behind (alt a b) negated
    else if negated then ofItems [lookingBehind negated a, lookingBehind negated b]
    else alt (lookingBehind negated a) (lookingBehind negated b)
  | body => behind body negated

end Regex

end Highlighting
