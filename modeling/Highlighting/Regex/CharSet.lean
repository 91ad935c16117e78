import Highlighting.Text.CaseFold
import Highlighting.Text.Category.Basic
import Highlighting.Text.Space
import Highlighting.Text.Word

/-!
# Sets of characters

What a regular expression says about a single character: ranges and Unicode properties, joined,
intersected and complemented.  A set may be asked with or without regard to case; without, it also
holds the characters that equal one of its members up to case.
-/

namespace Highlighting

/-- A property of characters that has a table. -/
inductive CharProperty
  | space
  | word
  | alphabetic
  | category (category : Category)
  deriving Repr, DecidableEq, Inhabited

namespace CharProperty

/-- Whether a code point has the property. -/
def holds : CharProperty → Nat → Bool
  | space, n => whiteSpaceRanges.contains n
  | word, n => wordRanges.contains n
  | alphabetic, n => isAlphabetic n
  | category c, n => c.holds n

/-- The decimal digits of all scripts. -/
def digit : CharProperty := category .decimalNumber

/-- Whether characters that are equal up to case may differ in the property. -/
def regardsCase : CharProperty → Bool
  | space | word => false
  | _ => true

end CharProperty

/-- A set of characters. -/
inductive CharSet
  | nothing
  | range (first last : Nat)
  | having (property : CharProperty)
  | union (a b : CharSet)
  | both (a b : CharSet)
  | complement (a : CharSet)
  deriving Repr, DecidableEq, Inhabited

namespace CharSet

/-- Whether a set holds a code point, with case `folded` or not. -/
def contains (folded : Bool) : CharSet → Nat → Bool
  | nothing, _ => false
  | range first last, n =>
    if folded then (caseVariants n).any fun v => first ≤ v && v ≤ last
    else first ≤ n && n ≤ last
  | having property, n =>
    if folded && property.regardsCase then (caseVariants n).any property.holds
    else property.holds n
  | union a b, n => a.contains folded n || b.contains folded n
  | both a b, n => a.contains folded n && b.contains folded n
  | complement a, n => !a.contains folded n

/-- One character. -/
def single (c : Char) : CharSet := range c.toNat c.toNat

/-- The members of the first set that are not in the second. -/
def without (a b : CharSet) : CharSet := both a (complement b)

/-- The characters that are in exactly one of two sets. -/
def either (a b : CharSet) : CharSet := union (without a b) (without b a)

/-- Every character. -/
def anything : CharSet := complement nothing

/-- Everything but the line feed. -/
def notLineFeed : CharSet := complement (single '\n')

/-- The characters of several categories. -/
def ofCategories (categories : List Category) : CharSet :=
  categories.foldr (fun c set => union (having (.category c)) set) nothing

/-- The digits of hexadecimal numbers. -/
def hexDigit : CharSet := union (range 0x30 0x39) (union (range 0x41 0x46) (range 0x61 0x66))

end CharSet

/-- What one character has to be. -/
inductive CharTest
  | exactly (c : Char)
  /-- Equal up to case to a code point that is folded already. -/
  | upToCase (folded : Nat)
  | within (set : CharSet) (folded : Bool)
  deriving Repr, DecidableEq, Inhabited

/-- Whether a character passes a test. -/
def CharTest.accepts : CharTest → Char → Bool
  | exactly expected, c => c == expected
  | upToCase folded, c => foldCodePoint c.toNat == folded
  | within set folded, c => set.contains folded c.toNat

end Highlighting
