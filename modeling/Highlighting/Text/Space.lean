import Highlighting.Text.Basic
import Highlighting.Text.CharRanges

/-!
# White space

The Unicode property `White_Space`, and the two operations that depend on it: trimming a text, and
cutting it into words.
-/

namespace Highlighting

/-- The characters with the property `White_Space`. -/
def whiteSpaceRanges : CharRanges :=
  #[(0x9, 0xD), (0x20, 0x20), (0x85, 0x85), (0xA0, 0xA0), (0x1680, 0x1680), (0x2000, 0x200A),
    (0x2028, 0x2029), (0x202F, 0x202F), (0x205F, 0x205F), (0x3000, 0x3000)]

/-- Whether a character is white space. -/
def isWhiteSpace (c : Char) : Bool := whiteSpaceRanges.contains c.toNat

namespace Text

/-- The text without white space at either end. -/
def trim (t : Text) : Text := trimBoth isWhiteSpace t

/-- The maximal pieces of a text that hold no white space. -/
def words (t : Text) : List Text := (t.splitOnP isWhiteSpace).filter (!·.isEmpty)

end Text

end Highlighting
