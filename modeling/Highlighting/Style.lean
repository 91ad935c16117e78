/-!
# Styles

A style has three **channels** — foreground, background and font — and each may be unset, which
leaves it to the terminal.  A font style that is set may still ask for nothing: unset and empty are
different values, and only the rules of a theme treat them alike.
-/

namespace Highlighting

/-- A color with an opacity. -/
structure Color where
  red : UInt8
  green : UInt8
  blue : UInt8
  alpha : UInt8
  deriving Repr, DecidableEq, Inhabited

/-- The font attributes of a piece of text. -/
structure FontStyle where
  bold : Bool
  underline : Bool
  italic : Bool
  deriving Repr, DecidableEq, Inhabited

namespace FontStyle

/-- No attribute at all. -/
def plain : FontStyle := ⟨false, false, false⟩

/-- Reads the attributes off the three lowest bits: bold, underline, italic. -/
def ofBits (n : Nat) : FontStyle := ⟨n.testBit 0, n.testBit 1, n.testBit 2⟩

/-- The attributes as a sum of 1 for bold, 2 for underline and 4 for italic. -/
def toBits (f : FontStyle) : Nat :=
  f.bold.toNat + 2 * f.underline.toNat + 4 * f.italic.toNat

/-- Whether no attribute is on. -/
def isPlain (f : FontStyle) : Bool := f == plain

end FontStyle

/-- A style; `none` leaves a channel to the terminal. -/
structure Style where
  foreground : Option Color
  background : Option Color
  font : Option FontStyle
  deriving Repr, DecidableEq, Inhabited

namespace Style

/-- Nothing is set. -/
def unset : Style := ⟨none, none, none⟩

/-- Whether no channel is set. -/
def isUnset (s : Style) : Bool := s.foreground.isNone && s.background.isNone && s.font.isNone

/-- Whether every channel is set. -/
def isComplete (s : Style) : Bool := s.foreground.isSome && s.background.isSome && s.font.isSome

end Style

end Highlighting
