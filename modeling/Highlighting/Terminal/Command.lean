import Highlighting.Style
import Highlighting.Text.Basic

/-!
# Terminal commands

Colors and attributes reach a terminal as escape sequences in the text.  A `Command` is one such
sequence, or a piece of text to print; `Command.text` is its written form.

Colors are written with 24 bits, without their alpha.  Where colors are *suppressed*, the sequences
that would set one are still written, but empty; attributes and resets are not affected.
-/

namespace Highlighting

/-- Whether color sequences name their colors or are left empty. -/
inductive ColorMode
  | direct | suppressed
  deriving Repr, DecidableEq, Inhabited

/-- A font attribute of the terminal. -/
inductive FontAttribute
  | bold | italic | underline
  deriving Repr, DecidableEq

/-- Something to tell the terminal. -/
inductive Command
  | foreground (color : Color)
  | background (color : Color)
  | enable (attr : FontAttribute)
  | resetAttributes
  | resetColors
  | print (text : Text)
  deriving Repr, DecidableEq

namespace FontAttribute

/-- The number of the attribute in an escape sequence. -/
def code : FontAttribute → Nat
  | .bold => 1
  | .italic => 3
  | .underline => 4

/-- The attributes that a font style asks for, in the order in which they are written. -/
def ofFont (font : FontStyle) : List FontAttribute :=
  (if font.bold then [.bold] else []) ++ (if font.italic then [.italic] else []) ++
    (if font.underline then [.underline] else [])

end FontAttribute

namespace Command

/-- An escape sequence: its parameters with semicolons between them. -/
def sequence (parameters : List Nat) : Text :=
  ['\x1b', '['] ++ [';'].intercalate (parameters.map (Nat.toDigits 10)) ++ ['m']

/-- The parameters that choose a color, after the one that says what is colored. -/
def colorParameters (color : Color) : List Nat :=
  [2, color.red.toNat, color.green.toNat, color.blue.toNat]

/-- The written form of a command. -/
def text (mode : ColorMode) : Command → Text
  | .foreground color =>
    match mode with
    | .direct => sequence (38 :: colorParameters color)
    | .suppressed => sequence []
  | .background color =>
    match mode with
    | .direct => sequence (48 :: colorParameters color)
    | .suppressed => sequence []
  | .enable attr => sequence [attr.code]
  | .resetAttributes => sequence [0]
  | .resetColors => sequence [0]
  | .print text => text

/-- What puts a style into force. -/
def applying (style : Style) : List Command :=
  (style.foreground.map foreground).toList ++ (style.background.map background).toList ++
    ((style.font.map FontAttribute.ofFont).getD []).map enable

/-- What takes any style back. -/
def resets : List Command := [resetAttributes, resetColors]

end Command

end Highlighting
