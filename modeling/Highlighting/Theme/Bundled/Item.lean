import Highlighting.Theme.Basic

/-!
# Writing themes down

The bundled themes are tables of items.  Each row gives the three channels and then the selectors,
all of them single scopes without exclusions.
-/

namespace Highlighting.BundledTheme

/-- A color from the eight hexadecimal digits of red, green, blue and alpha. -/
def rgba (digits : UInt32) : Option Color :=
  some ⟨(digits >>> 24).toUInt8, (digits >>> 16).toUInt8, (digits >>> 8).toUInt8, digits.toUInt8⟩

/-- A font style from its bits. -/
def font (bits : Nat) : Option FontStyle := some (FontStyle.ofBits bits)

/-- A row of a table. -/
def item (foreground background : Option Color) (fontStyle : Option FontStyle)
    (selectors : List String) : ThemeItem where
  selectors := selectors.map fun selector => ⟨[Scope.ofText selector.toList], []⟩
  style := ⟨foreground, background, fontStyle⟩

end Highlighting.BundledTheme
