import Highlighting.Error
import Highlighting.Theme.Bundled.Base16
import Highlighting.Theme.Bundled.Inspired
import Highlighting.Theme.Bundled.Solarized

/-!
# The bundled themes

Seven themes come with the program and are found by their exact names.
-/

namespace Highlighting.ThemeLibrary

/-- The theme used when none is configured. -/
def defaultName : String := "base16-ocean.dark"

/-- The bundled themes with their names. -/
def bundled : List (String × Theme) := [
  ("InspiredGitHub", BundledTheme.inspiredGitHub),
  ("Solarized (dark)", BundledTheme.solarizedDark),
  ("Solarized (light)", BundledTheme.solarizedLight),
  ("base16-eighties.dark", BundledTheme.eightiesDark),
  ("base16-mocha.dark", BundledTheme.mochaDark),
  ("base16-ocean.dark", BundledTheme.oceanDark),
  ("base16-ocean.light", BundledTheme.oceanLight)]

/-- The rules of a bundled theme. -/
def rules? (name : String) : Except Error (List Rule) :=
  match bundled.lookup name with
  | none => .error (.themeNotFound name)
  | some theme => .ok (Theme.rules theme)

end Highlighting.ThemeLibrary
