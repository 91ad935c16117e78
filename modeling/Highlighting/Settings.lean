import Highlighting.Text.LowerCase
import Highlighting.Text.Space
import Highlighting.Theme.Library

/-!
# Settings

Settings start from defaults and are changed by environment variables whose names start with
`SHCAT_`.  The rest of the name says which setting is meant, in any letter case; of several
variables for one setting the last one counts, whatever its value.  White space around a value is
dropped.

* The `theme` setting takes any name that is not empty.
* The `color` setting takes a few words for yes and no, in any letter case, and ignores others.

Which of the variables counts is settled before any value is looked at (`Settings.valuesOf`), so a
value that cannot be read still hides the ones before it.
-/

namespace Highlighting

/-- The settings of a run. -/
structure Settings where
  /-- The name of the theme. -/
  theme : Text
  /-- Whether output is styled. -/
  color : Bool
  deriving Repr, DecidableEq

/-- Environment variables: names and values, in the order of the environment. -/
abbrev Environment := List (Text × Text)

namespace Environment

/-- Gives a variable a value.  A variable that is there already keeps its place. -/
def set (env : Environment) (name value : Text) : Environment :=
  if env.any (·.1 == name) then
    env.map fun entry => if entry.1 == name then (name, value) else entry
  else env ++ [(name, value)]

/-- The value of a variable. -/
def get? (env : Environment) (name : Text) : Option Text := env.lookup name

/-- The environment after one assignment after another. -/
def ofAssignments (assignments : List (Text × Text)) : Environment :=
  assignments.foldl (fun env assignment => env.set assignment.1 assignment.2) []

end Environment

namespace Settings

/-- The settings when nothing is said. -/
def default : Settings := ⟨ThemeLibrary.defaultName.toList, true⟩

/-- What the names of all setting variables start with. -/
def variablePrefix : Text := "SHCAT_".toList

/-- The setting that a variable name stands for. -/
def settingOf (name : Text) : Option Text :=
  if variablePrefix.isPrefixOf name then some (Text.lower (name.drop variablePrefix.length))
  else none

/-- What a variable says about a setting: the setting and the trimmed value. -/
def assignmentOf (entry : Text × Text) : Option (Text × Text) :=
  (settingOf entry.1).map fun setting => (setting, entry.2.trim)

/-- The values that an environment has for settings, each under the name of its setting. -/
def valuesOf (env : Environment) : Environment := .ofAssignments (env.filterMap assignmentOf)

/-- The theme that a value names: any but the empty one. -/
def readTheme (value : Text) : Option Text := if value.isEmpty then none else some value

/-- A word for yes or no. -/
def readBool (word : Text) : Option Bool :=
  let lower := String.ofList word.lower
  if lower ∈ ["true", "yes", "on", "1"] then some true
  else if lower ∈ ["false", "no", "off", "0"] then some false
  else none

/-- What a setting becomes by the value there is for it: what is read from that, if anything. -/
def override {α : Type} (values : Environment) (setting : Text) (read : Text → Option α)
    (start : α) : α :=
  ((values.get? setting).bind read).getD start

/-- Changes settings by the values that there are for them. -/
def apply (settings : Settings) (values : Environment) : Settings where
  theme := override values "theme".toList readTheme settings.theme
  color := override values "color".toList readBool settings.color

/-- The settings for an environment.  Without a word on color, output is styled if it goes to a
terminal. -/
def load (env : Environment) (toTerminal : Bool) : Settings :=
  { default with color := toTerminal }.apply (valuesOf env)

end Settings

end Highlighting
