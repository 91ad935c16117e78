import Highlighting.CommandLine
import Highlighting.Log.Filter

/-!
# The whole program

From arguments and environment variables to an exit code and two streams.  Settings, the log filter
and the color mode come from the environment; output goes to the first stream, the log and a final
error message to the second.
-/

namespace Highlighting

/-- What a run of the program leaves behind. -/
structure ProgramResult where
  code : UInt8
  output : Bytes
  diagnostics : Text

namespace Program

/-- The variable that holds the log filter. -/
def logVariable : Text := "SHCAT_LOG".toList

/-- The variable that, if not empty, suppresses colors. -/
def noColorVariable : Text := "NO_COLOR".toList

/-- The color mode that the environment asks for. -/
def colorMode (env : Environment) : ColorMode :=
  if (env.get? noColorVariable).all List.isEmpty then .direct else .suppressed

/-- A line of the log. -/
def logLine (event : LogEvent) : Text :=
  (event.level.label ++ " " ++ event.target ++ ": " ++ event.message ++ "\n").toList

/-- The message for a run that failed. -/
def errorLine (error : Error) : Text := ("Error: " ++ error.message ++ "\n").toList

/-- Runs the program. -/
def run (arguments : List Text) (env : Environment) (files : FileSystem) (toTerminal : Bool) :
    ProgramResult :=
  let filter := LogFilter.ofVariable (env.get? logVariable)
  let settings := Settings.load env toTerminal
  let done := CommandLine.run arguments settings (colorMode env) files .unlimited
  let log := (done.log.toList.filter filter.shows).flatMap logLine
  match done.result with
  | .ok _ => ⟨0, done.writer.output, log⟩
  | .error error => ⟨1, done.writer.output, log ++ errorLine error⟩

end Program

end Highlighting
