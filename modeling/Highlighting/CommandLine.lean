import Highlighting.FileTree
import Highlighting.Grammar.Bundled.Catalogue
import Highlighting.Path
import Highlighting.Run
import Highlighting.Settings
import Highlighting.Sink.Terminal

/-!
# The command line

The first argument decides: nothing or a request for help gives the usage, a request for the version
gives that, and anything else is the path of a file to show.  Further arguments are ignored.

A path that is not a regular file is reported as output, not as an error; but a relative path is an
error if there is no working directory.  A theme that does not exist is an error, and it is found
before the file is opened, so nothing has been written then.

The output is flushed at the end of every run, also of one that failed, and a flush that fails is
the result of the run.

The grammars and the device that takes the output are left open (`CommandLine.runOn`).  The program
runs on the bundled grammars and writes to a writer (`CommandLine.run`).
-/

namespace Highlighting

/-- How a run of the command line ends. -/
inductive Ending
  | usage
  | version
  | notFound (path : Text)
  | highlighted (summary : Summary)
  deriving Repr, DecidableEq

/-- The ending after a file was shown. -/
def Ending.ofRun : Except IoFailure Summary → Except Error Ending
  | .ok summary => .ok (.highlighted summary)
  | .error failure => .error (.io failure)

/-- What is left of a run of the command line: how it ended, the device, and the log. -/
structure CommandResult (ω : Type) where
  result : Except Error Ending
  writer : ω
  log : Array LogEvent

namespace CommandLine

/-- The usage message. -/
def usage : String := "Usage: shcat <filename>"

/-- The version message. -/
def version : String := "shcat 0.1.0"

/-- What an argument list asks for. -/
inductive Request
  | usage
  | version
  | file (path : Text)
  deriving Repr, DecidableEq

/-- Reads the first argument. -/
def request : List Text → Request
  | [] => .usage
  | argument :: _ =>
    let word := String.ofList argument
    if word = "-h" ∨ word = "--help" then .usage
    else if word = "-V" ∨ word = "--version" then .version
    else .file argument

section

variable {ε ω : Type} (provider : GrammarProvider ε) (device : Device ω)

/-- Writes a message and a line feed. -/
def say (message : String) (ending : Ending) (state : ω) : CommandResult ω :=
  match device.write (Text.utf8 (message.toList ++ ['\n'])) state with
  | (.ok (), state) => ⟨.ok ending, state, #[]⟩
  | (.error failure, state) => ⟨.error (.io failure), state, #[]⟩

/-- The sink for the settings, in a box since it may be of either kind. -/
def sinkFor (settings : Settings) (mode : ColorMode) : Sink ω :=
  Sink.boxed (if settings.color then .terminalOn device mode else .plainOn device)

/-- The highlighter for a path and the rules of a theme. -/
def highlighterFor (path : Text) (rules : List Rule) : Highlighter (LexerState ε) Unit where
  tokenizer := (Path.language path.utf8).bind provider.tokenizer
  rules := rules

/-- What is logged while the grammar for a path is looked up. -/
def grammarEvents (path : Text) : Array LogEvent :=
  let language := Path.language path.utf8
  let looked := (language.map provider.library.resolutionEvent).toList
  let missing :=
    if (language.bind provider.tokenizer).isNone then [.writingUnstyled (String.ofList path)]
    else []
  (looked ++ missing).toArray

/-- Shows a file whose absolute path is known. -/
def showFile (settings : Settings) (mode : ColorMode) (path : Text)
    (opened : Except IoFailure Input) (state : ω) : CommandResult ω :=
  let theme := String.ofList settings.theme
  match ThemeLibrary.rules? theme with
  | .error error => ⟨.error error, state, #[]⟩
  | .ok rules =>
    let themed := #[LogEvent.loadedTheme theme rules.length, .usingTheme theme]
    match opened with
    | .error failure => ⟨.error (.io failure), state, themed⟩
    | .ok input =>
      let outcome :=
        (highlighterFor provider path rules).run () input (sinkFor device settings mode) state
      ⟨Ending.ofRun outcome.result, outcome.sink,
        themed ++ grammarEvents provider path ++ outcome.log⟩

/-- Does what the arguments ask for, without the final flush. -/
def executeOn (arguments : List Text) (settings : Settings) (mode : ColorMode) (files : FileSystem)
    (state : ω) : CommandResult ω :=
  match request arguments with
  | .usage => say device usage .usage state
  | .version => say device version .version state
  | .file argument =>
    match files.absolute argument with
    | .error failure => ⟨.error (.io failure), state, #[]⟩
    | .ok path =>
      match files.lookup path with
      | .absent =>
        say device (Error.fileNotFound (String.ofList path)).message (.notFound path) state
      | .unreadable failure => showFile provider device settings mode path (.error failure) state
      | .readable input => showFile provider device settings mode path (.ok input) state

/-- Runs the command line. -/
def runOn (arguments : List Text) (settings : Settings) (mode : ColorMode) (files : FileSystem)
    (state : ω) : CommandResult ω :=
  let executed := executeOn provider device arguments settings mode files state
  match device.flush executed.writer with
  | (.ok (), state) => { executed with writer := state }
  | (.error failure, state) => { executed with result := .error (.io failure), writer := state }

end

/-- Runs the command line with the bundled grammars and a writer. -/
def run (arguments : List Text) (settings : Settings) (mode : ColorMode) (files : FileSystem)
    (writer : Writer) : CommandResult Writer :=
  runOn BundledGrammar.provider Writer.device arguments settings mode files writer

end CommandLine

end Highlighting
