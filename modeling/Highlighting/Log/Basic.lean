import Highlighting.Error

/-!
# The log

What the program reports beside its output.  Each event knows its level, the part of the program it
comes from, and its wording.
-/

namespace Highlighting

/-- How urgent an event is, from the most to the least. -/
inductive LogLevel
  | error | warn | info | debug | trace
  deriving Repr, DecidableEq

namespace LogLevel

/-- The position in the order of urgency; a higher rank is reported less often. -/
def rank : LogLevel → Nat
  | .error => 1
  | .warn => 2
  | .info => 3
  | .debug => 4
  | .trace => 5

/-- The name of a level, as written in the log. -/
def label : LogLevel → String
  | .error => "ERROR"
  | .warn => "WARN"
  | .info => "INFO"
  | .debug => "DEBUG"
  | .trace => "TRACE"

end LogLevel

/-- What a completed run counts. -/
structure Summary where
  lines : Nat
  spans : Nat
  degradedLines : Nat
  deriving Repr, DecidableEq, Inhabited

/-- An event worth reporting. -/
inductive LogEvent
  | loadedTheme (name : String) (rules : Nat)
  | usingTheme (name : String)
  | resolvedGrammar (grammar language : String)
  | noGrammar (language : String)
  | writingUnstyled (path : String)
  | degradedLine (number : Nat) (error : Error)
  | highlighted (summary : Summary)
  deriving Repr, DecidableEq

namespace LogEvent

/-- Only lines that could not be tokenized are worth a warning. -/
def level : LogEvent → LogLevel
  | .degradedLine .. => .warn
  | _ => .debug

/-- The part of the program that reports the event, as filters know it. -/
def target : LogEvent → String
  | .loadedTheme .. => "shcat::theme"
  | .usingTheme .. | .writingUnstyled .. => "shcat::cli"
  | .resolvedGrammar .. | .noGrammar .. => "shcat::grammar"
  | .degradedLine .. | .highlighted .. => "shcat::highlight"

/-- The wording of an event. -/
def message : LogEvent → String
  | .loadedTheme name rules => "Loaded theme " ++ name ++ " with " ++ toString rules ++ " rules"
  | .usingTheme name => "Using theme " ++ name
  | .resolvedGrammar grammar language => "Resolved grammar " ++ grammar ++ " for " ++ language
  | .noGrammar language => "No grammar available for " ++ language
  | .writingUnstyled path => "Writing " ++ path ++ " without highlighting"
  | .degradedLine number error =>
    "Couldn't tokenize line " ++ toString number ++ ", " ++ error.message
  | .highlighted summary =>
    "Highlighted " ++ toString summary.lines ++ " lines into " ++ toString summary.spans ++
      " spans"

end LogEvent

end Highlighting
