import Highlighting.Sink.Basic
import Highlighting.Terminal.Command

/-!
# The terminal sink

A span in a style is written as the commands that put the style into force, the text, and the two
resets.  A span without any style is its text alone.

Whatever goes wrong on the way, the terminal must not stay styled.  When a write fails anywhere
between the first command and the last reset, the rest of the span is dropped and the two resets are
attempted once more; how that attempt ends is not reported.
-/

namespace Highlighting

namespace Device

variable {ω : Type}

/-- Writes commands in order, up to the first one that fails. -/
def send (device : Device ω) (mode : ColorMode) (state : ω) :
    List Command → Except IoFailure Unit × ω
  | [] => (.ok (), state)
  | command :: commands =>
    match device.write (command.text mode).utf8 state with
    | (.error failure, state) => (.error failure, state)
    | (.ok (), state) => device.send mode state commands

/-- Writes commands that end in resets.  If one fails, the resets are attempted again. -/
def sendGuarded (device : Device ω) (mode : ColorMode) (state : ω) (commands : List Command) :
    Except IoFailure Unit × ω :=
  match device.send mode state commands with
  | (.ok (), state) => (.ok (), state)
  | (.error failure, state) => (.error failure, (device.send mode state Command.resets).2)

end Device

namespace Sink

/-- Writes spans with colors and attributes. -/
def terminalOn {ω : Type} (device : Device ω) (mode : ColorMode) : Sink ω where
  perform
    | .write span, state =>
      if span.style.isUnset then device.send mode state [.print span.text]
      else
        device.sendGuarded mode state
          (Command.applying span.style ++ [.print span.text] ++ Command.resets)
    | .lineBreak, state => device.send mode state [.print ['\n']]
    | .flush, state => device.flush state

/-- The terminal sink over a writer. -/
def terminal (mode : ColorMode) : Sink Writer := terminalOn Writer.device mode

end Sink

end Highlighting
