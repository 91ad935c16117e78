import Highlighting.Error
import Highlighting.Sink.Writer
import Highlighting.Style

/-!
# Sinks

A **sink** is where styled text ends up.  It carries out three operations — write a span, end the
line, flush — and each may fail.  A failed operation still leaves the sink in a new state, since
part of it may have been carried out.

Two simple sinks are defined here: `Sink.plainOn` drops all styles, and `Sink.recording` keeps
everything and writes nothing.  `Sink.boxed` hides a sink behind a pointer, and passes everything on
to it.
-/

namespace Highlighting

/-- A piece of one line and the style to show it in. -/
structure Span where
  text : Text
  style : Style
  deriving Repr, DecidableEq, Inhabited

/-- A span in the terminal's own style. -/
def Span.unstyled (text : Text) : Span := ⟨text, .unset⟩

/-- What a sink can be asked to do. -/
inductive SinkOp
  | write (span : Span)
  | lineBreak
  | flush
  deriving Repr, DecidableEq

/-- Carries out operations on a state `τ`. -/
structure Sink (τ : Type) where
  perform : SinkOp → τ → Except IoFailure Unit × τ

namespace Sink

/-- Writes the text of the spans as it is. -/
def plainOn {ω : Type} (device : Device ω) : Sink ω where
  perform
    | .write span, state => device.write span.text.utf8 state
    | .lineBreak, state => device.write (Text.utf8 ['\n']) state
    | .flush, state => device.flush state

/-- The plain sink over a writer. -/
def plain : Sink Writer := plainOn Writer.device

/-- Passes every operation on to the sink in the box. -/
def boxed {τ : Type} (sink : Sink τ) : Sink τ where
  perform
    | .write span, state => sink.perform (.write span) state
    | .lineBreak, state => sink.perform .lineBreak state
    | .flush, state => sink.perform .flush state

end Sink

/-- What a recording sink has been given: the spans of the finished lines, those of the open line,
and whether it was flushed. -/
structure Recording where
  lines : Array (List Span)
  openLine : Array Span
  flushed : Bool
  deriving Repr, DecidableEq

/-- Nothing has been given. -/
def Recording.empty : Recording := ⟨#[], #[], false⟩

/-- Keeps what it is given. -/
def Sink.recording : Sink Recording where
  perform
    | .write span, r => (.ok (), { r with openLine := r.openLine.push span })
    | .lineBreak, r => (.ok (), { r with lines := r.lines.push r.openLine.toList, openLine := #[] })
    | .flush, r => (.ok (), { r with flushed := true })

end Highlighting
