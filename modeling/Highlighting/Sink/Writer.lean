import Highlighting.Error
import Highlighting.Text.Basic

/-!
# Devices and writers

A **device** takes bytes, and passes them on when it is flushed.  Either may fail, and whether it
does may depend on everything that was asked of the device before.

A **writer** is a device that keeps what it takes, and may stop taking.  `Writer.room` says how many
more bytes it takes before a write fails: the failing write is taken as far as there is room, and
afterwards the writer either refuses everything or, if it `recovers`, takes everything again.
Writing no bytes never fails.
-/

namespace Highlighting

/-- Where output goes.  Each request may fail, and changes the state `ω` in any case. -/
structure Device (ω : Type) where
  write : Bytes → ω → Except IoFailure Unit × ω
  flush : ω → Except IoFailure Unit × ω

/-- The state of a device that keeps what it takes. -/
structure Writer where
  /-- Everything taken so far. -/
  taken : Array UInt8
  /-- How many bytes are taken before a write fails; `none` when no write fails. -/
  room : Option Nat
  /-- Whether writing works again after the first failure. -/
  recovers : Bool
  /-- Whether flushing works. -/
  flushes : Bool
  deriving Repr, DecidableEq

namespace Writer

/-- A writer that never fails. -/
def unlimited : Writer := ⟨#[], none, false, true⟩

/-- A writer that takes `n` bytes in all. -/
def limitedTo (n : Nat) : Writer := { unlimited with room := some n }

/-- Everything taken so far, as a list. -/
def output (w : Writer) : Bytes := w.taken.toList

/-- Writes bytes. -/
def write (w : Writer) (bytes : Bytes) : Except IoFailure Unit × Writer :=
  match w.room with
  | none => (.ok (), { w with taken := w.taken ++ bytes })
  | some room =>
    if bytes.length ≤ room then
      (.ok (), { w with taken := w.taken ++ bytes, room := some (room - bytes.length) })
    else
      (.error .brokenPipe,
        { w with
          taken := w.taken ++ bytes.take room
          room := if w.recovers then none else some 0 })

/-- Passes everything on. -/
def flush (w : Writer) : Except IoFailure Unit × Writer :=
  (if w.flushes then .ok () else .error .pipeClosed, w)

/-- Writers as a device. -/
def device : Device Writer := ⟨fun bytes w => w.write bytes, flush⟩

end Writer

end Highlighting
