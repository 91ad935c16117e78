import Highlighting.Sink.Terminal
import Highlighting.Proofs.Sink.Writer

/-!
# Sequences of sink operations

What becomes of a sink when it is asked for several operations one after the other: the state that
it ends in (`Sink.after`) and, where it writes bytes, what each operation reports and adds to the
output (`Sink.effects`).  A run stops asking at the first failure (`Sink.performAll`).

A sink *never fails* from a state on when every operation succeeds, whichever came before it
(`Sink.NeverFails`).  A recording sink is such, and keeps the spans line by line.  So are the sinks
over a writer without a limit; what they write is the written form of the operations
(`SinkOp.plainForm`, `SinkOp.terminalForm`).

Over a writer without a limit, each operation adds its written form (`Sink.Writes`).  Over any
writer that can be flushed, an operation of a terminal sink is a single write of that form; if it
fails for a span in some style, an attempt at the resets follows, and how that ends is not reported
(`Sink.perform_terminal`).
-/

namespace Highlighting

namespace Sink

variable {τ : Type}

/-- The state after operations are carried out in order, whether they succeed or not. -/
def after (sink : Sink τ) (state : τ) (ops : List SinkOp) : τ :=
  ops.foldl (fun state op => (sink.perform op state).2) state

@[simp] theorem after_nil (sink : Sink τ) (state : τ) : sink.after state [] = state := rfl

@[simp] theorem after_cons (sink : Sink τ) (state : τ) (op : SinkOp) (ops : List SinkOp) :
    sink.after state (op :: ops) = sink.after (sink.perform op state).2 ops := rfl

/-- Operations in two parts are carried out part by part. -/
theorem after_append (sink : Sink τ) (state : τ) (before ops : List SinkOp) :
    sink.after state (before ++ ops) = sink.after (sink.after state before) ops :=
  List.foldl_append

/-- Whatever the sink was asked before, it carries out the next operation. -/
def NeverFails (sink : Sink τ) (state : τ) : Prop :=
  ∀ before op, (sink.perform op (sink.after state before)).1 = .ok ()

namespace NeverFails

variable {sink : Sink τ} {state : τ}

/-- The next operation succeeds. -/
theorem perform (reliable : sink.NeverFails state) (op : SinkOp) :
    (sink.perform op state).1 = .ok () :=
  reliable [] op

/-- A sink that never fails does not fail after an operation either. -/
theorem next (reliable : sink.NeverFails state) (op : SinkOp) :
    sink.NeverFails (sink.perform op state).2 :=
  fun before next => reliable (op :: before) next

/-- A sink never fails if it succeeds once in every state of a set that no operation leaves. -/
theorem of_invariant (invariant : τ → Prop) (holds : invariant state)
    (step : ∀ op state, invariant state →
      (sink.perform op state).1 = .ok () ∧ invariant (sink.perform op state).2) :
    sink.NeverFails state := by
  intro before op
  induction before generalizing state with
  | nil => exact (step op state holds).1
  | cons first before ih => exact ih (step first state holds).2

end NeverFails

/-! ### Up to the first failure -/

/-- Carries out operations in order, up to the first one that fails. -/
def performAll (sink : Sink τ) : List SinkOp → τ → Except IoFailure Unit × τ
  | [], state => (.ok (), state)
  | op :: ops, state =>
    match sink.perform op state with
    | (.ok (), state) => sink.performAll ops state
    | (.error failure, state) => (.error failure, state)

/-- An operation that succeeds hands its state to those behind it. -/
theorem performAll_cons_of_ok {sink : Sink τ} {op : SinkOp} {state next : τ}
    (performed : sink.perform op state = (.ok (), next)) (ops : List SinkOp) :
    sink.performAll (op :: ops) state = sink.performAll ops next := by
  rw [performAll, performed]

/-- An operation that fails is the last one, and its state is kept. -/
theorem performAll_cons_of_error {sink : Sink τ} {op : SinkOp} {state next : τ}
    {failure : IoFailure} (performed : sink.perform op state = (.error failure, next))
    (ops : List SinkOp) : sink.performAll (op :: ops) state = (.error failure, next) := by
  rw [performAll, performed]

/-- A sink that never fails carries out everything. -/
theorem NeverFails.performAll_eq {sink : Sink τ} {state : τ} (reliable : sink.NeverFails state)
    (ops : List SinkOp) : sink.performAll ops state = (.ok (), sink.after state ops) := by
  induction ops generalizing state with
  | nil => rfl
  | cons op ops ih =>
    have hperform : sink.perform op state = (.ok (), (sink.perform op state).2) :=
      Prod.ext (reliable.perform op) rfl
    rw [performAll_cons_of_ok hperform, after_cons]
    exact ih (reliable.next op)

end Sink

/-- What a sink is asked for one line: to write its spans, and to end it. -/
def SinkOp.forLine (spans : List Span) : List SinkOp := spans.map .write ++ [.lineBreak]

namespace Sink

/-! ### Recording -/

/-- A recording sink has no reason to fail. -/
theorem neverFails_recording (state : Recording) : recording.NeverFails state :=
  NeverFails.of_invariant (fun _ => True) trivial fun op _ _ => by
    cases op <;> exact ⟨rfl, trivial⟩

/-- Spans join the line that is open. -/
theorem after_recording_write (r : Recording) (spans : List Span) :
    recording.after r (spans.map .write) = { r with openLine := r.openLine ++ spans } := by
  induction spans generalizing r with
  | nil => simp
  | cons span spans ih =>
    rw [List.map_cons, after_cons, ih]
    simp [recording]

/-- A line break closes the line that is open, with all that has joined it. -/
theorem after_recording_forLine (r : Recording) (spans : List Span) :
    recording.after r (SinkOp.forLine spans)
      = { r with lines := r.lines.push (r.openLine.toList ++ spans), openLine := #[] } := by
  rw [SinkOp.forLine, after_append, after_recording_write]
  simp [recording]

/-- A recording sink keeps the spans line by line. -/
theorem after_recording_lines (r : Recording) (closed : r.openLine = #[])
    (lines : List (List Span)) :
    recording.after r (lines.flatMap SinkOp.forLine)
      = { r with lines := r.lines ++ lines } := by
  induction lines generalizing r with
  | nil => simp
  | cons spans lines ih =>
    rw [List.flatMap_cons, after_append, after_recording_forLine, ih _ rfl]
    simp [closed]

end Sink

/-! ### Written forms -/

/-- The text of an operation when styles are dropped. -/
def SinkOp.plainForm : SinkOp → Text
  | .write span => span.text
  | .lineBreak => ['\n']
  | .flush => []

/-- Whether the operation writes a span in some style, so that there is something to reset. -/
def SinkOp.isStyled : SinkOp → Bool
  | .write span => !span.style.isUnset
  | _ => false

/-- The text that commands spell one after the other. -/
def Command.spell (mode : ColorMode) (commands : List Command) : Text :=
  commands.flatMap (Command.text mode)

/-- The text of an operation for a terminal. -/
def SinkOp.terminalForm (mode : ColorMode) : SinkOp → Text
  | .write span =>
    if span.style.isUnset then span.text
    else Command.spell mode
      (Command.applying span.style ++ [.print span.text] ++ Command.resets)
  | .lineBreak => ['\n']
  | .flush => []

namespace Writer

/-- Sending commands is writing what they spell. -/
theorem send_device (mode : ColorMode) (w : Writer) (commands : List Command) :
    device.send mode w commands = w.write (Command.spell mode commands).utf8 := by
  induction commands generalizing w with
  -- To spell no command is to write no bytes, which never fails.
  | nil => exact (write_nil w).symm
  | cons command commands ih =>
    rw [Device.send, Command.spell, List.flatMap_cons, Text.utf8_append, write_append]
    dsimp only [device]
    cases hwrite : w.write (command.text mode).utf8 with
    | mk result after =>
      cases result with
      | error failure => rfl
      | ok _ => exact ih after

end Writer

namespace Sink

/-! ### Writers without a limit -/

/-- Over a writer that never fails, every operation succeeds and adds its written form. -/
def Writes (sink : Sink Writer) (form : SinkOp → Text) : Prop :=
  ∀ op w, w.room = none → w.flushes = true →
    sink.perform op w = (.ok (), w.fill (form op).utf8 none)

namespace Writes

variable {sink : Sink Writer} {form : SinkOp → Text}

/-- A writer without a limit stays so, and goes on flushing. -/
theorem neverFails (writes : sink.Writes form) {w : Writer} (limitless : w.room = none)
    (flushes : w.flushes = true) : sink.NeverFails w := by
  refine NeverFails.of_invariant (fun w => w.room = none ∧ w.flushes = true)
    ⟨limitless, flushes⟩ fun op w ⟨hroom, hflushes⟩ => ?_
  rw [writes op w hroom hflushes]
  exact ⟨rfl, rfl, hflushes⟩

/-- Several operations add their written forms in order. -/
theorem after_eq (writes : sink.Writes form) {w : Writer} (limitless : w.room = none)
    (flushes : w.flushes = true) (ops : List SinkOp) :
    sink.after w ops = w.fill (Text.utf8 (ops.flatMap form)) none := by
  induction ops generalizing w with
  | nil =>
    have hsame := Writer.fill_nil w
    rw [limitless] at hsame
    exact hsame.symm
  | cons op ops ih =>
    rw [after_cons, writes op w limitless flushes, ih (Writer.room_fill ..) flushes,
      Writer.fill_fill, List.flatMap_cons, Text.utf8_append]

/-- So the output is what the operations spell. -/
theorem output_after (writes : sink.Writes form) (ops : List SinkOp) :
    (sink.after Writer.unlimited ops).output = Text.utf8 (ops.flatMap form) := by
  rw [writes.after_eq rfl rfl, Writer.output_fill]
  rfl

end Writes

/-- A plain sink writes the plain forms. -/
theorem writes_plain : plain.Writes SinkOp.plainForm := by
  intro op w limitless flushes
  cases op with
  | write span => exact Writer.write_of_unlimited limitless _
  | lineBreak => exact Writer.write_of_unlimited limitless _
  | flush =>
    have hsame := Writer.fill_nil w
    rw [limitless] at hsame
    simp [plain, plainOn, Writer.device, Writer.flush, flushes, SinkOp.plainForm, hsame]

/-- A terminal sink writes the form of an operation.  If that fails for a span in some style, it
tries to write the resets, and does not report how that ends. -/
theorem perform_terminal (mode : ColorMode) (op : SinkOp) {w : Writer}
    (flushes : op = .flush → w.flushes = true) :
    (terminal mode).perform op w = match w.write (op.terminalForm mode).utf8 with
      | (.ok (), w) => (.ok (), w)
      | (.error failure, w) => (.error failure,
          if op.isStyled then (w.write (Command.spell mode Command.resets).utf8).2 else w) := by
  -- A span in no style, and a line break, are printed without any other command.
  have hprint : ∀ text : Text, Writer.device.send mode w [.print text] = w.write text.utf8 := by
    intro text
    rw [Writer.send_device]
    simp [Command.spell, Command.text]
  cases op with
  | write span =>
    by_cases hunset : span.style.isUnset = true
    · simp only [terminal, terminalOn, SinkOp.terminalForm, SinkOp.isStyled, hunset, if_true,
        hprint]
      rcases w.write span.text.utf8 with ⟨_ | _, after⟩ <;> rfl
    · simp only [terminal, terminalOn, SinkOp.terminalForm, SinkOp.isStyled, hunset,
        if_neg Bool.false_ne_true, Device.sendGuarded, Writer.send_device]
      split
      · rename_i hwrite
        rw [hwrite]
      · rename_i hwrite
        rw [hwrite]
        rfl
  | lineBreak =>
    simp only [terminal, terminalOn, SinkOp.terminalForm, hprint]
    rcases w.write (Text.utf8 ['\n']) with ⟨_ | _, after⟩ <;> rfl
  | flush => simp [terminal, terminalOn, Writer.device, Writer.flush, flushes rfl,
      SinkOp.terminalForm, Writer.write_nil]

/-- A terminal sink over a writer without a limit writes the forms for a terminal; there is no
failure after which the resets would be tried again. -/
theorem writes_terminal (mode : ColorMode) :
    (terminal mode).Writes (SinkOp.terminalForm mode) := by
  intro op w limitless flushes
  rw [perform_terminal mode op fun _ => flushes, Writer.write_of_unlimited limitless]

/-! ### Effects -/

/-- What an operation reports, and the bytes that it adds to the output. -/
structure Effect where
  result : Except IoFailure Unit
  bytes : Bytes

/-- The effects of operations that are carried out in order, whether they succeed or not. -/
def effects (sink : Sink Writer) (w : Writer) : List SinkOp → List Effect
  | [] => []
  | op :: ops =>
    ⟨(sink.perform op w).1, (sink.perform op w).2.output.drop w.output.length⟩
      :: effects sink (sink.perform op w).2 ops

/-- What an operation adds to the output is what its writer was filled with. -/
theorem effects_cons_of_fill {sink : Sink Writer} {op : SinkOp} {w : Writer}
    {result : Except IoFailure Unit} {bytes : Bytes} {room : Option Nat}
    (performed : sink.perform op w = (result, w.fill bytes room)) (ops : List SinkOp) :
    sink.effects w (op :: ops) = ⟨result, bytes⟩ :: sink.effects (w.fill bytes room) ops := by
  rw [effects, performed, Writer.output_fill, List.drop_left]

/-- A sink that takes nothing back from the output. -/
def Appends (sink : Sink Writer) : Prop :=
  ∀ op w, ∃ bytes room, (sink.perform op w).2 = w.fill bytes room

/-- The output is made of the bytes that the operations add. -/
theorem Appends.output_after {sink : Sink Writer} (appends : sink.Appends) (w : Writer)
    (ops : List SinkOp) :
    (sink.after w ops).output = w.output ++ (sink.effects w ops).flatMap Effect.bytes := by
  induction ops generalizing w with
  | nil => simp [effects]
  | cons op ops ih =>
    obtain ⟨bytes, room, hfill⟩ := appends op w
    rw [effects_cons_of_fill (Prod.ext rfl hfill), after_cons, ih, hfill, Writer.output_fill,
      List.flatMap_cons, List.append_assoc]

/-- Whatever fails, a terminal sink only ever adds to the output: as much of the form as fits, and
then as much of the resets. -/
theorem appends_terminal (mode : ColorMode) : (terminal mode).Appends := by
  intro op w
  by_cases hflush : op = .flush
  · subst hflush
    exact ⟨[], w.room, (Writer.fill_nil w).symm⟩
  rw [perform_terminal mode op fun h => absurd h hflush]
  obtain ⟨bytes, room, hwrite⟩ := w.exists_snd_write_eq (op.terminalForm mode).utf8
  cases hresult : w.write (op.terminalForm mode).utf8 with
  | mk result written =>
    rw [hresult] at hwrite
    obtain rfl : written = w.fill bytes room := hwrite
    cases result with
    | ok _ => exact ⟨bytes, room, rfl⟩
    | error failure =>
      cases op.isStyled with
      | false => exact ⟨bytes, room, rfl⟩
      | true =>
        -- The form was cut off, and the resets come behind what was taken of it.
        obtain ⟨more, after, hmore⟩ :=
          (w.fill bytes room).exists_snd_write_eq (Command.spell mode Command.resets).utf8
        exact ⟨bytes ++ more, after, hmore.trans (Writer.fill_fill ..)⟩

/-- Over a writer without a limit, an operation has the same effect whichever came before it. -/
theorem Writes.effects_eq {sink : Sink Writer} {form : SinkOp → Text} (writes : sink.Writes form)
    {w : Writer} (limitless : w.room = none) (flushes : w.flushes = true) (ops : List SinkOp) :
    sink.effects w ops = ops.map fun op => ⟨.ok (), (form op).utf8⟩ := by
  induction ops generalizing w with
  | nil => rfl
  | cons op ops ih =>
    rw [effects_cons_of_fill (writes op w limitless flushes), ih (Writer.room_fill ..) flushes,
      List.map_cons]

end Sink

end Highlighting
