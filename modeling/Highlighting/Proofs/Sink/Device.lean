import Highlighting.Proofs.Sink.Operations

/-!
# What a device is asked for

A device is asked for two things: to take bytes, and to flush (`DeviceOp`).  A **traced** device
does as it is asked and lists the requests beside its state (`Device.traced`), so that they can be
read off afterwards, whatever the device makes of them.

Whoever uses a device only through its answers cannot tell whether it is traced.  More generally,
the states of one device may *stand for* those of another one that answers alike (`Device.Mirrors`);
the sinks over the two devices then answer alike as well.
-/

namespace Highlighting

/-- What a device can be asked for. -/
inductive DeviceOp
  | write (bytes : Bytes)
  | flush
  deriving Repr, DecidableEq

/-- The bytes that are to be taken. -/
def DeviceOp.bytes : DeviceOp → Bytes
  | .write bytes => bytes
  | .flush => []

namespace Device

variable {ω υ : Type}

/-- Does what is asked. -/
def perform (device : Device ω) : DeviceOp → ω → Except IoFailure Unit × ω
  | .write bytes, state => device.write bytes state
  | .flush, state => device.flush state

/-- The state after requests in order, whether they succeed or not. -/
def after (device : Device ω) (state : ω) (ops : List DeviceOp) : ω :=
  ops.foldl (fun state op => (device.perform op state).2) state

/-- The device that also lists what it is asked for. -/
def traced (device : Device ω) : Device (ω × List DeviceOp) where
  write bytes state :=
    ((device.write bytes state.1).1, (device.write bytes state.1).2, state.2 ++ [.write bytes])
  flush state := ((device.flush state.1).1, (device.flush state.1).2, state.2 ++ [.flush])

/-! ### Devices that never fail -/

/-- Whatever the device was asked before, it does what is asked next. -/
def NeverFails (device : Device ω) (state : ω) : Prop :=
  ∀ before op, (device.perform op (device.after state before)).1 = .ok ()

namespace NeverFails

variable {device : Device ω} {state : ω}

/-- The next request succeeds. -/
theorem perform (reliable : device.NeverFails state) (op : DeviceOp) :
    (device.perform op state).1 = .ok () :=
  reliable [] op

/-- A device that never fails does not fail after a request either. -/
theorem next (reliable : device.NeverFails state) (op : DeviceOp) :
    device.NeverFails (device.perform op state).2 :=
  fun before next => reliable (op :: before) next

/-- A device never fails if it does as asked in every state of a set that no request leaves. -/
theorem of_invariant (invariant : ω → Prop) (holds : invariant state)
    (step : ∀ op state, invariant state →
      (device.perform op state).1 = .ok () ∧ invariant (device.perform op state).2) :
    device.NeverFails state := by
  intro before op
  induction before generalizing state with
  | nil => exact (step op state holds).1
  | cons first before ih => exact ih (step first state holds).2

/-- It takes command after command. -/
theorem send (reliable : device.NeverFails state) (mode : ColorMode) (commands : List Command) :
    (device.send mode state commands).1 = .ok () ∧
      device.NeverFails (device.send mode state commands).2 := by
  induction commands generalizing state with
  | nil => exact ⟨rfl, reliable⟩
  | cons command commands ih =>
    have hok := reliable.perform (.write (command.text mode).utf8)
    have hnext := reliable.next (.write (command.text mode).utf8)
    rw [Device.send]
    dsimp only [Device.perform] at hok hnext
    rcases hwrite : device.write (command.text mode).utf8 state with ⟨_ | _, next⟩
    · rw [hwrite] at hok
      cases hok
    · rw [hwrite] at hnext
      exact ih hnext

/-- There are no resets to attempt again. -/
theorem sendGuarded_eq (reliable : device.NeverFails state) (mode : ColorMode)
    (commands : List Command) :
    device.sendGuarded mode state commands = device.send mode state commands := by
  obtain ⟨hok, -⟩ := reliable.send mode commands
  rw [Device.sendGuarded]
  rcases hsend : device.send mode state commands with ⟨_ | _, next⟩
  · rw [hsend] at hok
    cases hok
  · rfl

end NeverFails

/-! ### Devices that answer alike -/

/-- The states of the second device stand for those of the first one: both answer alike. -/
structure Mirrors (device : Device ω) (other : Device υ) (f : ω → υ) : Prop where
  write : ∀ bytes state,
    other.write bytes (f state) = ((device.write bytes state).1, f (device.write bytes state).2)
  flush : ∀ state, other.flush (f state) = ((device.flush state).1, f (device.flush state).2)

/-- A device that never fails does not fail when it is traced. -/
theorem NeverFails.traced {device : Device ω} {state : ω} (reliable : device.NeverFails state)
    (before : List DeviceOp) : device.traced.NeverFails (state, before) := by
  refine of_invariant (fun state => device.NeverFails state.1) reliable
    fun op state hreliable => ?_
  cases op with
  | write bytes => exact ⟨hreliable.perform (.write bytes), hreliable.next (.write bytes)⟩
  | flush => exact ⟨hreliable.perform .flush, hreliable.next .flush⟩

namespace Mirrors

variable {device : Device ω} {other : Device υ} {f : ω → υ}

/-- Commands are writes, so that devices which take writes alike take commands alike. -/
theorem send (mirrors : device.Mirrors other f) (mode : ColorMode) (state : ω)
    (commands : List Command) :
    other.send mode (f state) commands
      = ((device.send mode state commands).1, f (device.send mode state commands).2) := by
  induction commands generalizing state with
  | nil => rfl
  | cons command commands ih =>
    rw [Device.send, Device.send, mirrors.write]
    rcases device.write (command.text mode).utf8 state with ⟨_ | _, next⟩
    · rfl
    · exact ih next

/-- So they do when the resets are tried again. -/
theorem sendGuarded (mirrors : device.Mirrors other f) (mode : ColorMode) (state : ω)
    (commands : List Command) :
    other.sendGuarded mode (f state) commands
      = ((device.sendGuarded mode state commands).1,
          f (device.sendGuarded mode state commands).2) := by
  rw [Device.sendGuarded, Device.sendGuarded, mirrors.send]
  rcases device.send mode state commands with ⟨_ | _, next⟩
  · dsimp only
    rw [mirrors.send]
  · rfl

end Mirrors

end Device

namespace Sink

variable {ω : Type}

/-! ### Sinks over devices -/

/-- Neither does a terminal sink. -/
theorem neverFails_terminalOn {device : Device ω} {state : ω} (reliable : device.NeverFails state)
    (mode : ColorMode) : (terminalOn device mode).NeverFails state := by
  refine NeverFails.of_invariant device.NeverFails reliable fun op state hreliable => ?_
  cases op with
  | write span =>
    by_cases hunset : span.style.isUnset = true
    · simp only [terminalOn, hunset, if_true]
      exact hreliable.send mode _
    · simp only [terminalOn, hunset, if_neg Bool.false_ne_true]
      rw [hreliable.sendGuarded_eq mode]
      exact hreliable.send mode _
  | lineBreak => exact hreliable.send mode _
  | flush => exact ⟨hreliable.perform .flush, hreliable.next .flush⟩

end Sink

/-- A writer without a limit that can be flushed never fails. -/
theorem Writer.neverFails_device {w : Writer} (limitless : w.room = none)
    (flushes : w.flushes = true) : device.NeverFails w := by
  refine Device.NeverFails.of_invariant (fun w => w.room = none ∧ w.flushes = true)
    ⟨limitless, flushes⟩ fun op w ⟨hroom, hflushes⟩ => ?_
  cases op with
  | write bytes =>
    have hwrite : device.perform (.write bytes) w = (.ok (), w.fill bytes none) :=
      write_of_unlimited hroom bytes
    rw [hwrite]
    exact ⟨rfl, rfl, hflushes⟩
  | flush =>
    have hflush : device.perform .flush w = (.ok (), w) := by
      simp [Device.perform, device, flush, hflushes]
    rw [hflush]
    exact ⟨rfl, hroom, hflushes⟩

end Highlighting
