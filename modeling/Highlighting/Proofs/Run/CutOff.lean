import Mathlib
import Highlighting.Proofs.Run.Script

/-!
# A writer that breaks cuts the output off

Over a writer that takes a number of bytes and then refuses everything, a run writes as much of its
output as the writer takes, and stops.

The reason is that nothing can be written behind a failure.  A terminal sink does attempt the resets
once more, but such a writer refuses them too; so over it every operation is a single write of its
written form (`Sink.WritesAtOnce`), and all operations up to the first one that fails are a single
write of their written forms together (`Sink.WritesAtOnce.performAll_eq`).  What a limited writer
makes of a single write is known.

It matters that the writer breaks for good.  One that works again would take the resets, and what it
has written would no longer be the beginning of what the other run writes
(`Sink.perform_terminal_of_lt`).
-/

namespace Highlighting

namespace Sink

/-- Over a writer that breaks for good, every operation is one write of its written form. -/
def WritesAtOnce (sink : Sink Writer) (form : SinkOp → Text) : Prop :=
  ∀ op w, w.recovers = false → w.flushes = true → sink.perform op w = w.write (form op).utf8

/-- So is a sequence of operations that stops at the first failure. -/
theorem WritesAtOnce.performAll_eq {sink : Sink Writer} {form : SinkOp → Text}
    (atOnce : sink.WritesAtOnce form) (ops : List SinkOp) {w : Writer}
    (breaks : w.recovers = false) (flushes : w.flushes = true) :
    sink.performAll ops w = w.write (Text.utf8 (ops.flatMap form)) := by
  induction ops generalizing w with
  | nil => exact (Writer.write_nil w).symm
  | cons op ops ih =>
    -- What a write leaves is the same writer with more taken, so it still breaks for good.
    have hperform := atOnce op w breaks flushes
    obtain ⟨taken, room, hafter⟩ := w.exists_snd_write_eq (form op).utf8
    rw [List.flatMap_cons, Text.utf8_append, Writer.write_append]
    cases hwrite : w.write (form op).utf8 with
    | mk result after =>
      rw [hwrite] at hperform hafter
      obtain rfl : after = w.fill taken room := hafter
      cases result with
      | error failure => exact performAll_cons_of_error hperform ops
      | ok _ =>
        rw [performAll_cons_of_ok hperform]
        exact ih breaks flushes

/-- A flush writes nothing, and succeeds as the writer does not refuse it. -/
theorem writesAtOnce_plain : plain.WritesAtOnce SinkOp.plainForm := by
  intro op w _ flushes
  cases op with
  | write span => rfl
  | lineBreak => rfl
  | flush =>
    simp [plain, plainOn, Writer.device, Writer.flush, flushes, SinkOp.plainForm,
      Writer.write_nil]

/-- The resets that are attempted after a failure are refused. -/
theorem writesAtOnce_terminal (mode : ColorMode) :
    (terminal mode).WritesAtOnce (SinkOp.terminalForm mode) := by
  intro op w breaks flushes
  rw [perform_terminal mode op fun _ => flushes]
  cases hroom : w.room with
  | none => rw [Writer.write_of_unlimited hroom]
  | some room =>
    rcases Nat.lt_or_ge room (op.terminalForm mode).utf8.length with hlt | hle
    · -- The writer is full from here on, so that neither reset gets a byte out.
      have hfull := Writer.room_fill w ((op.terminalForm mode).utf8.take room) (some 0)
      rw [Writer.write_of_lt hroom hlt, breaks, if_neg Bool.false_ne_true]
      dsimp only
      rw [Writer.snd_write_of_full hfull breaks, ite_self]
    · rw [Writer.write_of_le hroom hle]

/-- The sinks that write bytes: the plain one, and the terminal sink in each color mode. -/
inductive IsByteSink : Sink Writer → Prop
  | plain : IsByteSink .plain
  | terminal (mode : ColorMode) : IsByteSink (.terminal mode)

theorem IsByteSink.exists_writesAtOnce {sink : Sink Writer} (kind : sink.IsByteSink) :
    ∃ form, sink.WritesAtOnce form := by
  cases kind with
  | plain => exact ⟨_, writesAtOnce_plain⟩
  | terminal mode => exact ⟨_, writesAtOnce_terminal mode⟩

end Sink

namespace Highlighter

variable {σ μ : Type}

/-- All that a script writes. -/
def Script.written (form : SinkOp → Text) (script : Script σ) : Bytes :=
  Text.utf8 ((script.steps.toList.filterMap Step.op?).flatMap form)

section

variable (h : Highlighter σ μ) (memory : μ) (input : Input) {sink : Sink Writer}
  {form : SinkOp → Text}

/-- While the writer has room for all that the script writes, the run plays the whole script. -/
theorem run_of_write_ok (atOnce : sink.WritesAtOnce form) {w after : Writer}
    (breaks : w.recovers = false) (flushes : w.flushes = true)
    (wrote : w.write ((h.script memory input).written form) = (.ok (), after)) :
    h.run memory input sink w =
      { result := (h.script memory input).ending
        sink := after
        log := ((h.script memory input).steps.toList.filterMap Step.event?).toArray
        calls := ((h.script memory input).steps.toList.filterMap Step.call?).toArray } := by
  -- All the operations together are a single write, whose answer is given.
  have hperformed := atOnce.performAll_eq
    ((h.script memory input).steps.toList.filterMap Step.op?) breaks flushes
  rw [run, play_of_performAll_ok _ _ _ (hperformed.trans wrote)]
  simp

/-- Otherwise it plays the steps before the failure. -/
theorem run_of_write_error (atOnce : sink.WritesAtOnce form) {w after : Writer}
    (breaks : w.recovers = false) (flushes : w.flushes = true) {failure : IoFailure}
    (wrote : w.write ((h.script memory input).written form) = (.error failure, after)) :
    ∃ played, played <+: (h.script memory input).steps.toList ∧ h.run memory input sink w =
      { result := .error failure
        sink := after
        log := (played.filterMap Step.event?).toArray
        calls := (played.filterMap Step.call?).toArray } := by
  have hperformed := atOnce.performAll_eq
    ((h.script memory input).steps.toList.filterMap Step.op?) breaks flushes
  obtain ⟨played, hprefix, hplay⟩ := play_of_performAll_error (h.script memory input).ending _
    ⟨(h.script memory input).ending, w, #[], #[]⟩ (hperformed.trans wrote)
  refine ⟨played, hprefix, ?_⟩
  rw [run, hplay]
  simp

/-- **A writer that breaks cuts the output off.**  Compare a run over a writer that takes `n` bytes
in all with the same run over one that never fails.  It writes the first `n` bytes of what the other
run writes, or all of them if there are not more.  If there are more, it ends with the failure of
the writer, however the other run ends, and its tokenizer calls and its log break off as well; if
there are not, the two runs agree in everything else. -/
theorem run_limitedTo_prefix (kind : sink.IsByteSink) (n : Nat) :
    let whole := h.run memory input sink .unlimited
    let cut := h.run memory input sink (.limitedTo n)
    cut.sink.output = whole.sink.output.take (min n whole.sink.output.length) ∧
    (n < whole.sink.output.length →
      cut.result = .error .brokenPipe ∧ cut.calls.toList <+: whole.calls.toList ∧
        cut.log.toList <+: whole.log.toList) ∧
    (whole.sink.output.length ≤ n →
      cut.result = whole.result ∧ cut.calls = whole.calls ∧ cut.log = whole.log) := by
  intro whole cut
  obtain ⟨form, hatOnce⟩ := kind.exists_writesAtOnce
  -- Without a limit, everything is written.
  have hwhole := h.run_of_write_ok memory input hatOnce (w := .unlimited) rfl rfl
    (Writer.write_of_unlimited rfl _)
  have houtput : whole.sink.output = (h.script memory input).written form := by
    rw [show whole = _ from hwhole, Writer.output_fill]
    rfl
  rcases Nat.lt_or_ge n ((h.script memory input).written form).length with hlt | hle
  · -- The writer breaks in the middle of the output.
    obtain ⟨played, hprefix, hcut⟩ := h.run_of_write_error memory input hatOnce
      (w := .limitedTo n) rfl rfl (Writer.write_of_lt rfl hlt)
    refine ⟨?_, fun _ => ⟨?_, ?_, ?_⟩, fun hfits => absurd hlt ?_⟩
    · rw [houtput, Nat.min_eq_left (Nat.le_of_lt hlt), show cut = _ from hcut, Writer.output_fill]
      rfl
    · rw [show cut = _ from hcut]
    · rw [show cut = _ from hcut, show whole = _ from hwhole]
      exact hprefix.filterMap _
    · rw [show cut = _ from hcut, show whole = _ from hwhole]
      exact hprefix.filterMap _
    · rw [← houtput]
      exact Nat.not_lt_of_ge hfits
  · -- The writer has room for everything.
    have hcut := h.run_of_write_ok memory input hatOnce (w := .limitedTo n) rfl rfl
      (Writer.write_of_le rfl hle)
    refine ⟨?_, fun hexceeds => absurd hle ?_, fun _ => ⟨?_, ?_, ?_⟩⟩
    · rw [houtput, Nat.min_eq_right hle, List.take_length, show cut = _ from hcut,
        Writer.output_fill]
      rfl
    · rw [← houtput]
      exact Nat.not_le_of_gt hexceeds
    · rw [show cut = _ from hcut, show whole = _ from hwhole]
    · rw [show cut = _ from hcut, show whole = _ from hwhole]
    · rw [show cut = _ from hcut, show whole = _ from hwhole]

end

/-- Makes one token of every line, and shows it in bold. -/
def boldLines : Highlighter Unit Unit where
  tokenizer := some (.ofFunction fun line _ => .ok ([⟨0, line.byteSize, [.empty]⟩], ()))
  rules := [⟨.empty, ⟨none, none, some ⟨true, false, false⟩⟩⟩]

/-- Two lines, and a failure behind them. -/
def twoLines : Input := [.data [0x61, 0x0A, 0x62, 0x0A], .failed (.device "disk on fire")]

/-- The writer breaks inside the sequence in front of the second letter, before the input fails. -/
theorem run_limitedTo_prefix_bold :
    let whole := boldLines.run () twoLines (.terminal .direct) .unlimited
    let cut := boldLines.run () twoLines (.terminal .direct) (.limitedTo 17)
    Sink.IsByteSink (.terminal .direct) ∧ 17 < whole.sink.output.length ∧
      whole.result = .error (.device "disk on fire") ∧ cut.result = .error .brokenPipe ∧
      cut.sink.output = Text.utf8 ['\x1b', '[', '1', 'm', 'a', '\x1b', '[', '0', 'm',
        '\x1b', '[', '0', 'm', '\n', '\x1b', '[', '1'] := by
  have hkind : Sink.IsByteSink (.terminal .direct) := .terminal .direct
  have hlt :
      17 < (boldLines.run () twoLines (.terminal .direct) .unlimited).sink.output.length := by
    cbv
  obtain ⟨houtput, hbreaks, -⟩ := boldLines.run_limitedTo_prefix () twoLines hkind 17
  refine ⟨hkind, hlt, ?_, (hbreaks hlt).1, houtput.trans ?_⟩
  · cbv
  · cbv

end Highlighter

end Highlighting
