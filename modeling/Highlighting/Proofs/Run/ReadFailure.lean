import Highlighting.Proofs.Run.Accounting

/-!
# A read failure keeps the complete lines

When reading fails, the run ends with that failure.  What it has handed over by then is exactly what
a run over the lines before the failure alone would have handed over, short of the flush and of the
closing event: whole lines, and nothing of the line that was being read.

The comparison is with any input that reads as these lines and ends well.  There always is one that
has no failure in store (`Input.exists_readsAs`).

The two runs can be compared because a script is made line by line: the steps for the lines are the
same in both (`Highlighter.script_of_lines`, `Highlighter.script_of_failure`), and only what comes
behind them differs.
-/

namespace Highlighting

/-- What a recording holds when lines were handed over to it and no line is open. -/
theorem Recording.after_lines (lines : List (List Span)) :
    Sink.recording.after .empty (lines.flatMap SinkOp.forLine) = ⟨lines.toArray, #[], false⟩ := by
  rw [Sink.after_recording_lines _ rfl]
  simp [Recording.empty]

namespace LogEvent

variable {α : Type}

/-- No warning is a closing event. -/
theorem highlighted_notMem_warnings (first : Nat) (replies : List (Except Error α))
    (summary : Summary) : .highlighted summary ∉ warnings first replies := by
  intro hmem
  obtain ⟨⟨reply, number⟩, -, hwarning⟩ := List.mem_filterMap.1 hmem
  cases reply <;> simp [warning?] at hwarning

end LogEvent

namespace Highlighter

variable {σ μ τ : Type} (h : Highlighter σ μ) (memory : μ)

/-- A run whose input fails over a sink that never fails, in terms of the steps for the lines before
the failure. -/
theorem run_of_read_failure {input : Input} {lines : Array Text} {failure : IoFailure}
    (read : (LineReader.ofInput input).readAll = (lines, some failure)) {sink : Sink τ} {state : τ}
    (reliable : sink.NeverFails state) :
    let steps := (h.stepsOf memory lines.toList).1.toList
    h.run memory input sink state =
        { result := .error failure
          sink := sink.after state (steps.filterMap Step.op?)
          log := (steps.filterMap Step.event?).toArray
          calls := (steps.filterMap Step.call?).toArray } ∧
      h.asked memory input sink state = steps.filterMap Step.op? := by
  rw [h.run_of_neverFails memory input reliable, h.asked_of_neverFails memory input reliable,
    h.script_of_failure memory read]
  exact ⟨rfl, rfl⟩

/-- The same over an input that reads as these lines and ends well. -/
theorem asked_of_readsAs {input : Input} {lines : List Text} (reads : input.ReadsAs lines)
    {sink : Sink τ} {state : τ} (reliable : sink.NeverFails state) :
    h.asked memory input sink state
      = (h.stepsOf memory lines).1.toList.filterMap Step.op? ++ [.flush] := by
  rw [h.asked_of_neverFails memory input reliable, h.script_of_lines memory reads]
  simp [List.filterMap_cons, Step.op?]

/-- What lines leave in a recording: a finished line for each of them, and nothing else. -/
theorem exists_recording_stepsOf (lines : List Text) :
    ∃ spans : List (List Span), spans.length = lines.length ∧
      Sink.recording.after .empty ((h.stepsOf memory lines).1.toList.filterMap Step.op?)
        = ⟨spans.toArray, #[], false⟩ := by
  obtain ⟨spans, hops, hlength, -⟩ := h.exists_spans_stepsOf memory lines
  exact ⟨spans, hlength, by rw [hops, Recording.after_lines]⟩

/-- A run that reads the same lines and ends well does all that a failing run does, and then flushes
the sink and logs the counts. -/
theorem run_of_readsAs_of_read_failure {input whole : Input} {lines : Array Text}
    {failure : IoFailure} (read : (LineReader.ofInput input).readAll = (lines, some failure))
    (reads : whole.ReadsAs lines.toList) {sink : Sink τ} {state : τ}
    (reliable : sink.NeverFails state) :
    let outcome := h.run memory input sink state
    let complete := h.run memory whole sink state
    complete.sink = (sink.perform .flush outcome.sink).2 ∧
      h.asked memory whole sink state = h.asked memory input sink state ++ [.flush] ∧
      complete.calls = outcome.calls ∧
      ∃ summary, complete.result = .ok summary ∧
        complete.log = outcome.log.push (.highlighted summary) := by
  intro outcome complete
  obtain ⟨hrun, hasked⟩ := h.run_of_read_failure memory read reliable
  have houtcome : outcome = _ := hrun
  have hcomplete : complete = _ := h.run_of_readsAs memory reads reliable
  rw [houtcome, hcomplete, hasked, h.asked_of_readsAs memory reads reliable, Sink.after_append]
  refine ⟨rfl, rfl, rfl, _, rfl, ?_⟩
  simp

/-- **A read failure keeps the complete lines.**  A run into a recording sink flushes it if and only
if the input ends without a failure.  With a failure, the run ends with it, and the recording holds
a finished line for each line that was read before, and nothing else; no closing event is logged.

There are inputs without any failure that read as these lines.  The run over such an input makes the
same calls and records the same spans, line by line; all that it does beyond that is to flush the
sink and to log the counts. -/
theorem run_keeps_complete_lines (input : Input) :
    let read := (LineReader.ofInput input).readAll
    let outcome := h.run memory input .recording .empty
    (outcome.sink.flushed = true ↔ read.2 = none) ∧
    ∀ failure, read.2 = some failure →
      outcome.result = .error failure ∧
      outcome.sink.lines.size = read.1.size ∧ outcome.sink.openLine = #[] ∧
      (∀ summary, .highlighted summary ∉ outcome.log) ∧
      (∃ whole : Input, whole.failures = [] ∧ whole.ReadsAs read.1.toList) ∧
      ∀ whole : Input, whole.ReadsAs read.1.toList →
        let complete := h.run memory whole .recording .empty
        complete.sink = { outcome.sink with flushed := true } ∧
        h.asked memory whole .recording .empty
          = h.asked memory input .recording .empty ++ [.flush] ∧
        complete.calls = outcome.calls ∧
        ∃ summary, complete.result = .ok summary ∧
          complete.log = outcome.log.push (.highlighted summary) := by
  intro read outcome
  have hreliable : Sink.recording.NeverFails .empty := Sink.neverFails_recording .empty
  obtain ⟨spans, hlength, hafter⟩ := h.exists_recording_stepsOf memory read.1.toList
  -- Some input without a failure has the same lines, to compare with.
  obtain ⟨whole, hwhole⟩ := input.exists_readsAs
  rcases hread : read with ⟨lines, _ | failure⟩
  · -- The input ends well, so that the last operation is the flush.
    have hreads : input.ReadsAs lines.toList := hread
    have hrun : outcome = _ := h.run_of_readsAs memory hreads hreliable
    refine ⟨⟨fun _ => rfl, fun _ => ?_⟩, nofun⟩
    rw [hrun, Sink.after_append]
    rfl
  · rw [hread] at hafter hlength
    obtain ⟨hrun, -⟩ := h.run_of_read_failure memory hread hreliable
    rw [hafter] at hrun
    have houtcome : outcome = _ := hrun
    refine ⟨⟨fun hflushed => ?_, nofun⟩, ?_⟩
    · -- With a failure, the recording holds lines only, and none of them has flushed it.
      rw [houtcome] at hflushed
      simp at hflushed
    intro failure' hfailure
    obtain rfl := Option.some.inj hfailure
    refine ⟨?_, ?_, ?_, ?_, ?_, ?_⟩
    · rw [houtcome]
    · rw [houtcome]
      simpa using hlength
    · rw [houtcome]
    · intro summary hmem
      rw [houtcome, (h.stepsOf_replies memory lines.toList).2.1] at hmem
      exact LogEvent.highlighted_notMem_warnings _ _ summary (List.mem_toArray.1 hmem)
    · rw [show (LineReader.ofInput input).readAll = _ from hread] at hwhole
      exact ⟨whole, hwhole⟩
    · intro whole' hreads
      exact h.run_of_readsAs_of_read_failure memory hread hreads hreliable

/-- Makes one token of a line, and cannot tokenize empty ones. -/
def nonEmptyLines : Highlighter Unit Unit where
  tokenizer := some (.ofFunction fun line _ =>
    if line = [] then .error (.invalidScopeOperation "empty line")
    else .ok ([⟨0, line.byteSize, []⟩], ()))
  rules := []

/-- Three lines, the last of which is ended by an end of input, and the beginning of a fourth one,
which a failure takes away. -/
def brokenOffLines : Input :=
  [.data [0x61, 0x0A], .interrupted, .data [0x0A, 0x62], .data [], .data [0x63],
    .failed (.device "disk on fire")]

/-- The second line is degraded, and all three are recorded as if nothing came behind them. -/
theorem run_keeps_complete_lines_broken :
    let failure := IoFailure.device "disk on fire"
    let whole : Input := [.data [0x61, 0x0A, 0x0A, 0x62]]
    let degraded := LogEvent.degradedLine 2 (.invalidScopeOperation "empty line")
    (LineReader.ofInput brokenOffLines).readAll = (#[['a'], [], ['b']], some failure) ∧
      whole.ReadsAs [['a'], [], ['b']] ∧
      (nonEmptyLines.run () brokenOffLines .recording .empty).result = .error failure ∧
      (nonEmptyLines.run () brokenOffLines .recording .empty).sink.flushed ≠ true ∧
      (nonEmptyLines.run () whole .recording .empty).sink
        = ⟨#[[.unstyled ['a']], [], [.unstyled ['b']]], #[], true⟩ ∧
      (nonEmptyLines.run () whole .recording .empty).log
        = #[degraded, .highlighted ⟨3, 2, 1⟩] := by
  intro failure whole degraded
  have hread : (LineReader.ofInput brokenOffLines).readAll
      = (#[['a'], [], ['b']], some failure) := by
    cbv
  have hwhole : whole.ReadsAs [['a'], [], ['b']] := by
    unfold Input.ReadsAs
    cbv
  obtain ⟨hflushed, hfailed⟩ := nonEmptyLines.run_keeps_complete_lines () brokenOffLines
  rw [hread] at hflushed hfailed
  obtain ⟨hresult, -, -, -, -, hcomplete⟩ := hfailed failure rfl
  obtain ⟨hsink, -, -, summary, hsummary, hlog⟩ := hcomplete whole hwhole
  refine ⟨hread, hwhole, hresult, fun hflush => ?_, hsink.trans ?_, hlog.trans ?_⟩
  · cases hflushed.1 hflush
  · cbv
  · obtain rfl : summary = ⟨3, 2, 1⟩ := Except.ok.inj (hsummary.symm.trans (by cbv))
    cbv

end Highlighter

end Highlighting
