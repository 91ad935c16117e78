import Highlighting.Run
import Highlighting.Proofs.LineReader.Lines
import Highlighting.Proofs.Sink.Operations

/-!
# Playing a script

A script is a list of steps of three kinds, and playing it separates them again: the calls go to the
calls of the outcome, the events to its log, and the operations to the sink, up to the first one
that fails (`Highlighter.play_of_performAll_ok`, `Highlighter.play_of_performAll_error`).  So a run
over a sink that never fails is known from the calls, events and operations of its script, and those
of a script come line by line (`Highlighter.toList_linesSteps_cons`).

That an operation fails is the only thing that a sink can do to a run.  So what a run over any sink
does is the beginning of what its script says, and theorems about runs are theorems about scripts
first.
-/

namespace Highlighting

namespace Step

variable {σ : Type}

/-- The tokenizer call, if the step is one. -/
def call? : Step σ → Option (Call σ)
  | .call made => some made
  | _ => none

/-- The log event, if the step is one. -/
def event? : Step σ → Option LogEvent
  | .log logged => some logged
  | _ => none

/-- The sink operation, if the step is one. -/
def op? : Step σ → Option SinkOp
  | .sink asked => some asked
  | _ => none

end Step

namespace Highlighter

variable {σ μ τ : Type}

/-! ### Playing -/

theorem filterMap_op_sink_cons (op : SinkOp) (steps : List (Step σ)) :
    (.sink op :: steps).filterMap Step.op? = op :: steps.filterMap Step.op? := rfl

/-- If the sink carries out all operations of a script, every step is played. -/
theorem play_of_performAll_ok {sink : Sink τ} (ending : Except IoFailure Summary)
    (steps : List (Step σ)) (outcome : Outcome σ τ) {state : τ}
    (performed : sink.performAll (steps.filterMap Step.op?) outcome.sink = (.ok (), state)) :
    play sink ending steps outcome =
      { result := ending
        sink := state
        log := outcome.log ++ steps.filterMap Step.event?
        calls := outcome.calls ++ steps.filterMap Step.call? } := by
  induction steps generalizing outcome with
  | nil =>
    obtain rfl : outcome.sink = state := by simpa [Sink.performAll] using performed
    simp [play]
  | cons step steps ih =>
    cases step with
    | call made =>
      rw [play, ih { outcome with calls := outcome.calls.push made } performed]
      simp [List.filterMap_cons, Step.event?, Step.call?]
    | log logged =>
      rw [play, ih { outcome with log := outcome.log.push logged } performed]
      simp [List.filterMap_cons, Step.event?, Step.call?]
    | sink op =>
      rw [filterMap_op_sink_cons] at performed
      rcases hperform : sink.perform op outcome.sink with ⟨_ | _, next⟩
      · -- The script has an operation that fails, which it was not to have.
        rw [Sink.performAll_cons_of_error hperform] at performed
        simp at performed
      · rw [Sink.performAll_cons_of_ok hperform] at performed
        simp only [play, hperform]
        rw [ih { outcome with sink := next } performed]
        simp [List.filterMap_cons, Step.event?, Step.call?]

/-- If the sink fails at some operation, only steps that come before it are played. -/
theorem play_of_performAll_error {sink : Sink τ} (ending : Except IoFailure Summary)
    (steps : List (Step σ)) (outcome : Outcome σ τ) {failure : IoFailure} {state : τ}
    (performed : sink.performAll (steps.filterMap Step.op?) outcome.sink
      = (.error failure, state)) :
    ∃ played, played <+: steps ∧ play sink ending steps outcome =
      { result := .error failure
        sink := state
        log := outcome.log ++ played.filterMap Step.event?
        calls := outcome.calls ++ played.filterMap Step.call? } := by
  induction steps generalizing outcome with
  | nil => simp [Sink.performAll] at performed
  | cons step steps ih =>
    cases step with
    | call made =>
      obtain ⟨played, hprefix, hplay⟩ :=
        ih { outcome with calls := outcome.calls.push made } performed
      refine ⟨.call made :: played, (List.prefix_cons_inj _).2 hprefix, ?_⟩
      rw [play, hplay]
      simp [List.filterMap_cons, Step.event?, Step.call?]
    | log logged =>
      obtain ⟨played, hprefix, hplay⟩ :=
        ih { outcome with log := outcome.log.push logged } performed
      refine ⟨.log logged :: played, (List.prefix_cons_inj _).2 hprefix, ?_⟩
      rw [play, hplay]
      simp [List.filterMap_cons, Step.event?, Step.call?]
    | sink op =>
      rw [filterMap_op_sink_cons] at performed
      rcases hperform : sink.perform op outcome.sink with ⟨_ | _, next⟩
      · rw [Sink.performAll_cons_of_error hperform] at performed
        -- Nothing is played from the operation that fails on.
        refine ⟨[], List.nil_prefix, ?_⟩
        simp only [play, hperform]
        simpa using performed
      · rw [Sink.performAll_cons_of_ok hperform] at performed
        obtain ⟨played, hprefix, hplay⟩ := ih { outcome with sink := next } performed
        -- The failure lies further on, and this operation comes before it.
        refine ⟨.sink op :: played, (List.prefix_cons_inj _).2 hprefix, ?_⟩
        simp only [play, hperform]
        rw [hplay]
        simp [List.filterMap_cons, Step.event?, Step.call?]

/-- The sink of a run ends in the state that its operations leave, up to the first failure. -/
theorem sink_play {sink : Sink τ} (ending : Except IoFailure Summary) (steps : List (Step σ))
    (outcome : Outcome σ τ) : (play sink ending steps outcome).sink
      = (sink.performAll (steps.filterMap Step.op?) outcome.sink).2 := by
  rcases hperformed : sink.performAll (steps.filterMap Step.op?) outcome.sink with
    ⟨failure | _, after⟩
  · obtain ⟨played, -, hplay⟩ := play_of_performAll_error ending steps outcome hperformed
    rw [hplay]
  · rw [play_of_performAll_ok ending steps outcome hperformed]

/-- Over a sink that never fails, every step is carried out. -/
theorem play_of_neverFails {sink : Sink τ} (ending : Except IoFailure Summary)
    (steps : List (Step σ)) (outcome : Outcome σ τ) (reliable : sink.NeverFails outcome.sink) :
    play sink ending steps outcome =
      { result := ending
        sink := sink.after outcome.sink (steps.filterMap Step.op?)
        log := outcome.log ++ steps.filterMap Step.event?
        calls := outcome.calls ++ steps.filterMap Step.call? } :=
  play_of_performAll_ok ending steps outcome (reliable.performAll_eq _)

/-- A run over a sink that never fails, in terms of its script. -/
theorem run_of_neverFails (h : Highlighter σ μ) (memory : μ) (input : Input) {sink : Sink τ}
    {state : τ} (reliable : sink.NeverFails state) :
    h.run memory input sink state =
      { result := (h.script memory input).ending
        sink := sink.after state ((h.script memory input).steps.toList.filterMap Step.op?)
        log := ((h.script memory input).steps.toList.filterMap Step.event?).toArray
        calls := ((h.script memory input).steps.toList.filterMap Step.call?).toArray } := by
  rw [run, play_of_neverFails _ _ _ reliable]
  simp

/-! ### Lines -/

/-- The writes of a line are its operations and nothing else. -/
@[simp] theorem filterMap_op_writes (spans : List Span) :
    (writes spans : List (Step σ)).filterMap Step.op? = SinkOp.forLine spans := by
  simp [writes, SinkOp.forLine, List.filterMap_map, Function.comp_def, Step.op?]

@[simp] theorem filterMap_call_writes (spans : List Span) :
    (writes spans : List (Step σ)).filterMap Step.call? = [] := by
  simp [writes, List.filterMap_map, Function.comp_def, Step.call?]

@[simp] theorem filterMap_event_writes (spans : List Span) :
    (writes spans : List (Step σ)).filterMap Step.event? = [] := by
  simp [writes, List.filterMap_map, Function.comp_def, Step.event?]

/-- The spans of a line are made of the tokens of its call, if that is made and succeeds, and
otherwise of the line as it is. -/
theorem lineSteps_cases (h : Highlighter σ μ) (line : NumberedLine) (progress : Progress σ μ) :
    ∃ spans : List Span,
      (h.lineSteps line progress).1.filterMap Step.op? = SinkOp.forLine spans ∧
      (h.lineSteps line progress).2.summary.lines = progress.summary.lines + 1 ∧
      (h.lineSteps line progress).2.summary.spans = progress.summary.spans + spans.length ∧
      (spans = unstyledSpans line.text ∨
        ∃ tokenizer ∈ h.tokenizer, ∃ tokens state memory,
          tokenizer.tokenizeLine line.text progress.state progress.memory
            = (.ok (tokens, state), memory) ∧
          spans = tokenSpans h.rules line.text tokens) := by
  unfold lineSteps
  split
  · -- Without a tokenizer, no call is made.
    exact ⟨unstyledSpans line.text, filterMap_op_writes _, rfl, rfl, .inl rfl⟩
  · rename_i tokenizer htokenizer
    dsimp only
    split
    · rename_i tokens state memory hanswer
      refine ⟨tokenSpans h.rules line.text tokens, ?_, rfl, rfl, .inr ?_⟩
      · rw [List.filterMap_cons_none rfl, filterMap_op_writes]
      · exact ⟨tokenizer, htokenizer, tokens, state, memory, hanswer, rfl⟩
    · -- A call that fails is logged, and the line is written as if none had been made.
      refine ⟨unstyledSpans line.text, ?_, rfl, rfl, .inl rfl⟩
      rw [List.filterMap_cons_none rfl, List.filterMap_cons_none rfl, filterMap_op_writes]

theorem linesSteps_nil (h : Highlighter σ μ) (steps : Array (Step σ)) (progress : Progress σ μ) :
    h.linesSteps [] steps progress = (steps, progress) := rfl

theorem linesSteps_cons (h : Highlighter σ μ) (line : NumberedLine)
    (lines : List NumberedLine) (steps : Array (Step σ)) (progress : Progress σ μ) :
    h.linesSteps (line :: lines) steps progress
      = h.linesSteps lines (steps ++ (h.lineSteps line progress).1)
          (h.lineSteps line progress).2 := rfl

/-- The steps already taken stand in front, and do not influence those that follow. -/
theorem linesSteps_eq (h : Highlighter σ μ) (lines : List NumberedLine) (steps : Array (Step σ))
    (progress : Progress σ μ) :
    h.linesSteps lines steps progress
      = (steps ++ (h.linesSteps lines #[] progress).1, (h.linesSteps lines #[] progress).2) := by
  induction lines generalizing steps progress with
  | nil => simp [linesSteps_nil]
  | cons line lines ih =>
    -- Both sides take the first line's steps in front of the same rest.
    rw [linesSteps_cons, linesSteps_cons, ih, ih (#[] ++ _)]
    refine Prod.ext (Array.ext' ?_) rfl
    simp

/-- The steps of the first line come first. -/
theorem toList_linesSteps_cons (h : Highlighter σ μ) (line : NumberedLine)
    (lines : List NumberedLine) (progress : Progress σ μ) :
    (h.linesSteps (line :: lines) #[] progress).1.toList
      = (h.lineSteps line progress).1
        ++ (h.linesSteps lines #[] (h.lineSteps line progress).2).1.toList := by
  rw [linesSteps_cons, linesSteps_eq, Array.toList_append]
  simp

/-- What is carried on is carried through the first line. -/
theorem snd_linesSteps_cons (h : Highlighter σ μ) (line : NumberedLine)
    (lines : List NumberedLine) (progress : Progress σ μ) :
    (h.linesSteps (line :: lines) #[] progress).2
      = (h.linesSteps lines #[] (h.lineSteps line progress).2).2 := by
  rw [linesSteps_cons, linesSteps_eq]

/-! ### The script of a run -/

/-- What the lines of an input add to the script of a run, and what they leave behind. -/
def stepsOf (h : Highlighter σ μ) (memory : μ) (lines : List Text) :
    Array (Step σ) × Progress σ μ :=
  h.linesSteps (NumberedLine.numberFrom 1 lines) #[] (.start memory)

/-- Without a read failure, the script is that of the lines, a flush, and the closing event. -/
theorem script_of_lines (h : Highlighter σ μ) (memory : μ) {input : Input} {lines : Array Text}
    (read : (LineReader.ofInput input).readAll = (lines, none)) :
    h.script memory input =
      { steps := ((h.stepsOf memory lines.toList).1.push (.sink .flush)).push
          (.log (.highlighted (h.stepsOf memory lines.toList).2.summary))
        ending := .ok (h.stepsOf memory lines.toList).2.summary } := by
  rw [script, LineReader.readNumbered_eq, read]
  rfl

/-- With a read failure, it is that of the lines before it. -/
theorem script_of_failure (h : Highlighter σ μ) (memory : μ) {input : Input} {lines : Array Text}
    {failure : IoFailure} (read : (LineReader.ofInput input).readAll = (lines, some failure)) :
    h.script memory input =
      { steps := (h.stepsOf memory lines.toList).1
        ending := .error failure } := by
  rw [script, LineReader.readNumbered_eq, read]
  rfl

/-- Behind the lines, a script asks for a flush at most. -/
theorem ops_script_prefix (h : Highlighter σ μ) (memory : μ) (input : Input) :
    (h.script memory input).steps.toList.filterMap Step.op?
      <+: (h.stepsOf memory (LineReader.ofInput input).readAll.1.toList).1.toList.filterMap
          Step.op? ++ [.flush] := by
  rcases hread : (LineReader.ofInput input).readAll with ⟨lines, _ | failure⟩
  · rw [h.script_of_lines memory hread]
    simp [List.filterMap_cons, Step.op?]
  · rw [h.script_of_failure memory hread]
    exact List.prefix_append _ _

/-- A run that reads to the end over a sink that never fails, in terms of the steps for its
lines. -/
theorem run_of_readsAs (h : Highlighter σ μ) (memory : μ) {input : Input} {lines : List Text}
    (reads : input.ReadsAs lines) {sink : Sink τ} {state : τ} (reliable : sink.NeverFails state) :
    h.run memory input sink state =
      { result := .ok (h.stepsOf memory lines).2.summary
        sink := sink.after state
          ((h.stepsOf memory lines).1.toList.filterMap Step.op? ++ [.flush])
        log := ((h.stepsOf memory lines).1.toList.filterMap Step.event?
          ++ [LogEvent.highlighted (h.stepsOf memory lines).2.summary]).toArray
        calls := ((h.stepsOf memory lines).1.toList.filterMap Step.call?).toArray } := by
  rw [h.run_of_neverFails memory input reliable, h.script_of_lines memory reads]
  simp [List.filterMap_cons, Step.op?, Step.event?, Step.call?]

end Highlighter

end Highlighting
