import Highlighting.Proofs.Run.Script

/-!
# What a sink is asked for

The outcome of a run shows the state that its sink ends in, but not the operations that led there.
A **traced** sink carries them out as before and lists them beside its state (`Sink.traced`), so
that what a run asks of its sink can be read off a run over the traced one (`Highlighter.asked`).

Tracing does not disturb the run.  This is an instance of a more general fact: if the states of one
sink stand for those of another one and both answer alike, then a run over the first stands for a
run over the second (`Highlighter.run_mapSink`).

A run that ends well, and any run over a sink that never fails, asks for every operation of its
script.
-/

namespace Highlighting

namespace Sink

variable {τ : Type}

/-- The sink that also lists what it is asked for. -/
def traced (sink : Sink τ) : Sink (τ × List SinkOp) where
  perform op state :=
    ((sink.perform op state.1).1, (sink.perform op state.1).2, state.2 ++ [op])

/-- A box changes nothing. -/
@[simp] theorem boxed_eq (sink : Sink τ) : sink.boxed = sink := by
  have hperform : sink.boxed.perform = sink.perform := by
    funext op state
    cases op <;> rfl
  cases sink
  exact congrArg Sink.mk hperform

/-- When a traced sink carries out everything, everything is on its list. -/
theorem performAll_traced_of_ok {sink : Sink τ} {ops : List SinkOp} {state after : τ}
    (performed : sink.performAll ops state = (.ok (), after)) (before : List SinkOp) :
    sink.traced.performAll ops (state, before) = (.ok (), after, before ++ ops) := by
  induction ops generalizing state before with
  | nil =>
    obtain rfl : state = after := by simpa [performAll] using performed
    simp [performAll]
  | cons op ops ih =>
    rcases hperform : sink.perform op state with ⟨_ | _, next⟩
    · rw [performAll_cons_of_error hperform] at performed
      simp at performed
    · have htraced : sink.traced.perform op (state, before) = (.ok (), next, before ++ [op]) := by
        simp [traced, hperform]
      rw [performAll_cons_of_ok hperform] at performed
      rw [performAll_cons_of_ok htraced, ih performed, List.append_assoc, List.singleton_append]

/-- A traced sink is asked in order, and for nothing else. -/
theorem exists_performAll_traced (sink : Sink τ) (ops : List SinkOp) (state : τ)
    (before : List SinkOp) :
    ∃ done, done <+: ops ∧
      (sink.traced.performAll ops (state, before)).2.2 = before ++ done := by
  induction ops generalizing state before with
  | nil => exact ⟨[], List.prefix_rfl, (List.append_nil before).symm⟩
  | cons op ops ih =>
    rcases hperform : sink.perform op state with ⟨failure | _, next⟩
    · -- The operation that fails is on the list all the same.
      have htraced : sink.traced.perform op (state, before)
          = (.error failure, next, before ++ [op]) := by
        simp [traced, hperform]
      exact ⟨[op], List.prefix_append [op] ops, by rw [performAll_cons_of_error htraced]⟩
    · have htraced : sink.traced.perform op (state, before) = (.ok (), next, before ++ [op]) := by
        simp [traced, hperform]
      obtain ⟨done, hprefix, hlist⟩ := ih next (before ++ [op])
      refine ⟨op :: done, (List.prefix_cons_inj op).2 hprefix, ?_⟩
      rw [performAll_cons_of_ok htraced, hlist, List.append_assoc, List.singleton_append]

end Sink

namespace Highlighter

variable {σ μ τ υ : Type}

/-- The outcome with its sink seen through a function. -/
def Outcome.mapSink (f : τ → υ) (outcome : Outcome σ τ) : Outcome σ υ :=
  ⟨outcome.result, f outcome.sink, outcome.log, outcome.calls⟩

/-! ### Sinks that stand for others -/

section

variable {sink : Sink τ} {other : Sink υ} {f : τ → υ}

/-- Both sinks fail at the same operation, so the same steps are played. -/
theorem play_mapSink
    (alike : ∀ op state, other.perform op (f state)
      = ((sink.perform op state).1, f (sink.perform op state).2))
    (ending : Except IoFailure Summary) (steps : List (Step σ)) (outcome : Outcome σ τ) :
    play other ending steps (outcome.mapSink f)
      = (play sink ending steps outcome).mapSink f := by
  induction steps generalizing outcome with
  | nil => rfl
  | cons step steps ih =>
    cases step with
    | call made => exact ih { outcome with calls := outcome.calls.push made }
    | log logged => exact ih { outcome with log := outcome.log.push logged }
    | sink op =>
      -- The answer is what decides whether playing goes on, and it is the same for both.
      have hsame := alike op outcome.sink
      rcases hperform : sink.perform op outcome.sink with ⟨failure | _, next⟩
      · rw [hperform] at hsame
        simp [play, hperform, hsame, Outcome.mapSink]
      · rw [hperform] at hsame
        have hrest := ih { outcome with sink := next }
        simpa [play, hperform, hsame, Outcome.mapSink] using hrest

/-- If one sink stands for another, a run over the one stands for a run over the other. -/
theorem run_mapSink
    (alike : ∀ op state, other.perform op (f state)
      = ((sink.perform op state).1, f (sink.perform op state).2))
    (h : Highlighter σ μ) (memory : μ) (input : Input) (state : τ) :
    h.run memory input other (f state) = (h.run memory input sink state).mapSink f :=
  play_mapSink alike _ _ ⟨(h.script memory input).ending, state, #[], #[]⟩

end

/-! ### What a run asks for -/

/-- The operations that a run asks of its sink, in order. -/
def asked (h : Highlighter σ μ) (memory : μ) (input : Input) (sink : Sink τ) (state : τ) :
    List SinkOp :=
  (h.run memory input sink.traced (state, [])).sink.2

section

variable (h : Highlighter σ μ) (memory : μ) (input : Input) {sink : Sink τ} {state : τ}

/-- Tracing does not disturb a run. -/
theorem run_traced :
    (h.run memory input sink.traced (state, [])).mapSink Prod.fst
      = h.run memory input sink state := by
  have halike : ∀ op (state : τ × List SinkOp), sink.perform op state.1
      = ((sink.traced.perform op state).1, (sink.traced.perform op state).2.1) :=
    fun _ _ => rfl
  exact (run_mapSink halike h memory input (state, [])).symm

/-- A run asks for the operations of its script in order, and for nothing else. -/
theorem asked_prefix : h.asked memory input sink state
    <+: (h.script memory input).steps.toList.filterMap Step.op? := by
  obtain ⟨done, hprefix, hlist⟩ := sink.exists_performAll_traced
    ((h.script memory input).steps.toList.filterMap Step.op?) state []
  rwa [asked, run, sink_play, hlist, List.nil_append]

/-- A run asks for all operations of its script if the sink carries them out. -/
theorem asked_of_performAll_ok {after : τ}
    (performed : sink.performAll ((h.script memory input).steps.toList.filterMap Step.op?) state
      = (.ok (), after)) :
    h.asked memory input sink state
      = (h.script memory input).steps.toList.filterMap Step.op? := by
  have htraced := Sink.performAll_traced_of_ok performed []
  rw [asked, run, play_of_performAll_ok _ _ _ htraced, List.nil_append]

theorem asked_of_neverFails (reliable : sink.NeverFails state) :
    h.asked memory input sink state
      = (h.script memory input).steps.toList.filterMap Step.op? :=
  h.asked_of_performAll_ok memory input (reliable.performAll_eq _)

/-- A run that ends well has played its whole script. -/
theorem run_of_result_ok {summary : Summary}
    (succeeded : (h.run memory input sink state).result = .ok summary) :
    (h.script memory input).ending = .ok summary ∧
      h.asked memory input sink state
        = (h.script memory input).steps.toList.filterMap Step.op? ∧
      (h.run memory input sink state).log
        = ((h.script memory input).steps.toList.filterMap Step.event?).toArray ∧
      (h.run memory input sink state).calls
        = ((h.script memory input).steps.toList.filterMap Step.call?).toArray := by
  rcases hperformed : sink.performAll
    ((h.script memory input).steps.toList.filterMap Step.op?) state with ⟨failure | _, after⟩
  · -- A failure of the sink would be the result.
    obtain ⟨played, -, hplay⟩ := play_of_performAll_error (h.script memory input).ending _
      ⟨(h.script memory input).ending, state, #[], #[]⟩ hperformed
    rw [run, hplay] at succeeded
    simp at succeeded
  · have hrun := play_of_performAll_ok (h.script memory input).ending _
      ⟨(h.script memory input).ending, state, #[], #[]⟩ hperformed
    rw [run, hrun] at succeeded
    refine ⟨succeeded, h.asked_of_performAll_ok memory input hperformed, ?_, ?_⟩
    · rw [run, hrun]
      simp
    · rw [run, hrun]
      simp

/-- A run that ends well, in terms of the steps for its lines. -/
theorem exists_lines_of_result_ok {summary : Summary}
    (succeeded : (h.run memory input sink state).result = .ok summary) :
    ∃ lines : List Text, input.ReadsAs lines ∧
      let added := h.stepsOf memory lines
      added.2.summary = summary ∧
      h.asked memory input sink state = added.1.toList.filterMap Step.op? ++ [.flush] ∧
      (h.run memory input sink state).log.toList
        = added.1.toList.filterMap Step.event? ++ [.highlighted summary] ∧
      (h.run memory input sink state).calls.toList = added.1.toList.filterMap Step.call? := by
  obtain ⟨hending, hasked, hlog, hcalls⟩ := h.run_of_result_ok memory input succeeded
  rcases hread : (LineReader.ofInput input).readAll with ⟨lines, _ | failure⟩
  · rw [h.script_of_lines memory hread] at hending hasked hlog hcalls
    obtain rfl := Except.ok.inj hending
    refine ⟨lines.toList, hread, rfl, ?_, ?_, ?_⟩
    · rw [hasked]
      simp [List.filterMap_cons, Step.op?]
    · rw [hlog]
      simp [List.filterMap_cons, Step.event?]
    · rw [hcalls]
      simp [List.filterMap_cons, Step.call?]
  · -- A failure of the input would be the result as well.
    rw [h.script_of_failure memory hread] at hending
    simp at hending

end

end Highlighter

end Highlighting
