import Mathlib
import Highlighting.Proofs.Run.Tracing
import Highlighting.Proofs.Sink.Device

/-!
# Themes influence nothing but styles

A theme says how a span looks, never whether there is one.  So if all styles are taken out of the
script of a run, what is left is the script of the same run without any rules
(`Highlighter.withoutStyles_script`), and two runs that differ only in their rules differ only in
the styles that they hand to their sinks.

A sink that never fails lets every script play to its end, so the choice among such sinks cannot be
told from anything else in the outcome either.  A recording is such a sink, and so are plain sinks
and terminal sinks over devices that never fail (`Sink.neverFails_plainOn`,
`Sink.neverFails_terminalOn`), in a box or not (`Sink.boxed_eq`).  Over any other device a plain
sink may fail, but it does not look at styles (`Sink.IgnoresStyles`) and cannot tell one theme from
another at all.
-/

namespace Highlighting

/-- The span in the terminal's own style. -/
def Span.withoutStyle (span : Span) : Span := .unstyled span.text

/-- The operation with the span in the terminal's own style. -/
def SinkOp.withoutStyle : SinkOp → SinkOp
  | .write span => .write span.withoutStyle
  | .lineBreak => .lineBreak
  | .flush => .flush

/-- The step with the span in the terminal's own style. -/
def Step.withoutStyle {σ : Type} : Step σ → Step σ
  | .call made => .call made
  | .log logged => .log logged
  | .sink asked => .sink asked.withoutStyle

/-- Without rules there is no style. -/
@[simp] theorem resolve_nil (scopes : List Scope) : resolve [] scopes = .unset := by
  simp [resolve, Style.fillFromRules]

namespace Highlighter

variable {σ μ τ υ ω : Type}

/-- The script with all spans in the terminal's own style. -/
def Script.withoutStyles (script : Script σ) : Script σ where
  steps := script.steps.map Step.withoutStyle
  ending := script.ending

/-! ### What is left without styles -/

/-- A line that is written as it is has no styles to lose. -/
theorem map_withoutStyle_unstyledSpans (line : Text) :
    (unstyledSpans line).map Span.withoutStyle = unstyledSpans line := by
  unfold unstyledSpans
  split
  · rfl
  · rfl

/-- The rules decide neither which tokens become spans nor what text these have. -/
theorem map_withoutStyle_tokenSpans (rules : List Rule) (line : Text) (tokens : List Token) :
    (tokenSpans rules line tokens).map Span.withoutStyle = tokenSpans [] line tokens := by
  rw [tokenSpans, tokenSpans, List.map_filterMap]
  refine List.filterMap_congr fun token _ => ?_
  by_cases hempty : token.textIn (ClusterIndex.ofLine line) = []
  · simp [hempty]
  · simp [hempty, Span.withoutStyle, Span.unstyled]

/-- To lose the styles of the spans is to lose those of the steps that write them. -/
theorem map_withoutStyle_writes (spans : List Span) :
    (writes spans : List (Step σ)).map Step.withoutStyle
      = writes (spans.map Span.withoutStyle) := by
  simp [writes, Function.comp_def, Step.withoutStyle, SinkOp.withoutStyle]

variable (tokenizer : Option (Tokenizer σ μ)) (rules others : List Rule)

/-- Without rules, a line has the same steps up to styles, and leaves the same to the next line. -/
theorem lineSteps_nil (line : NumberedLine) (progress : Progress σ μ) :
    lineSteps ⟨tokenizer, []⟩ line progress
      = ((lineSteps ⟨tokenizer, rules⟩ line progress).1.map Step.withoutStyle,
          (lineSteps ⟨tokenizer, rules⟩ line progress).2) := by
  unfold lineSteps
  cases tokenizer with
  | none =>
    dsimp only
    rw [map_withoutStyle_writes, map_withoutStyle_unstyledSpans]
  | some tokenizer =>
    dsimp only
    rcases tokenizer.tokenizeLine line.text progress.state progress.memory
      with ⟨error | answer, memory⟩
    · dsimp only
      rw [List.map_cons, List.map_cons, map_withoutStyle_writes, map_withoutStyle_unstyledSpans]
      rfl
    · dsimp only
      -- The spans are the same up to styles, so there are as many of them to count.
      have hspans := map_withoutStyle_tokenSpans rules line.text answer.1
      have hlength : (tokenSpans [] line.text answer.1).length
          = (tokenSpans rules line.text answer.1).length := by
        rw [← hspans, List.length_map]
      rw [List.map_cons, map_withoutStyle_writes, hspans, countLine, countLine, hlength]
      rfl

/-- The same of any number of lines. -/
theorem linesSteps_nil_rules (lines : List NumberedLine) (progress : Progress σ μ) :
    linesSteps ⟨tokenizer, []⟩ lines #[] progress
      = ((linesSteps ⟨tokenizer, rules⟩ lines #[] progress).1.map Step.withoutStyle,
          (linesSteps ⟨tokenizer, rules⟩ lines #[] progress).2) := by
  induction lines generalizing progress with
  | nil => simp [linesSteps_nil]
  | cons line lines ih =>
    have hline := lineSteps_nil tokenizer rules line progress
    refine Prod.ext (Array.ext' ?_) ?_
    · rw [toList_linesSteps_cons, hline, ih]
      dsimp only
      rw [Array.toList_map, Array.toList_map, toList_linesSteps_cons, List.map_append]
    · rw [snd_linesSteps_cons, hline, ih]
      dsimp only
      rw [snd_linesSteps_cons]

/-- And so of all the lines of an input. -/
theorem stepsOf_nil_rules (memory : μ) (lines : List Text) :
    stepsOf ⟨tokenizer, []⟩ memory lines
      = ((stepsOf ⟨tokenizer, rules⟩ memory lines).1.map Step.withoutStyle,
          (stepsOf ⟨tokenizer, rules⟩ memory lines).2) :=
  linesSteps_nil_rules tokenizer rules (NumberedLine.numberFrom 1 lines) (.start memory)

/-- Taking the styles out of a script is taking the rules out of the highlighter. -/
theorem withoutStyles_script (memory : μ) (input : Input) :
    (script ⟨tokenizer, rules⟩ memory input).withoutStyles
      = script ⟨tokenizer, []⟩ memory input := by
  have hlines := stepsOf_nil_rules tokenizer rules memory
    (LineReader.ofInput input).readAll.1.toList
  cases hread : (LineReader.ofInput input).readAll with
  | mk lines failure =>
    rw [hread] at hlines
    cases failure with
    | some failure =>
      rw [script_of_failure _ memory hread, script_of_failure _ memory hread, hlines]
      rfl
    | none =>
      rw [script_of_lines _ memory hread, script_of_lines _ memory hread, hlines]
      simp [Script.withoutStyles, Step.withoutStyle, SinkOp.withoutStyle]

/-! ### Sinks that never fail -/

/-- Calls have no styles, -/
theorem filterMap_call_withoutStyle (steps : List (Step σ)) :
    (steps.map Step.withoutStyle).filterMap Step.call? = steps.filterMap Step.call? := by
  rw [List.filterMap_map]
  refine List.filterMap_congr fun step _ => ?_
  cases step <;> rfl

/-- neither have events, -/
theorem filterMap_event_withoutStyle (steps : List (Step σ)) :
    (steps.map Step.withoutStyle).filterMap Step.event? = steps.filterMap Step.event? := by
  rw [List.filterMap_map]
  refine List.filterMap_congr fun step _ => ?_
  cases step <;> rfl

/-- and operations lose theirs one by one. -/
theorem filterMap_op_withoutStyle (steps : List (Step σ)) :
    (steps.map Step.withoutStyle).filterMap Step.op?
      = (steps.filterMap Step.op?).map SinkOp.withoutStyle := by
  rw [List.filterMap_map, List.map_filterMap]
  refine List.filterMap_congr fun step _ => ?_
  cases step <;> rfl

/-- A run over a sink that never fails, in terms of the script without rules. -/
theorem run_of_neverFails_nil (memory : μ) (input : Input) {sink : Sink τ} {state : τ}
    (reliable : sink.NeverFails state) :
    let outcome := run ⟨tokenizer, rules⟩ memory input sink state
    let bare := script ⟨tokenizer, []⟩ memory input
    outcome.result = bare.ending ∧
      outcome.calls = (bare.steps.toList.filterMap Step.call?).toArray ∧
      outcome.log = (bare.steps.toList.filterMap Step.event?).toArray ∧
      (asked ⟨tokenizer, rules⟩ memory input sink state).map SinkOp.withoutStyle
        = bare.steps.toList.filterMap Step.op? := by
  intro outcome bare
  have hrun : outcome = _ := run_of_neverFails ⟨tokenizer, rules⟩ memory input reliable
  -- A sink that never fails plays the whole script, so only the scripts have to be compared.
  have hbare : bare = (script ⟨tokenizer, rules⟩ memory input).withoutStyles :=
    (withoutStyles_script tokenizer rules memory input).symm
  rw [hrun, hbare, asked_of_neverFails _ memory input reliable, Script.withoutStyles,
    Array.toList_map, filterMap_call_withoutStyle, filterMap_event_withoutStyle,
    filterMap_op_withoutStyle]
  exact ⟨rfl, rfl, rfl, rfl⟩

end Highlighter

/-! ### Plain sinks -/

namespace Sink

variable {τ ω : Type}

/-- The sink does not look at styles. -/
def IgnoresStyles (sink : Sink τ) : Prop :=
  ∀ op state, sink.perform op.withoutStyle state = sink.perform op state

/-- A plain sink writes the text of a span and nothing else of it. -/
theorem ignoresStyles_plainOn (device : Device ω) : (plainOn device).IgnoresStyles := by
  intro op state
  cases op <;> rfl

end Sink

namespace Highlighter

variable {σ μ τ υ : Type}

/-- A sink that ignores styles plays a script and its unstyled copy alike.  It is asked for other
operations, but answers them alike, so that both are played equally far. -/
theorem play_withoutStyle {sink : Sink τ} (ignores : sink.IgnoresStyles)
    (ending : Except IoFailure Summary) (steps : List (Step σ)) (outcome : Outcome σ τ) :
    play sink ending (steps.map Step.withoutStyle) outcome = play sink ending steps outcome := by
  induction steps generalizing outcome with
  | nil => rfl
  | cons step steps ih =>
    cases step with
    | call made => exact ih { outcome with calls := outcome.calls.push made }
    | log logged => exact ih { outcome with log := outcome.log.push logged }
    | sink op =>
      rw [List.map_cons, Step.withoutStyle, play, play, ignores]
      rcases sink.perform op outcome.sink with ⟨failure | _, next⟩
      · rfl
      · exact ih { outcome with sink := next }

variable (tokenizer : Option (Tokenizer σ μ)) (rules others : List Rule)

/-- A sink that does not look at styles cannot tell that there are rules. -/
theorem run_of_ignoresStyles {sink : Sink τ} (ignores : sink.IgnoresStyles) (memory : μ)
    (input : Input) (state : τ) :
    run ⟨tokenizer, rules⟩ memory input sink state
      = run ⟨tokenizer, []⟩ memory input sink state := by
  have hplay := play_withoutStyle ignores (script ⟨tokenizer, rules⟩ memory input).ending
    (script ⟨tokenizer, rules⟩ memory input).steps.toList
    ⟨(script ⟨tokenizer, rules⟩ memory input).ending, state, #[], #[]⟩
  rw [run, run, ← withoutStyles_script tokenizer rules]
  dsimp only [Script.withoutStyles]
  rw [Array.toList_map]
  exact hplay.symm

/-- **Themes influence nothing but styles.**  Compare two runs of one tokenizer over one input with
different rules.  Over any sinks that never fail, be they the same or not, the runs end alike, make
the same calls, log the same, and ask their sinks for the same operations, up to the styles of the
spans.  Over a plain sink the runs are the same in everything, on whatever device it writes and
however that fails. -/
theorem run_differs_in_styles_only (memory : μ) (input : Input) :
    (∀ (sink : Sink τ) (state : τ) (other : Sink υ) (otherState : υ),
      sink.NeverFails state → other.NeverFails otherState →
        let first := run ⟨tokenizer, rules⟩ memory input sink state
        let second := run ⟨tokenizer, others⟩ memory input other otherState
        first.result = second.result ∧ first.calls = second.calls ∧ first.log = second.log ∧
          (asked ⟨tokenizer, rules⟩ memory input sink state).map SinkOp.withoutStyle
            = (asked ⟨tokenizer, others⟩ memory input other otherState).map
                SinkOp.withoutStyle) ∧
    ∀ {ω : Type} (device : Device ω) (state : ω),
      run ⟨tokenizer, rules⟩ memory input (.plainOn device) state
        = run ⟨tokenizer, others⟩ memory input (.plainOn device) state := by
  constructor
  · intro sink state other otherState reliable otherReliable first second
    obtain ⟨hresult, hcalls, hlog, hasked⟩ :=
      run_of_neverFails_nil tokenizer rules memory input reliable
    -- Both runs are compared with the one without rules.
    obtain ⟨hresult', hcalls', hlog', hasked'⟩ :=
      run_of_neverFails_nil tokenizer others memory input otherReliable
    exact ⟨hresult.trans hresult'.symm, hcalls.trans hcalls'.symm, hlog.trans hlog'.symm,
      hasked.trans hasked'.symm⟩
  · intro ω device state
    have hignores := Sink.ignoresStyles_plainOn device
    rw [run_of_ignoresStyles tokenizer rules hignores,
      run_of_ignoresStyles tokenizer others hignores]

/-- Refuses empty lines, and makes one token of every other line. -/
def wholeLines : Tokenizer Unit Unit :=
  .ofFunction fun line _ =>
    if line = [] then .error (.invalidScopeOperation "empty line")
    else .ok ([⟨0, line.byteSize, [.empty]⟩], ())

/-- Shows everything in bold. -/
def boldRules : List Rule := [⟨.empty, ⟨none, none, some ⟨true, false, false⟩⟩⟩]

/-- Three lines, the second one empty, and a failure behind them. -/
def gappedLines : Input :=
  [.data [0x61, 0x0A, 0x0A, 0x62, 0x0A], .failed (.device "disk on fire")]

/-- A bold terminal in a box and a recording without rules are asked for the same texts, and a plain
sink whose writer breaks behind the first letter writes the same either way. -/
theorem run_differs_in_styles_only_bold :
    let bold : Highlighter Unit Unit := ⟨some wholeLines, boldRules⟩
    let bare : Highlighter Unit Unit := ⟨some wholeLines, []⟩
    (Sink.terminal .direct).boxed.NeverFails .unlimited ∧ Sink.recording.NeverFails .empty ∧
      (bold.run () gappedLines (Sink.terminal .direct).boxed .unlimited).result
        = (bare.run () gappedLines .recording .empty).result ∧
      (bold.asked () gappedLines (Sink.terminal .direct).boxed .unlimited).map
          SinkOp.withoutStyle
        = [.write (.unstyled ['a']), .lineBreak, .lineBreak, .write (.unstyled ['b']),
            .lineBreak] ∧
      (bold.run () gappedLines (Sink.terminal .direct).boxed .unlimited).log
        = #[.degradedLine 2 (.invalidScopeOperation "empty line")] ∧
      (bold.run () gappedLines .plain (.limitedTo 1)).sink.output = [0x61] := by
  have hterminal : (Sink.terminal .direct).boxed.NeverFails .unlimited := by
    rw [Sink.boxed_eq]
    exact Sink.neverFails_terminalOn (Writer.neverFails_device rfl rfl) .direct
  have hrecording : Sink.recording.NeverFails .empty := Sink.neverFails_recording .empty
  obtain ⟨hreliable, hplain⟩ :=
    run_differs_in_styles_only (some wholeLines) boldRules [] () gappedLines
  obtain ⟨hresult, -, hlog, hasked⟩ := hreliable _ _ _ _ hterminal hrecording
  refine ⟨hterminal, hrecording, hresult, hasked.trans ?_, hlog.trans ?_, ?_⟩
  · cbv
  · cbv
  · rw [Sink.plain, hplain Writer.device (.limitedTo 1)]
    cbv

end Highlighter

end Highlighting
