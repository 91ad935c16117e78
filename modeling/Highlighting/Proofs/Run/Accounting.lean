import Mathlib
import Highlighting.Proofs.LineReader.Yield
import Highlighting.Proofs.Run.WholeClusters

/-!
# The counts and the log tell the truth

A run that ends well returns counts and leaves a log.  Both are kept while the lines go by; this
module compares them with what can be seen from outside: the lines that the reader yields, the
operations that the sink is asked for, and the replies of the tokenizer to the calls that were made.

Each line adds to the counts what it asks of the sink
(`Highlighter.exists_clusterRuns_lineSteps`), and adds a warning if its call fails
(`Highlighter.lineSteps_some`); the same follows for any number of lines.  A tokenizer with a memory
need not give the same reply to the same call twice, so replies are those to the calls in order,
with the memory passed on (`Tokenizer.replies`).

Two counts go side by side: the reader numbers the lines that it yields, and the driver counts those
that it has handled.  A warning has the number of the reader; that the driver has counted as far by
then is a lemma (`Highlighter.number_eq_count`).
-/

namespace Highlighting

/-- The span that an operation writes, if it writes one. -/
def SinkOp.span? : SinkOp → Option Span
  | .write span => some span
  | _ => none

namespace SinkOp

/-- The line break behind the spans of a line is not one of them. -/
@[simp] theorem filterMap_span_forLine (spans : List Span) :
    (forLine spans).filterMap span? = spans := by
  simp [forLine, List.filterMap_map, Function.comp_def, span?]

/-- The spans of all lines are the spans that are written. -/
theorem filterMap_span_flatMap_forLine (lines : List (List Span)) :
    (lines.flatMap forLine).filterMap span? = lines.flatten := by
  induction lines with
  | nil => rfl
  | cons spans lines ih =>
    rw [List.flatMap_cons, List.filterMap_append, filterMap_span_forLine, ih, List.flatten_cons]

/-- There is a line break for each line. -/
theorem count_lineBreak_flatMap_forLine (lines : List (List Span)) :
    (lines.flatMap forLine).count .lineBreak = lines.length := by
  induction lines with
  | nil => rfl
  | cons spans lines ih =>
    have hwrites : (spans.map SinkOp.write).count .lineBreak = 0 := by
      rw [List.count_eq_zero]
      simp
    rw [List.flatMap_cons, List.count_append, forLine, List.count_append, hwrites, ih,
      List.length_cons]
    simp [Nat.add_comm]

theorem flush_notMem_flatMap_forLine (lines : List (List Span)) :
    .flush ∉ lines.flatMap forLine := by
  simp [forLine]

end SinkOp

namespace Tokenizer

variable {σ μ : Type}

/-- The replies of a tokenizer to calls that are made in order, from a memory on. -/
def replies (tokenizer : Tokenizer σ μ) :
    μ → List (Call σ) → List (Except Error (List Token × σ))
  | _, [] => []
  | memory, call :: calls =>
    let (reply, memory) := tokenizer.tokenizeLine call.line call.prior memory
    reply :: tokenizer.replies memory calls

end Tokenizer

namespace LogEvent

variable {α : Type}

/-- The warning for a line, if the reply to its call is an error. -/
def warning? : Except Error α × Nat → Option LogEvent
  | (.error error, number) => some (.degradedLine number error)
  | (.ok _, _) => none

/-- The warnings for lines with these replies, the first of which has the given number. -/
def warnings (first : Nat) (replies : List (Except Error α)) : List LogEvent :=
  (replies.zipIdx first).filterMap warning?

theorem warnings_cons (first : Nat) (reply : Except Error α) (replies : List (Except Error α)) :
    warnings first (reply :: replies)
      = warnings first [reply] ++ warnings (first + 1) replies := by
  simp [warnings, List.zipIdx_cons, List.filterMap_cons]
  split <;> rfl

/-- There is a warning for each error. -/
theorem map_level_warnings (first : Nat) (replies : List (Except Error α)) :
    (warnings first replies).map level = List.replicate (replies.countP (!·.isOk)) .warn := by
  induction replies generalizing first with
  | nil => rfl
  | cons reply replies ih =>
    rw [warnings_cons, List.map_append, ih]
    cases reply with
    | ok _ => rfl
    | error error =>
      rw [List.countP_cons_of_pos rfl, List.replicate_succ]
      rfl

end LogEvent

namespace Highlighter

variable {σ μ τ : Type}

/-! ### Counting lines and spans -/

/-- The number that the reader gives to a line is the driver's own count when the line has been
handled, so that it makes no difference which of them is logged. -/
theorem number_eq_count (h : Highlighter σ μ) (memory : μ) (input : Input)
    {before after : List NumberedLine} {line : NumberedLine}
    (split : (LineReader.ofInput input).readNumbered.1.toList = before ++ line :: after) :
    line.number = (h.linesSteps (before ++ [line]) #[] (.start memory)).2.summary.lines := by
  -- The reader counts from one on, and the driver adds one for each line that it has handled.
  rw [LineReader.readNumbered_eq] at split
  have hnumber : line.number = 1 + before.length :=
    NumberedLine.number_of_numberFrom_eq_append split
  obtain ⟨-, -, hcount, -, -⟩ :=
    h.exists_clusterRuns_linesSteps (before ++ [line]) (.start memory)
  calc line.number
      = 1 + before.length := hnumber
    _ = 0 + (before ++ [line]).length := by
        rw [List.length_append, List.length_singleton, Nat.zero_add, Nat.add_comm]
    _ = (h.linesSteps (before ++ [line]) #[] (.start memory)).2.summary.lines := hcount.symm

/-- Lines ask for their spans line by line. -/
theorem exists_spans_stepsOf (h : Highlighter σ μ) (memory : μ) (lines : List Text) :
    ∃ spans : List (List Span),
      (h.stepsOf memory lines).1.toList.filterMap Step.op? = spans.flatMap SinkOp.forLine ∧
      spans.length = lines.length ∧
      (h.stepsOf memory lines).2.summary.lines = lines.length ∧
      (h.stepsOf memory lines).2.summary.spans = spans.flatten.length ∧
      ∀ span ∈ spans.flatten, span.text ≠ [] ∧ ∃ line ∈ lines, span.text ⊆ line := by
  obtain ⟨spans, hops, hlines, hspans, hruns⟩ := h.exists_clusterRuns_stepsOf memory lines
  refine ⟨spans, hops, hruns.length_eq.symm, hlines, hspans, ?_⟩
  intro span hmem
  obtain ⟨line, hline, hrun⟩ := exists_line_of_mem_flatten hruns span hmem
  exact ⟨hrun.1, line, hline, hrun.subset⟩

/-! ### Counting failed calls -/

/-- The replies to the calls of a run, if it makes any. -/
def replies (h : Highlighter σ μ) (memory : μ) (calls : List (Call σ)) :
    List (Except Error (List Token × σ)) :=
  h.tokenizer.elim [] fun tokenizer => tokenizer.replies memory calls

/-- With a tokenizer, a line makes one call, which is counted if it fails, and logged with the
number of the line. -/
theorem lineSteps_some (tokenizer : Tokenizer σ μ) (rules : List Rule) (line : NumberedLine)
    (progress : Progress σ μ) :
    let reply := tokenizer.tokenizeLine line.text progress.state progress.memory
    let added := lineSteps ⟨some tokenizer, rules⟩ line progress
    added.1.filterMap Step.call? = [⟨line.text, progress.state⟩] ∧
      added.1.filterMap Step.event? = LogEvent.warnings line.number [reply.1] ∧
      added.2.memory = reply.2 ∧
      added.2.summary.degradedLines
        = progress.summary.degradedLines + [reply.1].countP (!·.isOk) := by
  unfold lineSteps
  dsimp only
  rcases tokenizer.tokenizeLine line.text progress.state progress.memory
    with ⟨error | answer, memory⟩
  · dsimp only
    refine ⟨?_, ?_, rfl, rfl⟩
    · rw [List.filterMap_cons, List.filterMap_cons_none rfl, filterMap_call_writes]
      rfl
    · -- The warning stands between the call and the writes.
      rw [List.filterMap_cons_none rfl, List.filterMap_cons, filterMap_event_writes]
      rfl
  · dsimp only
    refine ⟨?_, ?_, rfl, rfl⟩
    · rw [List.filterMap_cons, filterMap_call_writes]
      rfl
    · rw [List.filterMap_cons_none rfl, filterMap_event_writes]
      rfl

/-- So do lines that are numbered consecutively. -/
theorem linesSteps_some (tokenizer : Tokenizer σ μ) (rules : List Rule) (first : Nat)
    (lines : List Text) (progress : Progress σ μ) :
    let added :=
      linesSteps ⟨some tokenizer, rules⟩ (NumberedLine.numberFrom first lines) #[] progress
    let calls := added.1.toList.filterMap Step.call?
    let replies := tokenizer.replies progress.memory calls
    calls.map Call.line = lines ∧
      added.1.toList.filterMap Step.event? = LogEvent.warnings first replies ∧
      added.2.summary.degradedLines
        = progress.summary.degradedLines + replies.countP (!·.isOk) := by
  induction lines generalizing first progress with
  | nil => exact ⟨rfl, rfl, rfl⟩
  | cons line lines ih =>
    obtain ⟨hcall, hevents, hmemory, hdegraded⟩ :=
      lineSteps_some tokenizer rules ⟨first, line⟩ progress
    obtain ⟨hcalls', hevents', hdegraded'⟩ :=
      ih (first + 1) (lineSteps ⟨some tokenizer, rules⟩ ⟨first, line⟩ progress).2
    dsimp only
    rw [NumberedLine.numberFrom, toList_linesSteps_cons, snd_linesSteps_cons,
      List.filterMap_append, List.filterMap_append, hcall, List.singleton_append,
      Tokenizer.replies]
    dsimp only
    -- The replies go on with the memory that the first call has left.
    rw [← hmemory]
    refine ⟨?_, ?_, ?_⟩
    · rw [List.map_cons, hcalls']
    · rw [hevents, hevents', ← LogEvent.warnings_cons]
    · rw [hdegraded', hdegraded, Nat.add_assoc, ← List.countP_append, List.singleton_append]

/-- Without a tokenizer, no line makes a call or is logged. -/
theorem linesSteps_none (rules : List Rule) (lines : List NumberedLine)
    (progress : Progress σ μ) :
    let added := linesSteps (⟨none, rules⟩ : Highlighter σ μ) lines #[] progress
    added.1.toList.filterMap Step.call? = [] ∧ added.1.toList.filterMap Step.event? = [] ∧
      added.2.summary.degradedLines = progress.summary.degradedLines := by
  induction lines generalizing progress with
  | nil => exact ⟨rfl, rfl, rfl⟩
  | cons line lines ih =>
    obtain ⟨hcalls, hevents, hdegraded⟩ :=
      ih (lineSteps (⟨none, rules⟩ : Highlighter σ μ) line progress).2
    dsimp only
    rw [toList_linesSteps_cons, snd_linesSteps_cons, List.filterMap_append, List.filterMap_append,
      hcalls, hevents, hdegraded, List.append_nil, List.append_nil]
    exact ⟨filterMap_call_writes _, filterMap_event_writes _, rfl⟩

/-- Any lines, in terms of the replies to the calls made for them. -/
theorem stepsOf_replies (h : Highlighter σ μ) (memory : μ) (lines : List Text) :
    let added := h.stepsOf memory lines
    let calls := added.1.toList.filterMap Step.call?
    let replies := h.replies memory calls
    calls.map Call.line = (if h.tokenizer.isSome then lines else []) ∧
      added.1.toList.filterMap Step.event? = LogEvent.warnings 1 replies ∧
      added.2.summary.degradedLines = replies.countP (!·.isOk) := by
  obtain ⟨tokenizer, rules⟩ := h
  cases tokenizer with
  | none =>
    obtain ⟨hcalls, hevents, hdegraded⟩ :=
      linesSteps_none rules (NumberedLine.numberFrom 1 lines) (.start memory : Progress σ μ)
    rw [← stepsOf] at hcalls hevents hdegraded
    exact ⟨by rw [hcalls]; rfl, hevents, hdegraded⟩
  | some tokenizer =>
    obtain ⟨hcalls, hevents, hdegraded⟩ := linesSteps_some tokenizer rules 1 lines (.start memory)
    exact ⟨hcalls, hevents, hdegraded.trans (Nat.zero_add _)⟩

/-! ### Runs -/

/-- **The counts and the log tell the truth.**  When a run ends well, whatever its sink,

* its lines are the line breaks that the sink was asked for, and the lines that the reader yields
  before the input ends;
* its spans are those that the sink was asked to write, none of them empty and none with a line
  feed;
* its degraded lines are the calls that failed, out of one call for each line;
* its log has a warning for each failed call, in order, with the error and the number of the line —
  the number that the reader shows behind that line — and then the counts, once;
* the sink was asked to flush once, at the very end.

What the sink was asked for is read off the same run over the traced sink. -/
theorem run_tells_the_truth (h : Highlighter σ μ) (memory : μ) (input : Input) {sink : Sink τ}
    {state : τ} {summary : Summary}
    (succeeded : (h.run memory input sink state).result = .ok summary) :
    let outcome := h.run memory input sink state
    let asked := h.asked memory input sink state
    let lines := (LineReader.ofInput input).readAll.1.toList
    let replies := h.replies memory outcome.calls.toList
    (h.run memory input sink.traced (state, [])).mapSink Prod.fst = outcome ∧
    (summary.lines = asked.count .lineBreak ∧ (LineReader.ofInput input).readAll.2 = none ∧
      summary.lines = lines.length) ∧
    (summary.spans = (asked.filterMap SinkOp.span?).length ∧
      ∀ span ∈ asked.filterMap SinkOp.span?, span.text ≠ [] ∧ '\n' ∉ span.text) ∧
    (summary.degradedLines = replies.countP (!·.isOk) ∧
      outcome.calls.toList.map Call.line = if h.tokenizer.isSome then lines else []) ∧
    (outcome.log.toList = LogEvent.warnings 1 replies ++ [.highlighted summary] ∧
      outcome.log.toList.map LogEvent.level
        = List.replicate summary.degradedLines .warn ++ [.debug] ∧
      ∀ k line, lines[k]? = some line →
        (LineReader.ofInput input).answer k = (some (.ok line), k + 1)) ∧
    ∃ before, asked = before ++ [.flush] ∧ .flush ∉ before := by
  intro outcome asked lines replies
  obtain ⟨lines', hread, rfl, hasked, hlog, hcalls⟩ :=
    h.exists_lines_of_result_ok memory input succeeded
  obtain rfl : lines = lines' := by
    simp [lines, show (LineReader.ofInput input).readAll = _ from hread]
  -- What the lines ask of the sink, and what their calls were answered, is all that there is to
  -- compare.
  obtain ⟨spans, hops, hlength, hlines, hspans, htext⟩ :=
    h.exists_spans_stepsOf memory lines
  obtain ⟨hcallLines, hwarnings, hdegraded⟩ := h.stepsOf_replies memory lines
  rw [← hcalls] at hcallLines hwarnings hdegraded
  replace hasked : asked = spans.flatMap SinkOp.forLine ++ [.flush] := by
    rw [← hops]
    exact hasked
  rw [hwarnings] at hlog
  refine ⟨h.run_traced memory input, ⟨?_, ?_, ?_⟩, ⟨?_, ?_⟩, ⟨hdegraded, hcallLines⟩,
    ⟨hlog, ?_, ?_⟩, _, hasked, ?_⟩
  · rw [hasked, List.count_append, SinkOp.count_lineBreak_flatMap_forLine, hlines, hlength]
    simp
  · rw [show (LineReader.ofInput input).readAll = _ from hread]
  · exact hlines
  · rw [hasked, List.filterMap_append, SinkOp.filterMap_span_flatMap_forLine, hspans]
    simp [SinkOp.span?]
  · intro span hmem
    rw [hasked, List.filterMap_append, SinkOp.filterMap_span_flatMap_forLine] at hmem
    -- A span has characters of its line only, and no line that is read has a line feed.
    obtain ⟨hnonempty, line, hline, hsubset⟩ := htext span (by simpa [SinkOp.span?] using hmem)
    have hclean := LineReader.lineFeed_notMem_of_mem_readAll (.ofInput input) line
      (Array.mem_toList_iff.1 hline)
    exact ⟨hnonempty, fun hfeed => hclean (hsubset hfeed)⟩
  · rw [hlog, List.map_append, LogEvent.map_level_warnings, hdegraded]
    rfl
  · intro k line hline
    have hanswer := LineReader.answer_of_getElem?_readAll (.ofInput input) hline
    rwa [LineReader.ofInput, Nat.zero_add] at hanswer
  · exact SinkOp.flush_notMem_flatMap_forLine spans

/-- Counts its calls, fails in the second one, and otherwise gives a reversed token, a token for the
first byte, and one that goes far beyond the line. -/
def secondCallFails : Tokenizer Unit Nat where
  tokenizeLine _ _ made :=
    (if made = 1 then .error (.invalidScopeOperation "second call")
      else .ok ([⟨7, 0, []⟩, ⟨0, 1, []⟩, ⟨1, 99, []⟩], ()), made + 1)

/-- Three lines, the second one ended by an end of input that is not the last word. -/
def resumedLines : Input := [.data [0x61, 0x62, 0x0A, 0x63], .data [], .data [0x0A]]

/-- The writer has just enough room for the run to end well. -/
theorem run_tells_the_truth_resumed :
    let h : Highlighter Unit Nat := ⟨some secondCallFails, []⟩
    (h.run 0 resumedLines .plain (.limitedTo 6)).result = .ok ⟨3, 3, 1⟩ ∧
      (h.run 0 resumedLines .plain (.limitedTo 6)).log.toList
        = [.degradedLine 2 (.invalidScopeOperation "second call"), .highlighted ⟨3, 3, 1⟩] ∧
      (h.asked 0 resumedLines .plain (.limitedTo 6)).count .lineBreak = 3 ∧
      (LineReader.ofInput resumedLines).answer 1 = (some (.ok ['c']), 2) := by
  intro h
  have hresult : (h.run 0 resumedLines .plain (.limitedTo 6)).result = .ok ⟨3, 3, 1⟩ := by
    cbv
  obtain ⟨-, ⟨hlines, -⟩, -, -, ⟨hlog, -, hanswer⟩, -⟩ :=
    h.run_tells_the_truth 0 resumedLines hresult
  refine ⟨hresult, hlog.trans ?_, hlines.symm, hanswer 1 ['c'] ?_⟩
  · cbv
  · cbv

end Highlighter

end Highlighting
