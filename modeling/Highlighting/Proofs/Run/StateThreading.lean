import Mathlib
import Highlighting.Proofs.LineReader.Lines
import Highlighting.Proofs.Run.Script

/-!
# The state from line to line

A tokenizer without a memory is a function of a line and a prior state.  A run that uses one makes a
call for each line, and the prior state of a call is what the call before it left behind
(`Call.leaves`): its new state if it succeeded, and nothing if it failed.  `Call.thread` lists these
calls; the spans and the counts of a run are those of its calls (`Call.spans`, `Call.tally`).

A list of calls can be cut anywhere, and its second part starts in the state that the lines of the
first one leave (`Call.drop_thread`).  A failing call leaves nothing, which is how a run starts, so
that the lines behind it fare as if they were alone.

It matters that the tokenizer has no memory besides the state.  With one, it could notice the call
that failed, and treat the lines behind it in another way than in a run of their own.
-/

namespace Highlighting

/-- Counts are added field by field. -/
instance : Add Summary where
  add a b := ⟨a.lines + b.lines, a.spans + b.spans, a.degradedLines + b.degradedLines⟩

theorem Summary.add_def (a b : Summary) :
    a + b = ⟨a.lines + b.lines, a.spans + b.spans, a.degradedLines + b.degradedLines⟩ := rfl

theorem Summary.add_assoc (a b c : Summary) : a + b + c = a + (b + c) := by
  simp [add_def, Nat.add_assoc]

namespace Call

variable {σ : Type} (f : Text → Option σ → Except Error (List Token × σ)) (rules : List Rule)

/-- What a call leaves behind for the next line. -/
def leaves (call : Call σ) : Option σ :=
  match f call.line call.prior with
  | .ok (_, state) => some state
  | .error _ => none

/-- Whether a call fails. -/
def fails (call : Call σ) : Bool :=
  match f call.line call.prior with
  | .ok _ => false
  | .error _ => true

/-- The spans that are written for the line of a call. -/
def spans (call : Call σ) : List Span :=
  match f call.line call.prior with
  | .ok (tokens, _) => Highlighter.tokenSpans rules call.line tokens
  | .error _ => Highlighter.unstyledSpans call.line

/-- The counts for a list of calls. -/
def tally (calls : List (Call σ)) : Summary :=
  ⟨calls.length, (calls.map fun call => (call.spans f rules).length).sum, calls.countP (fails f)⟩

/-- So the counts of a run can be taken part by part. -/
theorem tally_append (calls more : List (Call σ)) :
    tally f rules (calls ++ more) = tally f rules calls + tally f rules more := by
  simp [tally, Summary.add_def]

/-! ### Threading -/

/-- The calls for some lines, the first of which has the given prior state. -/
def thread : Option σ → List Text → List (Call σ)
  | _, [] => []
  | prior, line :: lines => ⟨line, prior⟩ :: thread (leaves f ⟨line, prior⟩) lines

/-- The state that some lines leave behind. -/
def stateAfter (prior : Option σ) (lines : List Text) : Option σ :=
  lines.foldl (fun prior line => leaves f ⟨line, prior⟩) prior

theorem map_line_thread (prior : Option σ) (lines : List Text) :
    (thread f prior lines).map Call.line = lines := by
  induction lines generalizing prior with
  | nil => rfl
  | cons line lines ih => rw [thread, List.map_cons, ih]

@[simp] theorem length_thread (prior : Option σ) (lines : List Text) :
    (thread f prior lines).length = lines.length := by
  rw [← List.length_map Call.line, map_line_thread]

/-- The first calls are those for the first lines. -/
theorem take_thread (prior : Option σ) (lines : List Text) (k : Nat) :
    (thread f prior lines).take k = thread f prior (lines.take k) := by
  -- The prior state is what changes from line to line, so it is left open.
  induction lines generalizing prior k with
  | nil => simp [thread]
  | cons line lines ih =>
    cases k with
    | zero => rfl
    | succ k => rw [thread, List.take_succ_cons, List.take_succ_cons, thread, ih]

/-- The other calls start in the state that the first lines leave. -/
theorem drop_thread (prior : Option σ) (lines : List Text) (k : Nat) :
    (thread f prior lines).drop k
      = thread f (stateAfter f prior (lines.take k)) (lines.drop k) := by
  induction lines generalizing prior k with
  | nil => simp [thread]
  | cons line lines ih =>
    cases k with
    | zero => rfl
    | succ k =>
      rw [thread, List.drop_succ_cons, List.drop_succ_cons, List.take_succ_cons, ih]
      rfl

/-- A call gets what the lines before its own leave, and nothing of what comes behind. -/
theorem getElem?_thread (prior : Option σ) (lines : List Text) (k : Nat) :
    (thread f prior lines)[k]?
      = lines[k]?.map fun line => ⟨line, stateAfter f prior (lines.take k)⟩ := by
  induction lines generalizing prior k with
  | nil => rfl
  | cons line lines ih =>
    cases k with
    | zero => rfl
    | succ k => exact ih (leaves f ⟨line, prior⟩) k

/-- What a call leaves is what its line and those before it leave. -/
theorem leaves_of_getElem? {prior : Option σ} {lines : List Text} {k : Nat} {call : Call σ}
    (found : (thread f prior lines)[k]? = some call) :
    call.leaves f = stateAfter f prior (lines.take (k + 1)) := by
  rw [getElem?_thread, Option.map_eq_some_iff] at found
  obtain ⟨line, hline, rfl⟩ := found
  -- The lines up to its own are those before it and itself, which is the last step of the fold.
  rw [List.take_add_one, hline, Option.toList_some, stateAfter, stateAfter, List.foldl_append]
  rfl

/-- The first call of a run has no prior state, and each other has what the one before left. -/
theorem prior_of_getElem? {lines : List Text} {k : Nat} {call : Call σ}
    (found : (thread f none lines)[k]? = some call) :
    call.prior = if k = 0 then none else (thread f none lines)[k - 1]?.bind (leaves f) := by
  have hprior : call.prior = stateAfter f none (lines.take k) := by
    rw [getElem?_thread, Option.map_eq_some_iff] at found
    obtain ⟨line, -, rfl⟩ := found
    rfl
  cases k with
  | zero => exact hprior
  | succ k =>
    -- Where there is a call with a number, there is one with the number before it.
    obtain ⟨hk, -⟩ := List.getElem?_eq_some_iff.1 found
    have hprevious := List.getElem?_eq_getElem (Nat.lt_of_succ_lt hk)
    rw [if_neg (Nat.succ_ne_zero k), Nat.add_sub_cancel, hprevious, Option.bind_some,
      leaves_of_getElem? f hprevious, hprior]

/-- A call stands between those for the lines around its own. -/
theorem thread_eq_append_cons {prior : Option σ} {lines : List Text} {k : Nat} {call : Call σ}
    (found : (thread f prior lines)[k]? = some call) :
    thread f prior lines
      = thread f prior (lines.take k) ++ call :: thread f (leaves f call) (lines.drop (k + 1)) := by
  obtain ⟨hk, hcall⟩ := List.getElem?_eq_some_iff.1 found
  rw [leaves_of_getElem? f found, ← drop_thread, ← take_thread, ← hcall, List.getElem_cons_drop,
    List.take_append_drop]

/-! ### Failing calls -/

variable {f} {call : Call σ} {error : Error}

/-- A call that fails leaves nothing, whatever it was given. -/
theorem leaves_of_error (failed : f call.line call.prior = .error error) :
    call.leaves f = none := by
  rw [leaves, failed]

/-- Its line is written as it is, with no span at all when it is empty. -/
theorem spans_of_error (failed : f call.line call.prior = .error error) :
    call.spans f rules = if call.line = [] then [] else [.unstyled call.line] := by
  rw [spans, failed]
  simp [Highlighter.unstyledSpans]

theorem tally_of_error (failed : f call.line call.prior = .error error) :
    tally f rules [call] = ⟨1, if call.line = [] then 0 else 1, 1⟩ := by
  have hfails : call.fails f = true := by rw [fails, failed]
  rw [tally, List.map_singleton, spans_of_error rules failed]
  by_cases hempty : call.line = []
  · simp [hempty, hfails]
  · simp [hempty, hfails]

/-- Behind a failing call, the calls are those for the later lines alone. -/
theorem drop_thread_of_error {lines : List Text} {k : Nat}
    (found : (thread f none lines)[k]? = some call)
    (failed : f call.line call.prior = .error error) :
    (thread f none lines).drop (k + 1) = thread f none (lines.drop (k + 1)) := by
  rw [drop_thread, ← leaves_of_getElem? f found, leaves_of_error failed]

/-- The counts of the calls around a failing one are those for the lines around its own. -/
theorem tally_thread_of_error {lines : List Text} {k : Nat}
    (found : (thread f none lines)[k]? = some call)
    (failed : f call.line call.prior = .error error) :
    tally f rules (thread f none lines)
      = tally f rules (thread f none (lines.take k)) + ⟨1, if call.line = [] then 0 else 1, 1⟩
        + tally f rules (thread f none (lines.drop (k + 1))) := by
  -- The lines behind start with no state, as a run does, so their calls are those of a run.
  rw [thread_eq_append_cons f found, List.append_cons, tally_append, tally_append,
    tally_of_error rules failed, leaves_of_error failed]

end Call

namespace Highlighter

variable {σ τ : Type} (f : Text → Option σ → Except Error (List Token × σ)) (rules : List Rule)

/-! ### Lines -/

/-- A highlighter with a tokenizer that has no memory. -/
def ofFunction : Highlighter σ Unit := ⟨some (.ofFunction f), rules⟩

/-- A line adds one call, its spans and a line break, and passes on what the call leaves. -/
theorem lineSteps_ofFunction (line : NumberedLine) (progress : Progress σ Unit) :
    ((ofFunction f rules).lineSteps line progress).1.filterMap Step.call?
        = [⟨line.text, progress.state⟩] ∧
      ((ofFunction f rules).lineSteps line progress).1.filterMap Step.op?
        = SinkOp.forLine (Call.spans f rules ⟨line.text, progress.state⟩) ∧
      ((ofFunction f rules).lineSteps line progress).2
        = ⟨Call.leaves f ⟨line.text, progress.state⟩, (),
            progress.summary + Call.tally f rules [⟨line.text, progress.state⟩]⟩ := by
  unfold lineSteps ofFunction Tokenizer.ofFunction
  dsimp only
  cases hanswer : f line.text progress.state with
  | ok answer =>
    obtain ⟨tokens, state⟩ := answer
    dsimp only
    refine ⟨?_, ?_, ?_⟩
    · -- The call comes first, and writing its spans makes no other.
      rw [List.filterMap_cons, filterMap_call_writes]
      rfl
    · rw [List.filterMap_cons_none rfl, filterMap_op_writes]
      simp [Call.spans, hanswer]
    · simp [Call.leaves, Call.tally, Call.spans, Call.fails, hanswer, countLine, Summary.add_def]
  | error error =>
    dsimp only
    refine ⟨?_, ?_, ?_⟩
    · -- Between the call and the writes stands the warning, which is neither.
      rw [List.filterMap_cons, List.filterMap_cons_none rfl, filterMap_call_writes]
      rfl
    · rw [List.filterMap_cons_none rfl, List.filterMap_cons_none rfl, filterMap_op_writes]
      simp [Call.spans, hanswer]
    · simp [Call.leaves, Call.tally, Call.spans, Call.fails, hanswer, countDegraded, countLine,
        Summary.add_def]

/-- Lines add the calls that are threaded through them. -/
theorem linesSteps_ofFunction (lines : List NumberedLine) (progress : Progress σ Unit) :
    let added := (ofFunction f rules).linesSteps lines #[] progress
    let calls := Call.thread f progress.state (lines.map NumberedLine.text)
    added.1.toList.filterMap Step.call? = calls ∧
      added.1.toList.filterMap Step.op?
        = (calls.map (Call.spans f rules)).flatMap SinkOp.forLine ∧
      added.2.summary = progress.summary + Call.tally f rules calls := by
  induction lines generalizing progress with
  | nil =>
    exact ⟨rfl, rfl, rfl⟩
  | cons line lines ih =>
    obtain ⟨hcall, hops, hprogress⟩ := lineSteps_ofFunction f rules line progress
    obtain ⟨hcalls, hmore, hsummary⟩ := ih ((ofFunction f rules).lineSteps line progress).2
    dsimp only
    rw [toList_linesSteps_cons, snd_linesSteps_cons, List.filterMap_append, List.filterMap_append,
      hcall, hops, hcalls, hmore, hsummary, hprogress]
    refine ⟨rfl, rfl, ?_⟩
    -- The first line is counted on its own, and then the others on top of it.
    rw [Summary.add_assoc, ← Call.tally_append]
    rfl

/-! ### Runs -/

/-- The spans that a run hands to its sink, line by line. -/
def spansByLine {μ : Type} (h : Highlighter σ μ) (memory : μ) (input : Input) :
    List (List Span) :=
  (h.run memory input .recording .empty).sink.lines.toList

/-- A run over a sink that never fails, in terms of the calls that are threaded through its
lines. -/
theorem run_ofFunction {input : Input} {lines : List Text} (reads : input.ReadsAs lines)
    {sink : Sink τ} {state : τ} (reliable : sink.NeverFails state) :
    ((ofFunction f rules).run () input sink state).calls = (Call.thread f none lines).toArray ∧
      ((ofFunction f rules).run () input sink state).sink
        = sink.after state
            (((Call.thread f none lines).map (Call.spans f rules)).flatMap SinkOp.forLine
              ++ [.flush]) ∧
      ((ofFunction f rules).run () input sink state).result
        = .ok (Call.tally f rules (Call.thread f none lines)) := by
  obtain ⟨hcalls, hops, hsummary⟩ :=
    linesSteps_ofFunction f rules (NumberedLine.numberFrom 1 lines) (.start ())
  rw [NumberedLine.map_text_numberFrom] at hcalls hops hsummary
  -- The numbers go into the log alone, so only the texts of the lines are left.
  rw [run_of_readsAs _ () reads reliable, stepsOf, hcalls, hops, hsummary]
  refine ⟨rfl, rfl, ?_⟩
  simp [Summary.add_def, Progress.start]

/-- A recording keeps the spans of a line apart from those of the next, so it shows them call by
call. -/
theorem spansByLine_ofFunction {input : Input} {lines : List Text} (reads : input.ReadsAs lines) :
    (ofFunction f rules).spansByLine () input
      = (Call.thread f none lines).map (Call.spans f rules) := by
  have hsink := (run_ofFunction f rules reads (Sink.neverFails_recording .empty)).2.1
  rw [spansByLine, hsink, Sink.after_append, Sink.after_recording_lines _ rfl]
  simp [Recording.empty, Sink.recording]

/-- The spans for the first lines are known from the first lines. -/
theorem take_spansByLine {input other : Input} {lines others : List Text}
    (reads : input.ReadsAs lines) (readsOther : other.ReadsAs others) {k : Nat}
    (same : others.take k = lines.take k) :
    ((ofFunction f rules).spansByLine () other).take k
      = ((ofFunction f rules).spansByLine () input).take k := by
  rw [spansByLine_ofFunction f rules reads, spansByLine_ofFunction f rules readsOther,
    ← List.map_take, ← List.map_take, Call.take_thread, Call.take_thread, same]

/-- The spans for the lines behind a failing call are those of a run over these lines. -/
theorem drop_spansByLine {input behind : Input} {lines : List Text} {k : Nat} {call : Call σ}
    {error : Error} (reads : input.ReadsAs lines)
    (found : (Call.thread f none lines)[k]? = some call)
    (failed : f call.line call.prior = .error error)
    (readsBehind : behind.ReadsAs (lines.drop (k + 1))) :
    ((ofFunction f rules).spansByLine () input).drop (k + 1)
      = (ofFunction f rules).spansByLine () behind := by
  rw [spansByLine_ofFunction f rules reads, spansByLine_ofFunction f rules readsBehind,
    ← List.map_drop, Call.drop_thread_of_error found failed]

/-- **Each line starts in the state that the line before it left.**  The calls of a run are for its
lines in order; the first one has no prior state, and each other has what the one before left.  So
the spans for the first lines are the same whatever lines follow.

A line whose call fails is written as it is, and what follows it fares as if it came first: its
spans and calls are those of a run over nothing else, and the counts are those of the two parts and
of the line between them. -/
theorem run_threads_state {input : Input} {lines : List Text} (reads : input.ReadsAs lines)
    {sink : Sink τ} {state : τ} (reliable : sink.NeverFails state) :
    let h := ofFunction f rules
    let outcome := h.run () input sink state
    outcome.calls.toList.map Call.line = lines ∧
    (∀ k call, outcome.calls[k]? = some call →
      call.prior = if k = 0 then none else outcome.calls[k - 1]?.bind (Call.leaves f)) ∧
    (h.spansByLine () input).length = lines.length ∧
    outcome.sink
      = sink.after state ((h.spansByLine () input).flatMap SinkOp.forLine ++ [.flush]) ∧
    (∀ k (other : Input) (others : List Text), other.ReadsAs others →
      others.take k = lines.take k →
        (h.spansByLine () other).take k = (h.spansByLine () input).take k) ∧
    ∀ k call error, outcome.calls[k]? = some call → f call.line call.prior = .error error →
      (h.spansByLine () input)[k]? = some (if call.line = [] then [] else [.unstyled call.line]) ∧
      (∃ before : Input, before.ReadsAs (lines.take k)) ∧
      (∃ behind : Input, behind.ReadsAs (lines.drop (k + 1))) ∧
      ∀ before behind : Input, before.ReadsAs (lines.take k) →
        behind.ReadsAs (lines.drop (k + 1)) →
          (h.spansByLine () input).drop (k + 1) = h.spansByLine () behind ∧
          outcome.calls.toList.drop (k + 1) = (h.run () behind sink state).calls.toList ∧
          ∃ first last : Summary,
            (h.run () before sink state).result = .ok first ∧
            (h.run () behind sink state).result = .ok last ∧
            outcome.result = .ok (first + ⟨1, if call.line = [] then 0 else 1, 1⟩ + last) := by
  intro h outcome
  obtain ⟨hcalls, hsink, hresult⟩ := run_ofFunction f rules reads reliable
  have hspans := spansByLine_ofFunction f rules reads
  refine ⟨?_, ?_, ?_, ?_, ?_, ?_⟩
  · rw [hcalls]
    exact Call.map_line_thread f none lines
  · intro k call hcall
    rw [hcalls, List.getElem?_toArray] at hcall ⊢
    exact Call.prior_of_getElem? f hcall
  · rw [hspans, List.length_map, Call.length_thread]
  · rw [hspans]
    exact hsink
  · intro k other others hothers hsame
    exact take_spansByLine f rules reads hothers hsame
  · intro k call error hcall hfailed
    rw [hcalls, List.getElem?_toArray] at hcall
    refine ⟨?_, ?_, ?_, ?_⟩
    · rw [hspans, List.getElem?_map, hcall, Option.map_some, Call.spans_of_error rules hfailed]
    · exact reads.exists_of_subset fun line hmem => List.mem_of_mem_take hmem
    · exact reads.exists_of_subset fun line hmem => List.mem_of_mem_drop hmem
    · intro before behind hbefore hbehind
      -- The two parts are runs of their own, over any inputs that read as those lines.
      obtain ⟨-, -, hfirst⟩ := run_ofFunction f rules hbefore reliable
      obtain ⟨hlater, -, hlast⟩ := run_ofFunction f rules hbehind reliable
      refine ⟨drop_spansByLine f rules reads hcall hfailed hbehind, ?_, _, _, hfirst, hlast, ?_⟩
      · rw [hcalls, hlater]
        exact Call.drop_thread_of_error hcall hfailed
      · rw [hresult, Call.tally_thread_of_error rules hcall hfailed]

/-- A tokenizer that numbers the lines and refuses an exclamation mark. -/
def numbering (line : Text) (prior : Option Nat) : Except Error (List Token × Nat) :=
  if line = ['!'] then .error (.invalidScopeOperation "exclamation mark")
  else .ok ([⟨0, line.byteSize, []⟩], prior.getD 0 + 1)

/-- The numbers start again behind the line that is refused. -/
theorem run_threads_state_numbering :
    Input.ReadsAs [.data [0x61, 0x0A, 0x21, 0x0A, 0x62]] [['a'], ['!'], ['b']] ∧
      Sink.recording.NeverFails .empty ∧
      ((ofFunction numbering []).run () [.data [0x61, 0x0A, 0x21, 0x0A, 0x62]] .recording
          .empty).calls.toList.drop 2
        = ((ofFunction numbering []).run () [.data [0x62]] .recording .empty).calls.toList := by
  have hreads : Input.ReadsAs [.data [0x61, 0x0A, 0x21, 0x0A, 0x62]] [['a'], ['!'], ['b']] := by
    unfold Input.ReadsAs
    cbv
  have hreliable : Sink.recording.NeverFails .empty := Sink.neverFails_recording .empty
  obtain ⟨-, -, -, -, -, hfailing⟩ := run_threads_state numbering [] hreads hreliable
  have hsecond := hfailing 1 ⟨['!'], some 1⟩ _ (by cbv) rfl
  have hbefore : Input.ReadsAs [.data [0x61]] [['a']] := by
    unfold Input.ReadsAs
    cbv
  have hbehind : Input.ReadsAs [.data [0x62]] [['b']] := by
    unfold Input.ReadsAs
    cbv
  exact ⟨hreads, hreliable, (hsecond.2.2.2 _ _ hbefore hbehind).2.1⟩

end Highlighter

end Highlighting
