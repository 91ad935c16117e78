import Highlighting.Proofs.Token.Scopes

/-!
# The scope stack and the text

What events do to the scope stack has nothing to do with where they lie.  Every event is carried out
once and in order, also when it cuts no token, so a line leaves the stack that a **walk** over the
operations alone leaves (`Token.change_eq_walk`).

A walk can only be stopped by a restore when nothing is set aside (`ScopeStack.Strands`), and then
leaves the stack as it was before that restore; the next line goes on from there.  Walks compose:
when each of several lines can be cut, they leave the stack that one line with all their events
leaves.

A line that fails has still carried out the operations before the restore.  So a walk gives the
stack beside its result and not as a part of it, which is also how a line hands its stack on, and
the two can be compared whether they succeed or not (`Token.change`).
-/

namespace Highlighting

namespace ScopeStack

/-! ### Walking over operations -/

/-- Only a restore can fail, and only when nothing is set aside: a pop takes what there is, and a
clear always succeeds. -/
theorem apply_eq_error_iff {stack : ScopeStack} {op : ScopeOp} {error : ScopeStackError} :
    stack.apply op = .error error ↔
      error = .noClearedScopesToRestore ∧ op = .restore ∧ stack.cleared = [] := by
  cases error
  cases op with
  | restore =>
    rw [apply]
    split
    · rename_i hcleared
      simp [hcleared]
    · rename_i hcleared
      simp [hcleared]
  -- No other operation has a branch that fails.
  | clear amount => cases amount <;> simp [apply]
  | push scope => simp [apply]
  | pop count => simp [apply]
  | noop => simp [apply]

/-- Carries out operations in order, up to the first one that fails, and keeps what the others have
done. -/
def walk (stack : ScopeStack) : List ScopeOp → Except ScopeStackError Unit × ScopeStack
  | [] => (.ok (), stack)
  | op :: ops =>
    match stack.apply op with
    | .error error => (.error error, stack)
    | .ok next => next.walk ops

/-- The operations before some restore can be carried out and leave nothing set aside, so that the
restore fails with this stack. -/
def Strands (stack : ScopeStack) (ops : List ScopeOp) (left : ScopeStack) : Prop :=
  ∃ before after, ops = before ++ .restore :: after ∧ stack.applyAll before = .ok left ∧
    left.cleared = []

theorem applyAll_cons (stack : ScopeStack) (op : ScopeOp) (ops : List ScopeOp) :
    stack.applyAll (op :: ops) = stack.apply op >>= (·.applyAll ops) := rfl

/-- All of two lists can be carried out when the second can be behind the first. -/
theorem applyAll_append (stack : ScopeStack) (ops more : List ScopeOp) :
    stack.applyAll (ops ++ more) = stack.applyAll ops >>= (·.applyAll more) :=
  List.foldlM_append

/-- A walk succeeds when all operations can be carried out. -/
theorem walk_eq_ok_iff {stack left : ScopeStack} {ops : List ScopeOp} :
    stack.walk ops = (.ok (), left) ↔ stack.applyAll ops = .ok left := by
  induction ops generalizing stack with
  | nil =>
    show (Except.ok (), stack) = (.ok (), left) ↔ Except.ok stack = .ok left
    simp
  | cons op ops ih =>
    rw [walk, applyAll_cons]
    cases happly : stack.apply op with
    | error error => simp [bind, Except.bind]
    | ok next => exact ih

/-- The first operation either fails, or has to be carried out before another one can. -/
theorem strands_cons_iff {stack left : ScopeStack} {op : ScopeOp} {ops : List ScopeOp} :
    stack.Strands (op :: ops) left ↔
      op = .restore ∧ stack.cleared = [] ∧ stack = left ∨
        ∃ next, stack.apply op = .ok next ∧ next.Strands ops left := by
  constructor
  · rintro ⟨before, after, hops, hdone, hcleared⟩
    cases before with
    | nil =>
      -- Nothing is carried out before the restore: it is the first operation itself.
      obtain ⟨rfl, -⟩ := List.cons.inj hops
      obtain rfl : stack = left := Except.ok.inj hdone
      exact .inl ⟨rfl, hcleared, rfl⟩
    | cons first before =>
      obtain ⟨rfl, rfl⟩ := List.cons.inj hops
      rw [applyAll_cons] at hdone
      cases happly : stack.apply op with
      | error error =>
        rw [happly] at hdone
        simp [bind, Except.bind] at hdone
      | ok next =>
        rw [happly] at hdone
        exact .inr ⟨next, rfl, before, after, rfl, hdone, hcleared⟩
  · rintro (⟨rfl, hcleared, rfl⟩ | ⟨next, happly, before, after, rfl, hdone, hcleared⟩)
    · exact ⟨[], ops, rfl, rfl, hcleared⟩
    · refine ⟨op :: before, after, rfl, ?_, hcleared⟩
      rw [applyAll_cons, happly]
      exact hdone

/-- A walk fails exactly at a restore when nothing is set aside. -/
theorem walk_eq_error_iff {stack left : ScopeStack} {ops : List ScopeOp}
    {error : ScopeStackError} :
    stack.walk ops = (.error error, left) ↔
      error = .noClearedScopesToRestore ∧ stack.Strands ops left := by
  induction ops generalizing stack with
  | nil => simp [walk, Strands]
  | cons op ops ih =>
    rw [walk, strands_cons_iff]
    cases happly : stack.apply op with
    | error failure =>
      obtain ⟨rfl, rfl, hcleared⟩ := apply_eq_error_iff.1 happly
      simp [hcleared, eq_comm]
    | ok next =>
      -- An operation that has been carried out is not the restore that fails, so only a later one
      -- can be.
      have hnot : ¬(op = .restore ∧ stack.cleared = [] ∧ stack = left) := by
        rintro ⟨hop, hcleared, -⟩
        rw [apply_eq_error_iff.2 ⟨rfl, hop, hcleared⟩] at happly
        simp at happly
      simp [hnot, ih]

end ScopeStack

namespace Token

/-! ### What a line does to the stack -/

/-- Whether the line could be cut, and the stack that it leaves, without the tokens. -/
def change (answer : Except ScopeStackError (List Token) × ScopeStack) :
    Except ScopeStackError Unit × ScopeStack :=
  (answer.1.map fun _ => (), answer.2)

@[simp] theorem snd_change (answer : Except ScopeStackError (List Token) × ScopeStack) :
    (change answer).2 = answer.2 := rfl

/-- The events of a cutting walk over its stack, whatever is closed on the way. -/
theorem Cutting.takeEvents_walk (index : ClusterIndex) (root : Scope) (cutting : Cutting)
    (events : List ScopeEvent) :
    cutting.stack.walk (events.map ScopeEvent.op)
      = ((cutting.takeEvents index root events).1.elim (.ok ()) .error,
          (cutting.takeEvents index root events).2.stack) := by
  induction events generalizing cutting with
  | nil => rfl
  | cons event events ih =>
    -- Closing a token leaves the stack alone, so the operation meets the same stack in both.
    rw [List.map_cons, ScopeStack.walk, takeEvents, stack_closeAt]
    cases happly : cutting.stack.apply event.op with
    | error error => simp
    | ok next =>
      exact ih { cutting.closeAt (index.clamp event.offset) root with stack := next }

/-- A line changes the stack as its events do, whatever its text and its root scope are. -/
theorem change_eq_walk (line : Text) (events : List ScopeEvent) (stack : ScopeStack)
    (root : Scope) :
    change (ofEvents line events stack root) = stack.walk (events.map ScopeEvent.op) := by
  -- A line starts with no token and at its first byte, neither of which the walk looks at.
  have hwalk := Cutting.takeEvents_walk (ClusterIndex.ofLine line) root ⟨#[], 0, stack⟩ events
  rw [hwalk, ofEvents]
  rcases Cutting.takeEvents (ClusterIndex.ofLine line) root ⟨#[], 0, stack⟩ events with
    ⟨_ | error, cutting⟩
  · rfl
  · rfl

/-- What is forgotten of a success is its tokens. -/
theorem change_eq_ok_iff {answer : Except ScopeStackError (List Token) × ScopeStack}
    {left : ScopeStack} :
    change answer = (.ok (), left) ↔ ∃ tokens, answer = (.ok tokens, left) := by
  obtain ⟨_ | tokens, stack⟩ := answer
  · simp [change, Except.map]
  · simp [change, Except.map]

theorem change_eq_error_iff {answer : Except ScopeStackError (List Token) × ScopeStack}
    {error : ScopeStackError} {left : ScopeStack} :
    change answer = (.error error, left) ↔ answer = (.error error, left) := by
  obtain ⟨_ | tokens, stack⟩ := answer
  · simp [change, Except.map]
  · simp [change, Except.map]

variable {line : Text} {events : List ScopeEvent} {stack left : ScopeStack} {root : Scope}

/-- A line can be cut exactly when all its events can be carried out. -/
theorem exists_ofEvents_eq_ok_iff :
    (∃ tokens, ofEvents line events stack root = (.ok tokens, left)) ↔
      stack.applyAll (events.map ScopeEvent.op) = .ok left := by
  rw [← change_eq_ok_iff, change_eq_walk, ScopeStack.walk_eq_ok_iff]

/-- It cannot be cut exactly when its events come to a restore that fails. -/
theorem ofEvents_eq_error_iff {error : ScopeStackError} :
    ofEvents line events stack root = (.error error, left) ↔
      error = .noClearedScopesToRestore ∧ stack.Strands (events.map ScopeEvent.op) left := by
  rw [← change_eq_error_iff, change_eq_walk, ScopeStack.walk_eq_error_iff]

/-- An engine's tokenizer passes on what becomes of the line's events. -/
theorem tokenizeLine_of_parseLine {ε : Type} {engine : GrammarEngine ε}
    {prior : Option (LexerState ε)} {next : ε}
    (parsed : engine.parseLine line (prior.getD (.start engine)).engine = .ok (events, next)) :
    let answer := ofEvents line events (prior.getD (.start engine)).stack root
    engine.tokenizeLine root line prior
      = (answer.1.map fun tokens => (tokens, ⟨next, answer.2⟩)).mapError
          fun error => .invalidScopeOperation error.detail := by
  rw [GrammarEngine.tokenizeLine, parsed]
  dsimp only
  rcases ofEvents line events (prior.getD (.start engine)).stack root with ⟨error | tokens, after⟩
  · rfl
  · rfl

/-- The tokenizer fails for nothing but such a restore, as soon as the engine has parsed the line.
-/
theorem tokenizeLine_eq_error_iff {ε : Type} {engine : GrammarEngine ε}
    {prior : Option (LexerState ε)} {next : ε} {error : Error}
    (parsed : engine.parseLine line (prior.getD (.start engine)).engine = .ok (events, next)) :
    engine.tokenizeLine root line prior = .error error ↔
      error = .invalidScopeOperation "NoClearedScopesToRestore" ∧
        ∃ left, (prior.getD (.start engine)).stack.Strands (events.map ScopeEvent.op) left := by
  rw [tokenizeLine_of_parseLine parsed]
  rcases hanswer : ofEvents line events (prior.getD (.start engine)).stack root with
    ⟨failure | tokens, after⟩
  · -- The line could not be cut, and there is just one error it can have failed with.
    obtain ⟨rfl, hstrands⟩ := ofEvents_eq_error_iff.1 hanswer
    have hleft : ∃ left,
        (prior.getD (.start engine)).stack.Strands (events.map ScopeEvent.op) left :=
      ⟨after, hstrands⟩
    simp [hleft, Except.map, Except.mapError, ScopeStackError.detail, eq_comm]
  · -- The line could be cut, so the tokenizer answers, and no restore fails.
    constructor
    · intro herror
      simp [Except.map, Except.mapError] at herror
    · rintro ⟨-, left, hstrands⟩
      rw [ofEvents_eq_error_iff.2 ⟨rfl, hstrands⟩] at hanswer
      simp at hanswer

/-- Otherwise it hands the stack on together with the engine's own state. -/
theorem exists_tokenizeLine_eq_ok_iff {ε : Type} {engine : GrammarEngine ε}
    {prior : Option (LexerState ε)} {next : ε} {after : LexerState ε}
    (parsed : engine.parseLine line (prior.getD (.start engine)).engine = .ok (events, next)) :
    (∃ tokens, engine.tokenizeLine root line prior = .ok (tokens, after)) ↔
      after.engine = next ∧ (prior.getD (.start engine)).stack.applyAll
        (events.map ScopeEvent.op) = .ok after.stack := by
  obtain ⟨state, stack⟩ := after
  have hcut : (∃ tokens, ofEvents line events (prior.getD (.start engine)).stack root
        = (.ok tokens, stack)) ↔
      (prior.getD (.start engine)).stack.applyAll (events.map ScopeEvent.op) = .ok stack :=
    exists_ofEvents_eq_ok_iff
  rw [tokenizeLine_of_parseLine parsed, ← hcut]
  rcases ofEvents line events (prior.getD (.start engine)).stack root with
    ⟨failure | tokens, left⟩
  · simp [Except.map, Except.mapError]
  · simp [Except.map, Except.mapError, eq_comm]

/-! ### Several lines -/

/-- A line, its events, and the root scope for it. -/
structure EventLine where
  text : Text
  events : List ScopeEvent
  root : Scope

/-- Cuts lines one after the other.  Each goes on from the stack that the one before it left,
whether that one could be cut or not. -/
def ofEventLines (stack : ScopeStack) :
    List EventLine → List (Except ScopeStackError (List Token) × ScopeStack)
  | [] => []
  | line :: lines =>
    let answer := ofEvents line.text line.events stack line.root
    answer :: ofEventLines answer.2 lines

/-- The stack behind the last line. -/
def lastStack (stack : ScopeStack)
    (answers : List (Except ScopeStackError (List Token) × ScopeStack)) : ScopeStack :=
  answers.foldl (fun _ answer => answer.2) stack

/-- Lines with the same events change the stack alike, one by one. -/
theorem map_change_ofEventLines {lines others : List EventLine} (stack : ScopeStack)
    (same : lines.map EventLine.events = others.map EventLine.events) :
    (ofEventLines stack lines).map change = (ofEventLines stack others).map change := by
  induction lines generalizing stack others with
  | nil =>
    obtain rfl : others = [] := List.map_eq_nil_iff.1 same.symm
    rfl
  | cons line lines ih =>
    cases others with
    | nil => simp at same
    | cons other others =>
      obtain ⟨hevents, hrest⟩ := List.cons.inj same
      -- Equal events leave equal stacks, and these are where the rest of the lines starts.
      have hchange : change (ofEvents line.text line.events stack line.root)
          = change (ofEvents other.text other.events stack other.root) := by
        rw [change_eq_walk, change_eq_walk, hevents]
      have hleft : (ofEvents line.text line.events stack line.root).2
          = (ofEvents other.text other.events stack other.root).2 := by
        rw [← snd_change, hchange, snd_change]
      rw [ofEventLines, ofEventLines, List.map_cons, List.map_cons, hchange, hleft,
        ih _ hrest]

/-- All lines can be cut exactly when all their events can be carried out in one go. -/
theorem forall_isOk_ofEventLines_iff {lines : List EventLine} :
    ((∀ answer ∈ ofEventLines stack lines, answer.1.isOk = true) ∧
        lastStack stack (ofEventLines stack lines) = left) ↔
      stack.applyAll ((lines.flatMap EventLine.events).map ScopeEvent.op) = .ok left := by
  induction lines generalizing stack with
  | nil =>
    show (_ ∧ stack = left) ↔ Except.ok stack = .ok left
    simp [ofEventLines]
  | cons line lines ih =>
    rw [List.flatMap_cons, List.map_append, ScopeStack.applyAll_append, ofEventLines,
      List.forall_mem_cons, lastStack, List.foldl_cons, ← lastStack]
    rcases hanswer : ofEvents line.text line.events stack line.root with ⟨error | tokens, middle⟩
    · -- Neither can the first line be cut, nor can its events be carried out.
      have hstuck : ∀ after, stack.applyAll (line.events.map ScopeEvent.op) ≠ .ok after := by
        intro after hdone
        obtain ⟨tokens, htokens⟩ := exists_ofEvents_eq_ok_iff.2 hdone
        rw [htokens] at hanswer
        simp at hanswer
      cases hall : stack.applyAll (line.events.map ScopeEvent.op) with
      | error failure => simp [Except.isOk, Except.toBool, bind, Except.bind]
      | ok after => exact absurd hall (hstuck after)
    · rw [exists_ofEvents_eq_ok_iff.1 ⟨tokens, hanswer⟩, and_assoc]
      exact (and_iff_right rfl).trans ih

/-- **The scope stack follows the events, and not the text.**  Whatever the line, the root scope and
the stack at its start are,

* the line can be cut exactly when all its events can be carried out, and leaves the stack that they
  leave;
* it cannot exactly when its events come to a restore with nothing set aside, and leaves the stack
  from before that restore;
* an engine's tokenizer reports just that, as an invalid scope operation.

So two lists of lines with the same events change the stack alike, line by line, also behind a line
that failed; and all lines of a list can be cut exactly when a single line with all their events
can, whatever its text, and both leave the same stack. -/
theorem stack_follows_events :
    (∀ line events stack root left,
      ((∃ tokens, ofEvents line events stack root = (.ok tokens, left)) ↔
        stack.applyAll (events.map ScopeEvent.op) = .ok left) ∧
      ∀ error, ofEvents line events stack root = (.error error, left) ↔
        error = .noClearedScopesToRestore ∧
          stack.Strands (events.map ScopeEvent.op) left) ∧
    (∀ {ε : Type} (engine : GrammarEngine ε) root line prior events next,
      let state := prior.getD (.start engine)
      engine.parseLine line state.engine = .ok (events, next) →
        (∀ after, (∃ tokens, engine.tokenizeLine root line prior = .ok (tokens, after)) ↔
          after.engine = next ∧
            state.stack.applyAll (events.map ScopeEvent.op) = .ok after.stack) ∧
        ∀ error, engine.tokenizeLine root line prior = .error error ↔
          error = .invalidScopeOperation "NoClearedScopesToRestore" ∧
            ∃ left, state.stack.Strands (events.map ScopeEvent.op) left) ∧
    (∀ stack (lines others : List EventLine),
      lines.map EventLine.events = others.map EventLine.events →
        (ofEventLines stack lines).map change = (ofEventLines stack others).map change) ∧
    ∀ stack (lines : List EventLine) line root left,
      ((∀ answer ∈ ofEventLines stack lines, answer.1.isOk = true) ∧
        lastStack stack (ofEventLines stack lines) = left) ↔
      ∃ tokens, ofEvents line (lines.flatMap EventLine.events) stack root = (.ok tokens, left) := by
  refine ⟨?_, ?_, ?_, ?_⟩
  · intro line events stack root left
    exact ⟨exists_ofEvents_eq_ok_iff, fun error => ofEvents_eq_error_iff⟩
  · intro ε engine root line prior events next state parsed
    exact ⟨fun after => exists_tokenizeLine_eq_ok_iff parsed,
      fun error => tokenizeLine_eq_error_iff parsed⟩
  · intro stack lines others same
    exact map_change_ofEventLines stack same
  · intro stack lines line root left
    rw [forall_isOk_ofEventLines_iff, exists_ofEvents_eq_ok_iff]

/-- Two scopes are set aside one inside the other, and three restores follow, on places that go back
and beyond the end of the line. -/
def nestedClears : List ScopeEvent :=
  [⟨2, .push ⟨[['a']]⟩⟩, ⟨9, .clear .all⟩, ⟨1, .push ⟨[['b']]⟩⟩, ⟨0, .clear (.top 1)⟩,
    ⟨3, .restore⟩, ⟨99, .restore⟩, ⟨4, .restore⟩, ⟨0, .push ⟨[['c']]⟩⟩]

/-- The third restore fails.  A line without text goes on from what is left, like any other. -/
theorem stack_follows_events_halfway :
    ScopeStack.empty.Strands (nestedClears.map ScopeEvent.op)
        ⟨[⟨[['a']]⟩, ⟨[['b']]⟩], []⟩ ∧
      ofEvents ['x', 'y'] nestedClears .empty .empty
        = (.error .noClearedScopesToRestore, ⟨[⟨[['a']]⟩, ⟨[['b']]⟩], []⟩) ∧
      GrammarEngine.tokenizeLine ⟨(), fun _ _ => .ok (nestedClears, ())⟩ .empty [] none
        = .error (.invalidScopeOperation "NoClearedScopesToRestore") ∧
      (ofEventLines .empty [⟨['x', 'y'], nestedClears, .empty⟩,
          ⟨['x'], [⟨1, .pop 1⟩], .empty⟩]).map change
        = (ofEventLines .empty [⟨[], nestedClears, ⟨[['r']]⟩⟩,
          ⟨[], [⟨1, .pop 1⟩], .empty⟩]).map change := by
  obtain ⟨hline, htokenizer, hlines, -⟩ := stack_follows_events
  have hstrands : ScopeStack.empty.Strands (nestedClears.map ScopeEvent.op)
      ⟨[⟨[['a']]⟩, ⟨[['b']]⟩], []⟩ :=
    ⟨(nestedClears.take 6).map ScopeEvent.op, [.push ⟨[['c']]⟩], rfl, rfl, rfl⟩
  refine ⟨hstrands, ?_, ?_, ?_⟩
  · exact ((hline _ _ _ _ _).2 _).2 ⟨rfl, hstrands⟩
  · exact ((htokenizer ⟨(), fun _ _ => .ok (nestedClears, ())⟩ .empty [] none nestedClears ()
      rfl).2 _).2 ⟨rfl, _, hstrands⟩
  · exact hlines .empty _ _ rfl

end Token

end Highlighting
