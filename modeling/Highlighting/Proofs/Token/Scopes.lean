import Mathlib.Data.List.TakeWhile
import Highlighting.Proofs.Token.Partition

/-!
# Which scopes hold where

A token gets its scopes when it is closed, just before the event that closes it is carried out.  So
byte `p` of a line has the scopes that are open after the events *up to* `p`
(`ScopeEvent.upTo`): those before the first one whose place, after clamping, lies behind `p`.  Later
events do not matter, even if they lie further back.

A token ends wherever the events reach further along the line than before
(`ScopeEvent.furthest`), and where the line ends.

Both follow from what a cutting knows of the events that it has taken (`Token.Cutting.Follows`).
One event keeps this, hence so do all of them.
-/

namespace Highlighting

namespace ScopeStack

/-- Carries out several operations in order, up to the first one that fails. -/
def applyAll (stack : ScopeStack) (ops : List ScopeOp) : Except ScopeStackError ScopeStack :=
  ops.foldlM apply stack

/-- One more operation is carried out on what the others leave. -/
theorem applyAll_concat_of_ok {stack middle last : ScopeStack} {ops : List ScopeOp} {op : ScopeOp}
    (success : stack.applyAll ops = .ok middle) (next : middle.apply op = .ok last) :
    stack.applyAll (ops ++ [op]) = .ok last := by
  unfold applyAll at success ⊢
  rw [List.foldlM_append, success]
  show middle.apply op >>= pure = .ok last
  rw [next]
  rfl

end ScopeStack

namespace ScopeEvent

variable {line : Text}

/-! ### How far events reach -/

/-- The furthest place that some events are clamped to, or the start of the line without any. -/
def furthest (line : Text) : List ScopeEvent → Nat
  | [] => 0
  | event :: events => max (line.clamp event.offset) (furthest line events)

/-- Events reach no further than `p` if each of them does. -/
theorem furthest_le_iff {events : List ScopeEvent} {p : Nat} :
    furthest line events ≤ p ↔ ∀ event ∈ events, line.clamp event.offset ≤ p := by
  induction events with
  | nil => exact ⟨fun _ event hmem => absurd hmem List.not_mem_nil, fun _ => Nat.zero_le p⟩
  | cons event events ih => rw [furthest, Nat.max_le, ih, List.forall_mem_cons]

/-- One more event may reach further than those before it. -/
theorem furthest_concat (events : List ScopeEvent) (event : ScopeEvent) :
    furthest line (events ++ [event]) = max (furthest line events) (line.clamp event.offset) := by
  induction events with
  | nil => exact Nat.max_comm _ _
  | cons earlier events ih => rw [List.cons_append, furthest, furthest, ih, Nat.max_assoc]

/-- The events before the first one that is clamped to a place behind byte `p`. -/
def upTo (line : Text) (p : Nat) (events : List ScopeEvent) : List ScopeEvent :=
  events.takeWhile fun event => line.clamp event.offset ≤ p

/-- Events that all lie up to `p` do not stop the search. -/
theorem upTo_append_of_le {events : List ScopeEvent} {p : Nat}
    (reach : furthest line events ≤ p) (more : List ScopeEvent) :
    upTo line p (events ++ more) = events ++ upTo line p more := by
  refine List.takeWhile_append_of_pos fun event hmem => ?_
  exact decide_eq_true (furthest_le_iff.1 reach event hmem)

/-- Once an event lies behind `p`, what comes later does not matter. -/
theorem upTo_append_of_lt {events : List ScopeEvent} {p : Nat}
    (reach : p < furthest line events) (more : List ScopeEvent) :
    upTo line p (events ++ more) = upTo line p events := by
  unfold upTo
  rw [List.takeWhile_append, if_neg]
  intro hlength
  -- If the search did not stop, all the events would lie up to `p`.
  have hall := (List.takeWhile_prefix _).eq_of_length hlength
  have hle : furthest line events ≤ p := by
    refine furthest_le_iff.2 fun event hmem => ?_
    exact of_decide_eq_true (List.takeWhile_eq_self_iff.1 hall event hmem)
  exact absurd reach (Nat.not_lt_of_le hle)

/-- An event behind `p` is not among those up to it. -/
theorem upTo_singleton_of_lt {event : ScopeEvent} {p : Nat}
    (behind : p < line.clamp event.offset) : upTo line p [event] = [] := by
  rw [upTo, List.takeWhile_cons_of_neg (by simpa using behind)]

end ScopeEvent

namespace Token

variable {line : Text}

/-! ### The token of a byte -/

/-- Byte `p` of the line belongs to the token. -/
def Contains (token : Token) (p : Nat) : Prop := token.start ≤ p ∧ p < token.stop

/-- The token carries the scopes that are open, innermost first, or the root scope when none is. -/
def Carries (token : Token) (stack : ScopeStack) (root : Scope) : Prop :=
  token.scopes = if stack.scopes = [] then [root] else stack.scopes

/-- The scopes that a cutting gives to a token are those that it has open. -/
theorem carries_scopesOf (first last : Nat) (stack : ScopeStack) (root : Scope) :
    (⟨first, last, scopesOf stack root⟩ : Token).Carries stack root := by
  unfold Carries scopesOf
  cases stack.scopes with
  | nil => rfl
  | cons scope scopes => rfl

/-- The token carries the scopes that are open after the events up to byte `p`. -/
def SampledAt (token : Token) (line : Text) (events : List ScopeEvent) (stack : ScopeStack)
    (root : Scope) (p : Nat) : Prop :=
  ∃ sampled, stack.applyAll ((ScopeEvent.upTo line p events).map ScopeEvent.op) = .ok sampled ∧
    token.Carries sampled root

/-- Every byte between the ends of adjoining tokens belongs to one of them. -/
theorem Adjoin.exists_contains {tokens : List Token} {first last p : Nat}
    (adjoin : Adjoin line first tokens last) (low : first ≤ p) (high : p < last) :
    ∃ token ∈ tokens, token.Contains p := by
  induction tokens generalizing first with
  | nil =>
    obtain rfl : first = last := adjoin
    omega
  | cons token tokens ih =>
    obtain ⟨rfl, -, -, hrest⟩ := adjoin
    -- The byte is in the first token, or else behind it.
    by_cases hown : p < token.stop
    · exact ⟨token, List.mem_cons_self, low, hown⟩
    · obtain ⟨other, hmem, hcontains⟩ := ih hrest (Nat.le_of_not_lt hown)
      exact ⟨other, List.mem_cons_of_mem token hmem, hcontains⟩

/-- No byte belongs to two of them. -/
theorem Adjoin.eq_of_contains {tokens : List Token} {first last p : Nat}
    (adjoin : Adjoin line first tokens last) {token other : Token} (member : token ∈ tokens)
    (otherMember : other ∈ tokens) (contains : token.Contains p)
    (otherContains : other.Contains p) : token = other := by
  -- A byte of the first token lies before all tokens behind it.
  have hbefore : ∀ {middle : Nat} {rest : List Token}, Adjoin line middle rest last →
      ∀ later ∈ rest, later.Contains p → middle ≤ p := by
    intro middle rest hrest later hlater hcontains
    exact Nat.le_trans (hrest.bounds_of_mem hlater).1 hcontains.1
  induction tokens generalizing first with
  | nil => exact absurd member List.not_mem_nil
  | cons head tokens ih =>
    obtain ⟨-, -, -, hrest⟩ := adjoin
    rcases List.mem_cons.1 member with rfl | hmem <;>
      rcases List.mem_cons.1 otherMember with rfl | hother
    · rfl
    · exact absurd contains.2 (Nat.not_lt_of_le (hbefore hrest other hother otherContains))
    · exact absurd otherContains.2 (Nat.not_lt_of_le (hbefore hrest token hmem contains))
    · exact ih hrest hmem hother

/-! ### What a cutting knows of its events -/

namespace Cutting

/-- The cutting has taken the events `done`, from the scope stack `stack`. -/
structure Follows (line : Text) (stack : ScopeStack) (root : Scope) (done : List ScopeEvent)
    (cutting : Cutting) : Prop where
  reaches : cutting.Reaches line
  /-- The open token starts at the furthest event. -/
  start_eq : cutting.start = ScopeEvent.furthest line done
  /-- All the events have been carried out. -/
  stack_eq : stack.applyAll (done.map ScopeEvent.op) = .ok cutting.stack
  /-- Each byte of a closed token has its scopes from the right events. -/
  sampled : ∀ token ∈ cutting.tokens, ∀ p, token.Contains p →
    token.SampledAt line done stack root p
  /-- A token has been closed wherever the events reached further than before. -/
  ends : ∀ n, (∃ token ∈ cutting.tokens, token.stop = n) ↔
    0 < n ∧ ∃ seen, seen <+: done ∧ ScopeEvent.furthest line seen = n

variable {stack : ScopeStack} {root : Scope} {done : List ScopeEvent} {cutting : Cutting}

/-- Before the first event, nothing is closed and nothing has been carried out. -/
theorem follows_nil (line : Text) (stack : ScopeStack) (root : Scope) :
    Follows line stack root [] ⟨#[], 0, stack⟩ where
  reaches := rfl
  start_eq := rfl
  stack_eq := rfl
  sampled := fun token hmem => absurd hmem (Array.not_mem_empty token)
  ends := by
    intro n
    constructor
    · rintro ⟨token, hmem, -⟩
      exact absurd hmem (Array.not_mem_empty token)
    · rintro ⟨hpos, seen, hseen, hreach⟩
      obtain rfl := List.prefix_nil.1 hseen
      exact absurd hreach (Nat.ne_of_lt hpos)

/-- A token that is closed at `offset` takes its scopes from the events so far.  That is right for
all its bytes if what comes next lies no earlier than `offset`. -/
theorem Follows.sampledAt_closeAt (follows : cutting.Follows line stack root done) {offset : Nat}
    {more : List ScopeEvent} (beyond : ∀ p < offset, ScopeEvent.upTo line p more = []) :
    ∀ token ∈ (cutting.closeAt offset root).tokens, ∀ p, token.Contains p →
      token.SampledAt line (done ++ more) stack root p := by
  intro token hmem p hcontains
  unfold SampledAt
  -- A token that was closed before has its scopes from earlier events; the new one has them from
  -- all the events so far.
  rcases mem_tokens_closeAt.1 hmem with hold | ⟨-, rfl⟩
  · -- An older token: the events have passed its bytes, so that no later event counts for them.
    have hstop := (follows.reaches.bounds_of_mem (Array.mem_toList_iff.2 hold)).2.2
    have hreach : p < ScopeEvent.furthest line done :=
      follows.start_eq ▸ Nat.lt_of_lt_of_le hcontains.2 hstop
    rw [ScopeEvent.upTo_append_of_lt hreach]
    exact follows.sampled token hold p hcontains
  · -- The new token: all the events lie up to its bytes, and none of those to come does.
    have hreach : ScopeEvent.furthest line done ≤ p := follows.start_eq ▸ hcontains.1
    rw [ScopeEvent.upTo_append_of_le hreach, beyond p hcontains.2, List.append_nil]
    exact ⟨cutting.stack, follows.stack_eq, carries_scopesOf _ _ _ _⟩

/-- Closing at `offset` adds one place where a token ends, namely `offset`, if the open token has
any text before it. -/
theorem Follows.exists_stop_closeAt (follows : cutting.Follows line stack root done)
    (offset n : Nat) : (∃ token ∈ (cutting.closeAt offset root).tokens, token.stop = n) ↔
      (0 < n ∧ ∃ seen, seen <+: done ∧ ScopeEvent.furthest line seen = n) ∨
        cutting.start < offset ∧ offset = n := by
  rw [← follows.ends n]
  constructor
  · rintro ⟨token, hmem, rfl⟩
    rcases mem_tokens_closeAt.1 hmem with hold | ⟨hbeyond, rfl⟩
    · exact .inl ⟨token, hold, rfl⟩
    · exact .inr ⟨hbeyond, rfl⟩
  · rintro (⟨token, hold, hstop⟩ | ⟨hbeyond, rfl⟩)
    · exact ⟨token, mem_tokens_closeAt.2 (.inl hold), hstop⟩
    · exact ⟨_, mem_tokens_closeAt.2 (.inr ⟨hbeyond, rfl⟩), rfl⟩

/-- One more event. -/
theorem Follows.concat (follows : cutting.Follows line stack root done) {event : ScopeEvent}
    {next : ScopeStack} (success : cutting.stack.apply event.op = .ok next) :
    Follows line stack root (done ++ [event])
      { cutting.closeAt (line.clamp event.offset) root with stack := next } where
  reaches := follows.reaches.closeAt (ClusterIndex.isCut_clamp line event.offset) root
  start_eq := by
    rw [ScopeEvent.furthest_concat, ← follows.start_eq]
    exact start_closeAt cutting _ root
  stack_eq := by
    rw [List.map_append]
    exact ScopeStack.applyAll_concat_of_ok follows.stack_eq success
  sampled := follows.sampledAt_closeAt fun p hp => ScopeEvent.upTo_singleton_of_lt hp
  ends := by
    intro n
    have hreach : ScopeEvent.furthest line (done ++ [event])
        = max cutting.start (line.clamp event.offset) := by
      rw [ScopeEvent.furthest_concat, follows.start_eq]
    refine (follows.exists_stop_closeAt (line.clamp event.offset) n).trans ?_
    constructor
    · rintro (⟨hpos, seen, hseen, hn⟩ | ⟨hbeyond, rfl⟩)
      · exact ⟨hpos, seen, hseen.trans (List.prefix_append done [event]), hn⟩
      · refine ⟨by omega, done ++ [event], List.prefix_rfl, ?_⟩
        rw [hreach, Nat.max_eq_right (Nat.le_of_lt hbeyond)]
    · rintro ⟨hpos, seen, hseen, rfl⟩
      rcases List.prefix_concat_iff.1 hseen with rfl | hearlier
      · -- Either this event reaches further, or the events before it reached as far.
        rcases Nat.lt_or_ge cutting.start (line.clamp event.offset) with hlt | hge
        · exact .inr ⟨hlt, by omega⟩
        · exact .inl ⟨hpos, done, List.prefix_rfl, by rw [← follows.start_eq]; omega⟩
      · exact .inl ⟨hpos, seen, hearlier, rfl⟩

/-- Any number of events. -/
theorem Follows.takeEvents (follows : cutting.Follows line stack root done)
    {events : List ScopeEvent} {after : Cutting}
    (taken : Cutting.takeEvents (ClusterIndex.ofLine line) root cutting events = (none, after)) :
    after.Follows line stack root (done ++ events) := by
  induction events generalizing cutting done with
  | nil =>
    obtain rfl : cutting = after := congrArg Prod.snd taken
    rwa [List.append_nil]
  | cons event events ih =>
    -- A cutting that has taken all events has not failed at the first one.
    rw [Cutting.takeEvents] at taken
    rw [stack_closeAt] at taken
    split at taken
    · simp at taken
    · rename_i next success
      rw [List.append_cons]
      exact ih (follows.concat success) taken

end Cutting

/-! ### Every byte -/

/-- **Every byte gets the right scopes.**  On a line with text, each byte belongs to one token, and
that carries the scopes that are open after the events up to the byte; and tokens end where the line
does and where the events reach further than before.  The one token of a line without text carries
the scopes that are open after all the events. -/
theorem scopes_of_every_byte {events : List ScopeEvent} {stack : ScopeStack} {root : Scope}
    {tokens : List Token} {after : ScopeStack}
    (cut : ofEvents line events stack root = (.ok tokens, after)) :
    (∀ p < line.byteSize, ∃ token ∈ tokens, token.Contains p ∧
        token.SampledAt line events stack root p ∧
        ∀ other ∈ tokens, other.Contains p → other = token) ∧
      (line ≠ [] → ∀ n, (∃ token ∈ tokens, token.stop = n) ↔
        n = line.byteSize ∨
          0 < n ∧ ∃ seen, seen <+: events ∧ ScopeEvent.furthest line seen = n) ∧
      (line = [] → ∃ token sampled, tokens = [token] ∧
        stack.applyAll (events.map ScopeEvent.op) = .ok sampled ∧ token.Carries sampled root) := by
  obtain ⟨cutting, htaken, rfl, -⟩ := exists_takeEvents_of_ofEvents cut
  have hfollows := (Cutting.follows_nil line stack root).takeEvents htaken
  rw [List.nil_append] at hfollows
  have hreaches := hfollows.reaches
  refine ⟨?_, ?_, ?_⟩
  · intro p hp
    have htext : line ≠ [] := by
      rintro rfl
      exact absurd hp (Nat.not_lt_zero p)
    have hadjoin := hreaches.adjoin_finish root htext
    obtain ⟨token, hmem, hcontains⟩ := hadjoin.exists_contains (Nat.zero_le p) hp
    refine ⟨token, hmem, hcontains, ?_, fun other hother hcontainsOther => ?_⟩
    · rw [hreaches.finish_eq root htext] at hmem
      -- Behind the last event there is no other one, so its token is right to the end of the line.
      have hnothing : ∀ q < line.byteSize, ScopeEvent.upTo line q [] = [] := fun _ _ => rfl
      have hsampled := hfollows.sampledAt_closeAt hnothing token (Array.mem_toList_iff.1 hmem) p
        hcontains
      rwa [List.append_nil] at hsampled
    · exact hadjoin.eq_of_contains hother hmem hcontainsOther hcontains
  · intro htext n
    rw [hreaches.finish_eq root htext]
    simp only [Array.mem_toList_iff]
    rw [hfollows.exists_stop_closeAt]
    have hsize := Text.byteSize_pos htext
    have hle := hreaches.isCut.le_byteSize
    constructor
    · rintro (hearlier | ⟨-, rfl⟩)
      · exact .inr hearlier
      · exact .inl rfl
    · rintro (rfl | hearlier)
      · -- Without text left, the events themselves have reached the end.
        rcases Nat.lt_or_ge cutting.start line.byteSize with hlt | hge
        · exact .inr ⟨hlt, rfl⟩
        · exact .inl ⟨hsize, events, List.prefix_rfl, by rw [← hfollows.start_eq]; omega⟩
      · exact .inl hearlier
  · rintro rfl
    rw [Text.byteSize_nil, hreaches.finish_nil root]
    exact ⟨_, cutting.stack, rfl, hfollows.stack_eq, carries_scopesOf _ _ _ _⟩

/-- Byte 3 of the line lies inside the accent.  On a line without text, the same events all
count. -/
theorem scopes_of_every_byte_accents :
    (ofEvents accentedLine strayEvents .empty .empty = (.ok accentedTokens, .empty) ∧
      3 < accentedLine.byteSize ∧
      (∃ token ∈ accentedTokens, token.Contains 3 ∧
        token.SampledAt accentedLine strayEvents .empty .empty 3 ∧
        ∀ other ∈ accentedTokens, other.Contains 3 → other = token) ∧
      accentedLine ≠ [] ∧
      ((∃ token ∈ accentedTokens, token.stop = 4) ↔ 4 = accentedLine.byteSize ∨
        0 < 4 ∧ ∃ seen, seen <+: strayEvents ∧ ScopeEvent.furthest accentedLine seen = 4)) ∧
      ofEvents [] strayEvents .empty .empty = (.ok [⟨0, 0, [.empty]⟩], .empty) ∧
      ∃ (token : Token) (sampled : ScopeStack), [⟨0, 0, [.empty]⟩] = [token] ∧
        ScopeStack.empty.applyAll (strayEvents.map ScopeEvent.op) = .ok sampled ∧
        token.Carries sampled .empty := by
  have hcut : ofEvents accentedLine strayEvents .empty .empty
      = (.ok accentedTokens, .empty) := by
    decide +kernel
  have hempty : ofEvents [] strayEvents .empty .empty
      = (.ok [⟨0, 0, [.empty]⟩], .empty) := by
    decide +kernel
  have hbyte : 3 < accentedLine.byteSize := by decide
  have htext : accentedLine ≠ [] := List.cons_ne_nil _ _
  obtain ⟨hscopes, hends, -⟩ := scopes_of_every_byte hcut
  obtain ⟨-, -, hsingle⟩ := scopes_of_every_byte hempty
  exact ⟨⟨hcut, hbyte, hscopes 3 hbyte, htext, hends htext 4⟩, hempty, hsingle rfl⟩

end Token

end Highlighting
