import Mathlib.Data.List.Chain
import Highlighting.Token.Tokenizer
import Highlighting.Proofs.Cluster.Cuts

/-!
# Tokens partition their line

The tokens that `Token.ofEvents` makes adjoin one another, from the start of the line to its end,
and all their bounds are cuts of the line (`Token.Adjoin`).  Hence their texts, put together, are
the line again (`Token.flatten_text_ofEvents`), whatever the offsets of the events were.
`Token.Partitions` lists all that this says of the tokens.

The same follows for every tokenizer that only passes on what a grammar engine answers
(`Tokenizer.KeepsText`).

### What events leave alone

An event does two things: it closes the open token at its place, and it changes the scope stack.
What survives both survives any events (`Token.Cutting.takeEvents_induction`).  Here, this is that
the closed tokens lead from the start of the line to that of the open one (`Token.Cutting.Reaches`),
and that each of them has a scope (`Token.Cutting.Scoped`).  A token is closed only where the events
go forward, so that events which go back leave no trace among the bounds.
-/

namespace Highlighting

namespace Token

variable {line : Text}

/-! ### Adjoining tokens -/

/-- The tokens lead from offset `first` to offset `last`: each one starts where the one before it
stops, and stops at a later cut of the line. -/
def Adjoin (line : Text) : Nat → List Token → Nat → Prop
  | first, [], last => first = last
  | first, token :: tokens, last =>
    token.start = first ∧ first < token.stop ∧ line.IsCut token.stop ∧
      Adjoin line token.stop tokens last

/-- Two chains of tokens that meet are one. -/
theorem Adjoin.append {tokens more : List Token} {first middle last : Nat}
    (left : Adjoin line first tokens middle) (right : Adjoin line middle more last) :
    Adjoin line first (tokens ++ more) last := by
  induction tokens generalizing first with
  | nil => exact (show first = middle from left) ▸ right
  | cons token tokens ih =>
    obtain ⟨hstart, hlt, hcut, hrest⟩ := left
    exact ⟨hstart, hlt, hcut, ih hrest⟩

/-- A token with text leads from its start to its stop. -/
theorem Adjoin.singleton {token : Token} (nonempty : token.start < token.stop)
    (cut : line.IsCut token.stop) : Adjoin line token.start [token] token.stop :=
  ⟨rfl, nonempty, cut, rfl⟩

/-- Tokens do not lead back. -/
theorem Adjoin.le {tokens : List Token} {first last : Nat}
    (adjoin : Adjoin line first tokens last) : first ≤ last := by
  induction tokens generalizing first with
  | nil => exact Nat.le_of_eq adjoin
  | cons token tokens ih =>
    obtain ⟨-, hlt, -, hrest⟩ := adjoin
    exact Nat.le_trans (Nat.le_of_lt hlt) (ih hrest)

/-- A step forward takes a token. -/
theorem Adjoin.eq_nil {tokens : List Token} {n : Nat} (adjoin : Adjoin line n tokens n) :
    tokens = [] := by
  cases tokens with
  | nil => rfl
  | cons token tokens =>
    obtain ⟨-, hlt, -, hrest⟩ := adjoin
    have hle := hrest.le
    omega

/-- Every token lies between the two ends and has text of its own. -/
theorem Adjoin.bounds_of_mem {tokens : List Token} {first last : Nat}
    (adjoin : Adjoin line first tokens last) {token : Token} (member : token ∈ tokens) :
    first ≤ token.start ∧ token.start < token.stop ∧ token.stop ≤ last := by
  induction tokens generalizing first with
  | nil => exact absurd member List.not_mem_nil
  | cons head tokens ih =>
    obtain ⟨rfl, hlt, -, hrest⟩ := adjoin
    rcases List.mem_cons.1 member with rfl | hmem
    · exact ⟨Nat.le_refl _, hlt, hrest.le⟩
    · obtain ⟨hfirst, hown, hlast⟩ := ih hrest hmem
      exact ⟨Nat.le_trans (Nat.le_of_lt hlt) hfirst, hown, hlast⟩

/-- From one cut on, all bounds are cuts. -/
theorem Adjoin.isCut_of_mem {tokens : List Token} {first last : Nat} (cut : line.IsCut first)
    (adjoin : Adjoin line first tokens last) {token : Token} (member : token ∈ tokens) :
    line.IsCut token.start ∧ line.IsCut token.stop := by
  induction tokens generalizing first with
  | nil => exact absurd member List.not_mem_nil
  | cons head tokens ih =>
    obtain ⟨rfl, -, hcut, hrest⟩ := adjoin
    rcases List.mem_cons.1 member with rfl | hmem
    · exact ⟨cut, hcut⟩
    · exact ih hcut hrest hmem

/-- Without the offsets in between, this is a chain. -/
theorem Adjoin.isChain {tokens : List Token} {first last : Nat}
    (adjoin : Adjoin line first tokens last) :
    tokens.IsChain fun token next => token.stop = next.start := by
  induction tokens generalizing first with
  | nil => exact .nil
  | cons token tokens ih =>
    obtain ⟨-, -, -, hrest⟩ := adjoin
    cases tokens with
    | nil => exact .singleton token
    | cons next tokens => exact List.isChain_cons_cons.2 ⟨hrest.1.symm, ih hrest⟩

/-- The last token stops where the tokens lead to. -/
theorem Adjoin.stop_getLast {tokens : List Token} {first last : Nat}
    (adjoin : Adjoin line first tokens last) (nonempty : tokens ≠ []) :
    (tokens.getLast nonempty).stop = last := by
  induction tokens generalizing first with
  | nil => exact absurd rfl nonempty
  | cons token tokens ih =>
    obtain ⟨-, -, -, hrest⟩ := adjoin
    cases tokens with
    | nil => exact hrest
    | cons next tokens =>
      rw [List.getLast_cons (List.cons_ne_nil next tokens)]
      exact ih hrest (List.cons_ne_nil next tokens)

/-- From a cut, tokens lead to a cut. -/
theorem Adjoin.isCut {tokens : List Token} {first last : Nat} (cut : line.IsCut first)
    (adjoin : Adjoin line first tokens last) : line.IsCut last := by
  induction tokens generalizing first with
  | nil => exact (show first = last from adjoin) ▸ cut
  | cons token tokens ih =>
    obtain ⟨-, -, hcut, hrest⟩ := adjoin
    exact ih hcut hrest

/-- The texts of adjoining tokens make up what they lead across. -/
theorem Adjoin.flatten_textIn {tokens : List Token} {first last : Nat} (cut : line.IsCut first)
    (adjoin : Adjoin line first tokens last) :
    (tokens.map (·.textIn (ClusterIndex.ofLine line))).flatten
      = (ClusterIndex.ofLine line).slice first last := by
  induction tokens generalizing first with
  | nil =>
    obtain rfl : first = last := adjoin
    exact (ClusterIndex.slice_self line first).symm
  | cons token tokens ih =>
    obtain ⟨rfl, hlt, hcut, hrest⟩ := adjoin
    -- The first token has the slice up to its stop, and slices that meet at a cut add up.
    rw [List.map_cons, List.flatten_cons, ih hcut hrest, textIn,
      ClusterIndex.slice_append_slice cut hcut (hrest.isCut hcut) (Nat.le_of_lt hlt) hrest.le]

/-! ### Cutting a line -/

/-- With no scope open, there is still the root. -/
theorem scopesOf_ne_nil (stack : ScopeStack) (root : Scope) : scopesOf stack root ≠ [] := by
  unfold scopesOf
  split
  · exact List.cons_ne_nil root []
  · rename_i hopen
    intro hnil
    exact hopen (List.isEmpty_iff.2 hnil)

namespace Cutting

/-- Closing a token carries out no operation. -/
@[simp] theorem stack_closeAt (cutting : Cutting) (offset : Nat) (root : Scope) :
    (cutting.closeAt offset root).stack = cutting.stack := by
  unfold closeAt
  split <;> rfl

/-- Closing never moves the start back. -/
theorem start_closeAt (cutting : Cutting) (offset : Nat) (root : Scope) :
    (cutting.closeAt offset root).start = max cutting.start offset := by
  unfold closeAt
  split
  · rename_i beyond
    exact (Nat.max_eq_right (Nat.le_of_lt beyond)).symm
  · rename_i behind
    exact (Nat.max_eq_left (Nat.le_of_not_lt behind)).symm

/-- Closing adds the open token, if it has any text. -/
theorem mem_tokens_closeAt {cutting : Cutting} {offset : Nat} {root : Scope} {token : Token} :
    token ∈ (cutting.closeAt offset root).tokens ↔
      token ∈ cutting.tokens ∨ cutting.start < offset ∧
        token = ⟨cutting.start, offset, scopesOf cutting.stack root⟩ := by
  unfold closeAt
  split
  · rename_i beyond
    rw [Array.mem_push, and_iff_right beyond]
  · rename_i behind
    exact (or_iff_left fun h => behind h.1).symm

/-- What survives the closing of a token, and does not depend on the scope stack, survives any
events, in whatever order their offsets come. -/
theorem takeEvents_induction {index : ClusterIndex} {root : Scope} {Keeps : Cutting → Prop}
    (close : ∀ cutting offset, Keeps cutting → Keeps (cutting.closeAt (index.clamp offset) root))
    (change : ∀ cutting stack, Keeps cutting → Keeps { cutting with stack })
    {cutting : Cutting} (start : Keeps cutting) (events : List ScopeEvent) :
    Keeps (cutting.takeEvents index root events).2 := by
  induction events generalizing cutting with
  | nil => exact start
  | cons event events ih =>
    have hclosed := close cutting event.offset start
    rw [takeEvents]
    split
    · -- The operation fails, which leaves the cutting as it is after the closing.
      exact hclosed
    · exact ih (change _ _ hclosed)

/-- Every closed token carries a scope. -/
def Scoped (cutting : Cutting) : Prop := ∀ token ∈ cutting.tokens, token.scopes ≠ []

/-- A token is closed with the open scopes or with the root, never without any. -/
theorem Scoped.closeAt {cutting : Cutting} (carries : cutting.Scoped) (offset : Nat)
    (root : Scope) : (cutting.closeAt offset root).Scoped := by
  intro token hmem
  rcases mem_tokens_closeAt.1 hmem with hold | ⟨-, rfl⟩
  · exact carries token hold
  · exact scopesOf_ne_nil cutting.stack root

/-- The scopes may change with every event; that there are some does not. -/
theorem Scoped.takeEvents {cutting : Cutting} (carries : cutting.Scoped) (index : ClusterIndex)
    (root : Scope) (events : List ScopeEvent) :
    (Cutting.takeEvents index root cutting events).2.Scoped := by
  refine takeEvents_induction ?_ ?_ carries events
  · intro cutting offset hcarries
    exact hcarries.closeAt (index.clamp offset) root
  · intro cutting stack hcarries
    exact hcarries

/-- The closed tokens adjoin, from the start of the line to the start of the open one. -/
def Reaches (line : Text) (cutting : Cutting) : Prop :=
  Adjoin line 0 cutting.tokens.toList cutting.start

/-- The open token starts at a cut. -/
theorem Reaches.isCut {cutting : Cutting} (reaches : cutting.Reaches line) :
    line.IsCut cutting.start :=
  Adjoin.isCut line.isCut_zero reaches

/-- Closing a token at a cut leaves no gap. -/
theorem Reaches.closeAt {cutting : Cutting} (reaches : cutting.Reaches line) {offset : Nat}
    (cut : line.IsCut offset) (root : Scope) : (cutting.closeAt offset root).Reaches line := by
  unfold Cutting.closeAt
  split
  · rename_i beyond
    unfold Reaches
    rw [Array.toList_push]
    exact Adjoin.append reaches (Adjoin.singleton beyond cut)
  · exact reaches

/-- Neither do the events. -/
theorem Reaches.takeEvents {cutting : Cutting} (reaches : cutting.Reaches line) (root : Scope)
    (events : List ScopeEvent) :
    (Cutting.takeEvents (ClusterIndex.ofLine line) root cutting events).2.Reaches line := by
  refine takeEvents_induction ?_ ?_ reaches events
  · intro cutting offset hreaches
    exact hreaches.closeAt (ClusterIndex.isCut_clamp line offset) root
  · intro cutting stack hreaches
    exact hreaches

/-- On a line with text, the last token is closed like any other. -/
theorem Reaches.finish_eq {cutting : Cutting} (reaches : cutting.Reaches line) (root : Scope)
    (text : line ≠ []) : cutting.finish line.byteSize root
      = (cutting.closeAt line.byteSize root).tokens.toList := by
  have hsize := Text.byteSize_pos text
  unfold Cutting.finish Cutting.closeAt
  by_cases hopen : cutting.start < line.byteSize
  · rw [if_pos (.inl hopen), if_pos hopen]
  · -- Some token is closed, since the open one does not start where the line does.
    have hclosed : ¬cutting.tokens.isEmpty := by
      intro hempty
      rw [Reaches, Array.isEmpty_iff.1 hempty] at reaches
      obtain hstart : 0 = cutting.start := reaches
      omega
    rw [if_neg (not_or.2 ⟨hopen, hclosed⟩), if_neg hopen]

/-- It closes the gap to the end. -/
theorem Reaches.adjoin_finish {cutting : Cutting} (reaches : cutting.Reaches line)
    (root : Scope) (text : line ≠ []) :
    Adjoin line 0 (cutting.finish line.byteSize root) line.byteSize := by
  have hclosed := reaches.closeAt line.isCut_byteSize root
  rwa [Reaches, start_closeAt, Nat.max_eq_right reaches.isCut.le_byteSize,
    ← reaches.finish_eq root text] at hclosed

/-- A line without text has no room for a second token. -/
theorem Reaches.finish_nil {cutting : Cutting} (reaches : cutting.Reaches []) (root : Scope) :
    cutting.finish 0 root = [⟨0, 0, scopesOf cutting.stack root⟩] := by
  have hstart : cutting.start = 0 := Nat.le_zero.1 reaches.isCut.le_byteSize
  have htokens : cutting.tokens.toList = [] := by
    rw [Reaches, hstart] at reaches
    exact reaches.eq_nil
  have hempty : cutting.tokens = #[] := Array.toList_eq_nil_iff.1 htokens
  unfold Cutting.finish
  simp [hempty, hstart]

end Cutting

/-- Where cutting succeeds, all the events have been taken. -/
theorem exists_takeEvents_of_ofEvents {events : List ScopeEvent} {stack : ScopeStack}
    {root : Scope} {tokens : List Token} {after : ScopeStack}
    (cut : ofEvents line events stack root = (.ok tokens, after)) :
    ∃ cutting, Cutting.takeEvents (ClusterIndex.ofLine line) root ⟨#[], 0, stack⟩ events
        = (none, cutting) ∧
      cutting.finish line.byteSize root = tokens ∧ cutting.stack = after := by
  rw [ofEvents] at cut
  split at cut
  · simp at cut
  · rename_i cutting htaken
    exact ⟨cutting, htaken, by simpa using cut⟩

/-! ### What the tokens of a line are -/

/-- The tokens cut the line from end to end.  Only a line without text has an empty one. -/
structure Partitions (line : Text) (tokens : List Token) : Prop where
  /-- The first token starts where the line does. -/
  first : tokens.head?.map Token.start = some 0
  /-- Each token starts where the one before it stops. -/
  adjoining : tokens.IsChain fun token next => token.stop = next.start
  /-- The last token stops where the line does. -/
  last : tokens.getLast?.map Token.stop = some line.byteSize
  /-- No token of a line with text is empty. -/
  nonempty : line ≠ [] → ∀ token ∈ tokens, token.start < token.stop
  /-- A line without text has one token, and that is empty. -/
  single : line = [] → ∃ scopes, tokens = [⟨0, 0, scopes⟩]
  /-- No cluster is torn apart. -/
  cuts : ∀ token ∈ tokens, line.IsCut token.start ∧ line.IsCut token.stop
  /-- There is always a scope. -/
  carries : ∀ token ∈ tokens, token.scopes ≠ []
  /-- The texts of the tokens, put together, are the line. -/
  spelling : (tokens.map (·.text line)).flatten = line

/-- Adjoining tokens from one end of a line with text to the other partition it. -/
theorem Adjoin.partitions {tokens : List Token} (adjoin : Adjoin line 0 tokens line.byteSize)
    (text : line ≠ []) (carries : ∀ token ∈ tokens, token.scopes ≠ []) :
    Partitions line tokens := by
  have hsize := Text.byteSize_pos text
  have hnonempty : tokens ≠ [] := by
    rintro rfl
    obtain hends : 0 = line.byteSize := adjoin
    omega
  refine
    { first := ?_
      adjoining := adjoin.isChain
      last := ?_
      nonempty := fun _ token hmem => (adjoin.bounds_of_mem hmem).2.1
      single := fun hline => absurd hline text
      cuts := fun token hmem => adjoin.isCut_of_mem line.isCut_zero hmem
      carries := carries
      spelling := ?_ }
  · cases tokens with
    | nil => exact absurd rfl hnonempty
    | cons token tokens => exact congrArg some adjoin.1
  · rw [List.getLast?_eq_some_getLast hnonempty, Option.map_some, adjoin.stop_getLast]
  · exact (adjoin.flatten_textIn line.isCut_zero).trans (ClusterIndex.slice_zero_byteSize line)

/-- The empty line is partitioned by one empty token, and by nothing else. -/
theorem partitions_nil {scopes : List Scope} (carries : scopes ≠ []) :
    Partitions [] [⟨0, 0, scopes⟩] where
  first := rfl
  adjoining := .singleton _
  last := rfl
  nonempty := fun text => absurd rfl text
  single := fun _ => ⟨scopes, rfl⟩
  cuts := fun token hmem => by
    obtain rfl := List.mem_singleton.1 hmem
    exact ⟨Text.isCut_zero [], Text.isCut_zero []⟩
  carries := fun token hmem => by
    obtain rfl := List.mem_singleton.1 hmem
    exact carries
  spelling := by
    show (ClusterIndex.ofLine []).slice 0 0 ++ [] = []
    rw [ClusterIndex.slice_self, List.append_nil]

/-- Whatever the events are, the tokens that they make partition the line. -/
theorem partitions_of_ofEvents {events : List ScopeEvent} {stack : ScopeStack} {root : Scope}
    {tokens : List Token} {after : ScopeStack}
    (cut : ofEvents line events stack root = (.ok tokens, after)) : Partitions line tokens := by
  obtain ⟨cutting, htaken, rfl, -⟩ := exists_takeEvents_of_ofEvents cut
  have hstart : Cutting.Reaches line ⟨#[], 0, stack⟩ := rfl
  -- Before the first event no token is closed, so that there is nothing to show.
  have hunscoped : Cutting.Scoped ⟨#[], 0, stack⟩ := fun token hmem =>
    absurd hmem (Array.not_mem_empty token)
  have hreaches := hstart.takeEvents root events
  have hscoped := hunscoped.takeEvents (ClusterIndex.ofLine line) root events
  rw [htaken] at hreaches hscoped
  by_cases htext : line = []
  · subst htext
    rw [Text.byteSize_nil, hreaches.finish_nil root]
    exact partitions_nil (scopesOf_ne_nil cutting.stack root)
  · -- With text, the last token is closed as the others were, and keeps what they keep.
    refine (hreaches.adjoin_finish root htext).partitions htext fun token hmem => ?_
    rw [hreaches.finish_eq root htext] at hmem
    exact hscoped.closeAt line.byteSize root token (Array.mem_toList_iff.1 hmem)

/-- The texts of the tokens of a line, put together, are the line. -/
theorem flatten_text_ofEvents {events : List ScopeEvent} {stack : ScopeStack} {root : Scope}
    {tokens : List Token} {after : ScopeStack}
    (cut : ofEvents line events stack root = (.ok tokens, after)) :
    (tokens.map (·.text line)).flatten = line :=
  (partitions_of_ofEvents cut).spelling

end Token

namespace Tokenizer

variable {σ μ ε : Type}

/-- Whenever the tokenizer succeeds, the texts of its tokens make up the line. -/
def KeepsText (tokenizer : Tokenizer σ μ) : Prop :=
  ∀ line prior memory tokens state after,
    tokenizer.tokenizeLine line prior memory = (.ok (tokens, state), after) →
      (tokens.map (·.text line)).flatten = line

/-- On every line, the tokenizer either fails or answers as the engine's own tokenizer does. -/
def FollowsOrFails (tokenizer : Tokenizer (LexerState ε) μ) (engine : GrammarEngine ε)
    (root : Scope) : Prop :=
  ∀ line prior memory,
    (∃ error, (tokenizer.tokenizeLine line prior memory).1 = .error error) ∨
      (tokenizer.tokenizeLine line prior memory).1 = engine.tokenizeLine root line prior

/-- The engine's own tokenizer does as it does. -/
theorem followsOrFails_tokenizer (engine : GrammarEngine ε) (root : Scope) :
    (engine.tokenizer root).FollowsOrFails engine root :=
  fun _ _ _ => .inr rfl

/-- Failing on some more lines does not matter. -/
theorem FollowsOrFails.failingOn {tokenizer : Tokenizer (LexerState ε) μ}
    {engine : GrammarEngine ε} {root : Scope} (follows : tokenizer.FollowsOrFails engine root)
    (refuses : Text → Bool) (error : Error) :
    (tokenizer.failingOn refuses error).FollowsOrFails engine root := by
  intro line prior memory
  by_cases hrefused : refuses line
  · exact .inl ⟨error, by simp [Tokenizer.failingOn, hrefused]⟩
  · simpa [Tokenizer.failingOn, hrefused] using follows line prior memory

/-- Where an engine's tokenizer succeeds, its tokens come from the engine's events. -/
theorem exists_ofEvents_of_tokenizeLine {engine : GrammarEngine ε} {root : Scope} {line : Text}
    {prior : Option (LexerState ε)} {tokens : List Token} {state : LexerState ε}
    (success : engine.tokenizeLine root line prior = .ok (tokens, state)) :
    ∃ events stack after, Token.ofEvents line events stack root = (.ok tokens, after) := by
  rw [GrammarEngine.tokenizeLine] at success
  split at success
  · simp at success
  · rename_i events next _
    split at success
    · simp at success
    · rename_i cut stack hcut
      obtain ⟨rfl, -⟩ : cut = tokens ∧ _ := by simpa using success
      exact ⟨events, _, stack, hcut⟩

/-- Such a tokenizer loses no text and repeats none. -/
theorem FollowsOrFails.keepsText {tokenizer : Tokenizer (LexerState ε) μ}
    {engine : GrammarEngine ε} {root : Scope} (follows : tokenizer.FollowsOrFails engine root) :
    tokenizer.KeepsText := by
  intro line prior memory tokens state after success
  have hanswer : (tokenizer.tokenizeLine line prior memory).1 = .ok (tokens, state) := by
    rw [success]
  rcases follows line prior memory with ⟨error, herror⟩ | hfollows
  · rw [herror] at hanswer
    simp at hanswer
  · obtain ⟨events, stack, rest, hcut⟩ :=
      exists_ofEvents_of_tokenizeLine (hfollows.symm.trans hanswer)
    exact Token.flatten_text_ofEvents hcut

end Tokenizer

namespace Token

/-- **The tokens of a line partition it.**  Whenever a line can be cut at its events, wherever these
lie and whatever the scope stack is, and so whenever an engine's tokenizer succeeds, the tokens lead
from one end of the line to the other without a gap or an overlap, without tearing a cluster, and
none of them is without a scope. -/
theorem partition_line (line : Text) :
    (∀ events stack root tokens after,
        ofEvents line events stack root = (.ok tokens, after) → Partitions line tokens) ∧
      ∀ {ε : Type} (engine : GrammarEngine ε) root prior tokens state,
        engine.tokenizeLine root line prior = .ok (tokens, state) → Partitions line tokens := by
  constructor
  · intro events stack root tokens after cut
    exact partitions_of_ofEvents cut
  · intro ε engine root prior tokens state success
    obtain ⟨events, stack, after, cut⟩ := Tokenizer.exists_ofEvents_of_tokenizeLine success
    exact partitions_of_ofEvents cut

/-- The second character of this line carries an accent, which takes two bytes more. -/
def accentedLine : Text := ['x', 'e', '\u0301', 'y']

/-- Events inside a cluster, at the same place, going back, and past the end of the line. -/
def strayEvents : List ScopeEvent :=
  [⟨3, .push ⟨[['a']]⟩⟩, ⟨1, .push ⟨[['b']]⟩⟩, ⟨4, .pop 1⟩, ⟨2, .noop⟩, ⟨99, .pop 1⟩]

/-- The tokens that these events make of that line. -/
def accentedTokens : List Token :=
  [⟨0, 1, [.empty]⟩, ⟨1, 4, [⟨[['b']]⟩, ⟨[['a']]⟩]⟩, ⟨4, 5, [⟨[['a']]⟩]⟩]

/-- A line without text gets one token all the same. -/
theorem partition_line_accents :
    (ofEvents accentedLine strayEvents .empty .empty = (.ok accentedTokens, .empty) ∧
        Partitions accentedLine accentedTokens) ∧
      GrammarEngine.tokenizeLine ⟨(), fun _ _ => .ok (strayEvents, ())⟩ .empty [] none
          = .ok ([⟨0, 0, [.empty]⟩], ⟨(), .empty⟩) ∧
        Partitions [] [⟨0, 0, [.empty]⟩] := by
  have hcut : ofEvents accentedLine strayEvents .empty .empty
      = (.ok accentedTokens, .empty) := by
    decide +kernel
  have hanswer : GrammarEngine.tokenizeLine ⟨(), fun _ _ => .ok (strayEvents, ())⟩ .empty [] none
      = .ok ([⟨0, 0, [.empty]⟩], ⟨(), .empty⟩) := rfl
  exact ⟨⟨hcut, (partition_line accentedLine).1 _ _ _ _ _ hcut⟩,
    hanswer, (partition_line []).2 _ _ _ _ _ hanswer⟩

end Token

end Highlighting
