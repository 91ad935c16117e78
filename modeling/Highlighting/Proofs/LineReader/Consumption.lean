import Highlighting.Proofs.LineReader.Chunking

/-!
# What becomes of the bytes of an input

An input may report its end early, be interrupted, or fail, and go on behind that.  How the line in
front of it is gathered depends on which of these comes first (`Input.Gathers`).  Whatever is
gathered, together with what is left, makes up the input (`Gathers.bytes_eq`).

Reading on and on gives lines until a gathering fails or comes out empty, and nothing ever after.
What reading an input comes to is its **account** (`Input.Account`): the bytes of the lines, the
failure, if any, the bytes that are lost with it, and what is never looked at.  The account settles
every answer of a reader, and the whereabouts of every byte (`LineReader.accounts_for_input`).

Nothing is asked of the input.  Chunks may be empty anywhere, and what stands behind a failure or an
end is accounted for like the rest.
-/

namespace Highlighting

/-- The bytes that a chunk holds. -/
def Chunk.bytes : Chunk → Bytes
  | .data bytes => bytes
  | .interrupted => []
  | .failed _ => []

namespace Input

/-- All the bytes of an input, also those behind an end or a failure. -/
def bytes (input : Input) : Bytes := input.flatMap Chunk.bytes

@[simp] theorem bytes_nil : bytes [] = [] := rfl

@[simp] theorem bytes_cons (chunk : Chunk) (input : Input) :
    bytes (chunk :: input) = chunk.bytes ++ bytes input := rfl

/-- Inputs behind each other have their bytes behind each other. -/
@[simp] theorem bytes_append (input input' : Input) :
    bytes (input ++ input') = bytes input ++ bytes input' :=
  List.flatMap_append

/-! ### Gathering one line -/

/-- How the line in front of an input is gathered: its bytes, the failure that cuts it short, if
any, and what is left of the input. -/
inductive Gathers : Input → Bytes → Option IoFailure → Input → Prop
  /-- There is nothing left. -/
  | exhausted : Gathers [] [] none []
  /-- An empty chunk reports the end, for now. -/
  | ended (rest : Input) : Gathers (.data [] :: rest) [] none rest
  /-- A failure is reported, and the input goes on behind it. -/
  | failed (failure : IoFailure) (rest : Input) :
      Gathers (.failed failure :: rest) [] (some failure) rest
  /-- An interruption is passed over. -/
  | interrupted {input rest : Input} {line : Bytes} {failure : Option IoFailure} :
      Gathers input line failure rest → Gathers (.interrupted :: input) line failure rest
  /-- A line feed ends the line in the middle of a chunk, or at its end. -/
  | terminated {body : Bytes} (clean : lineFeed ∉ body) (tail : Bytes) (rest : Input) :
      Gathers (.data (body ++ lineFeed :: tail) :: rest) (body ++ [lineFeed]) none
        (if tail = [] then rest else .data tail :: rest)
  /-- A chunk without a line feed is gathered as a whole. -/
  | data {chunk : Bytes} {input rest : Input} {line : Bytes} {failure : Option IoFailure}
      (nonempty : chunk ≠ []) (clean : lineFeed ∉ chunk) :
      Gathers input line failure rest →
        Gathers (.data chunk :: input) (chunk ++ line) failure rest

variable {input rest : Input} {line : Bytes} {failure : Option IoFailure}

/-- Whatever comes first, some line is gathered, be it an empty one. -/
theorem exists_gathers (input : Input) :
    ∃ line failure rest, input.Gathers line failure rest := by
  induction input with
  | nil => exact ⟨[], none, [], .exhausted⟩
  | cons chunk input ih =>
    obtain ⟨line, failure, rest, hgathers⟩ := ih
    cases chunk with
    | interrupted => exact ⟨line, failure, rest, .interrupted hgathers⟩
    | failed failure => exact ⟨[], some failure, input, .failed failure input⟩
    | data bytes =>
      by_cases hempty : bytes = []
      · subst hempty
        exact ⟨[], none, input, .ended input⟩
      by_cases hmem : lineFeed ∈ bytes
      · obtain ⟨body, tail, rfl, hbody⟩ := List.eq_append_cons_of_mem hmem
        exact ⟨body ++ [lineFeed], none, _, .terminated hbody tail input⟩
      · exact ⟨bytes ++ line, failure, rest, .data hempty hmem hgathers⟩

/-- Reading a line does what the relation says. -/
theorem Gathers.readUntilLineFeed_eq (gathers : input.Gathers line failure rest)
    (gathered : Bytes) :
    readUntilLineFeed gathered input = (failure.elim (.ok (gathered ++ line)) .error, rest) := by
  induction gathers generalizing gathered with
  | exhausted => simp [readUntilLineFeed]
  | ended rest => simp [readUntilLineFeed]
  | failed failure rest => rfl
  | interrupted _ ih => exact ih gathered
  | terminated clean tail rest =>
    rw [readUntilLineFeed_of_mem gathered clean, Option.elim_none, List.append_assoc]
  | data nonempty clean _ ih =>
    rw [readUntilLineFeed_of_notMem gathered nonempty clean, ih, List.append_assoc]

/-- What is gathered and what is left make up the input, also where a failure takes the gathered
bytes away. -/
theorem Gathers.bytes_eq (gathers : input.Gathers line failure rest) :
    line ++ rest.bytes = input.bytes := by
  induction gathers with
  | exhausted => rfl
  | ended rest => rfl
  | failed failure rest => rfl
  | interrupted _ ih => exact ih
  | terminated clean tail rest =>
    -- A chunk that is used up is dropped, and has no bytes to lose.
    have hleft : bytes (if tail = [] then rest else .data tail :: rest) = tail ++ rest.bytes := by
      split
      · rename_i htail
        rw [htail, List.nil_append]
      · rfl
    rw [hleft, bytes_cons, Chunk.bytes]
    simp
  | data _ _ _ ih => rw [List.append_assoc, ih, bytes_cons, Chunk.bytes]

/-- A line that a failure cuts short is unfinished. -/
theorem Gathers.clean_of_failure {failure : IoFailure}
    (gathers : input.Gathers line (some failure) rest) : lineFeed ∉ line := by
  -- The induction is over gatherings with any outcome, of which only a failure matters.
  generalize hsome : some failure = outcome at gathers
  induction gathers with
  | exhausted => exact List.not_mem_nil
  | ended rest => exact List.not_mem_nil
  | failed failure rest => exact List.not_mem_nil
  | interrupted _ ih => exact ih hsome
  | terminated => simp at hsome
  | data _ clean _ ih => simp [clean, ih hsome]

/-- A chunk without bytes that is still ahead behind a line was ahead before it. -/
theorem Gathers.exists_append_cons {before : Input} {chunk : Chunk}
    (gathers : input.Gathers line failure (before ++ chunk :: rest)) (silent : chunk.bytes = []) :
    ∃ before' : Input, input = before' ++ chunk :: rest ∧ before'.bytes = line ++ before.bytes := by
  generalize hleft : before ++ chunk :: rest = left at gathers
  induction gathers with
  | exhausted => simp at hleft
  | ended rest => exact ⟨.data [] :: before, by rw [← hleft]; rfl, rfl⟩
  | failed failure rest => exact ⟨.failed failure :: before, by rw [← hleft]; rfl, rfl⟩
  | interrupted _ ih =>
    obtain ⟨before', rfl, hbytes⟩ := ih hleft
    exact ⟨.interrupted :: before', rfl, hbytes⟩
  | @terminated body clean tail following =>
    split at hleft
    · rename_i htail
      refine ⟨.data (body ++ lineFeed :: tail) :: before, by rw [← hleft]; rfl, ?_⟩
      simp [Chunk.bytes, htail]
    · rename_i htail
      cases before with
      | nil =>
        -- The chunk would be the remainder of the one with the line feed.
        obtain ⟨rfl, -⟩ := List.cons.inj hleft
        exact absurd silent htail
      | cons first before =>
        obtain ⟨rfl, rfl⟩ := List.cons.inj hleft
        exact ⟨.data (body ++ lineFeed :: tail) :: before, rfl, by simp [Chunk.bytes]⟩
  | @data bytes _ _ _ _ _ _ _ ih =>
    obtain ⟨before', rfl, hbytes⟩ := ih hleft
    exact ⟨.data bytes :: before', rfl, by simp [Chunk.bytes, hbytes]⟩

/-! ### Where reading stops for good -/

/-- The input fails or comes to an end behind the first of its chunks, and has the others left. -/
inductive Halts : Input → Input → Option IoFailure → Input → Prop
  | failed (before : Input) (failure : IoFailure) (rest : Input) :
      Halts (before ++ .failed failure :: rest) before (some failure) rest
  | ended (before rest : Input) : Halts (before ++ .data [] :: rest) before none rest
  | exhausted (before : Input) : Halts before before none []

variable {before : Input}

/-- A chunk in front of an input does not move the place where it stops. -/
theorem Halts.cons (chunk : Chunk) (halts : input.Halts before failure rest) :
    Halts (chunk :: input) (chunk :: before) failure rest := by
  cases halts with
  | failed before failure rest => exact .failed (chunk :: before) failure rest
  | ended before rest => exact .ended (chunk :: before) rest
  | exhausted => exact .exhausted (chunk :: input)

/-- A failure and an end hold no bytes, so that none are missing between the two parts. -/
theorem Halts.bytes_eq (halts : input.Halts before failure rest) :
    before.bytes ++ rest.bytes = input.bytes := by
  cases halts with
  | failed before failure rest => rw [bytes_append, bytes_cons, Chunk.bytes, List.nil_append]
  | ended before rest => rw [bytes_append, bytes_cons, Chunk.bytes, List.nil_append]
  | exhausted => rw [bytes_nil, List.append_nil]

/-- A gathering that fails or comes out empty stops where the input does. -/
theorem Gathers.exists_halts {lost : Bytes} (gathers : input.Gathers lost failure rest)
    (halting : failure = none → lost = []) :
    ∃ before, input.Halts before failure rest ∧ before.bytes = lost := by
  induction gathers with
  | exhausted => exact ⟨[], .exhausted [], rfl⟩
  | ended rest => exact ⟨[], .ended [] rest, rfl⟩
  | failed failure rest => exact ⟨[], .failed [] failure rest, rfl⟩
  | interrupted _ ih =>
    obtain ⟨before, hhalts, hbytes⟩ := ih halting
    exact ⟨_, hhalts.cons .interrupted, hbytes⟩
  | terminated => simp at halting
  | @data chunk _ _ line _ _ _ _ ih =>
    obtain ⟨before, hhalts, hbytes⟩ := ih fun hnone => (List.append_eq_nil_iff.1 (halting hnone)).2
    exact ⟨_, hhalts.cons (.data chunk), by rw [bytes_cons, hbytes, Chunk.bytes]⟩

/-- What is left behind a line stops where the whole input does. -/
theorem Gathers.exists_halts_of_halts {left : Input} {stop : Option IoFailure}
    (gathers : input.Gathers line stop left) (halts : left.Halts before failure rest) :
    ∃ before', input.Halts before' failure rest ∧ before'.bytes = line ++ before.bytes := by
  cases halts with
  | failed before failure rest =>
    obtain ⟨before', rfl, hbytes⟩ := gathers.exists_append_cons rfl
    exact ⟨before', .failed before' failure rest, hbytes⟩
  | ended before rest =>
    obtain ⟨before', rfl, hbytes⟩ := gathers.exists_append_cons rfl
    exact ⟨before', .ended before' rest, hbytes⟩
  | exhausted => exact ⟨input, .exhausted input, gathers.bytes_eq.symm⟩

/-! ### The account of an input -/

/-- What reading an input comes to. -/
structure Account where
  /-- The bytes of each line that is yielded, with its terminator and not yet decoded. -/
  lines : List Bytes
  /-- The failure that ends the lines, if any. -/
  failure : Option IoFailure
  /-- The bytes gathered for a line that the failure cuts short. -/
  lost : Bytes
  /-- What is left of the input. -/
  rest : Input

/-- The answer behind `k` others: first the lines, then the failure, then nothing. -/
def Account.answer (account : Account) (k : Nat) : Option (Except IoFailure Text) :=
  match account.lines[k]? with
  | some bytes => some (.ok (Utf8.decodeLossy (stripTerminator bytes)))
  | none => if k = account.lines.length then account.failure.map .error else none

/-- Gathering line after line comes to the account. -/
inductive ComesTo : Input → Account → Prop
  /-- A failure, or an end with nothing gathered, stops the reading. -/
  | halt {input rest : Input} {lost : Bytes} {failure : Option IoFailure}
      (gathers : Gathers input lost failure rest) (halting : failure = none → lost = []) :
      ComesTo input ⟨[], failure, lost, rest⟩
  /-- A line is yielded, and reading goes on behind it. -/
  | line {input left : Input} {line : Bytes} {account : Account}
      (gathers : Gathers input line none left) (nonempty : line ≠ []) :
      ComesTo left account → ComesTo input { account with lines := line :: account.lines }

/-- Every input comes to some account, since it has only so much to be read. -/
theorem exists_comesTo (input : Input) : ∃ account, input.ComesTo account := by
  induction hweight : input.weight using Nat.strongRecOn generalizing input with
  | ind weight ih =>
    obtain ⟨line, failure, rest, hgathers⟩ := exists_gathers input
    -- Either the gathering stops the reader, or it has gathered a line.
    by_cases hhalting : failure = none → line = []
    · exact ⟨_, .halt hgathers hhalting⟩
    · obtain ⟨rfl, hnonempty⟩ := Classical.not_imp.1 hhalting
      -- A line takes something from the input.
      have hread := hgathers.readUntilLineFeed_eq []
      have hbound := length_add_weight_le [] input hread
      have hpos : 0 < line.length := List.length_pos_iff.2 hnonempty
      have hlt : rest.weight < weight := by
        simp only [List.length_nil, List.nil_append] at hbound
        omega
      obtain ⟨account, hcomes⟩ := ih rest.weight hlt rest rfl
      exact ⟨_, .line hgathers hnonempty hcomes⟩

namespace ComesTo

variable {account : Account}

/-- Only a failure loses bytes, and those of an unfinished line. -/
theorem lost_of (comes : input.ComesTo account) :
    lineFeed ∉ account.lost ∧ (account.failure = none → account.lost = []) := by
  induction comes with
  | @halt _ _ _ failure gathers halting =>
    refine ⟨?_, halting⟩
    cases failure with
    | none => exact halting rfl ▸ List.not_mem_nil
    | some failure => exact gathers.clean_of_failure
  | line _ _ _ ih => exact ih

/-- The lines and what is lost are all that stands before the place where the input stops. -/
theorem exists_halts (comes : input.ComesTo account) :
    ∃ before, input.Halts before account.failure account.rest ∧
      before.bytes = account.lines.flatten ++ account.lost := by
  induction comes with
  | halt gathers halting =>
    obtain ⟨before, hhalts, hbytes⟩ := gathers.exists_halts halting
    exact ⟨before, hhalts, hbytes⟩
  | line gathers _ _ ih =>
    obtain ⟨before, hhalts, hbytes⟩ := ih
    obtain ⟨before', hhalts', hbytes'⟩ := gathers.exists_halts_of_halts hhalts
    exact ⟨before', hhalts', by rw [hbytes', hbytes, List.flatten_cons, List.append_assoc]⟩

end ComesTo

end Input

namespace LineReader

open Input

variable {input rest : Input} {line : Bytes} {failure : Option IoFailure} {account : Account}

/-! ### A reader keeps to the account -/

/-- A reader that is done stays where it is. -/
theorem behind_of_done (input : Input) (number k : Nat) :
    behind ⟨input, number, true⟩ k = ⟨input, number, true⟩ := by
  induction k with
  | zero => rfl
  | succ k ih => exact ih

/-- A line that was gathered is the answer. -/
theorem next_of_gathers (gathers : input.Gathers line none rest) (nonempty : line ≠ [])
    (number : Nat) :
    next ⟨input, number, false⟩
      = (some (.ok (Utf8.decodeLossy (stripTerminator line))), ⟨rest, number + 1, false⟩) :=
  next_of_readUntilLineFeed nonempty (gathers.readUntilLineFeed_eq []) number

/-- Otherwise the reader is done. -/
theorem next_of_gathers_halting (gathers : input.Gathers line failure rest)
    (halting : failure = none → line = []) (number : Nat) :
    next ⟨input, number, false⟩ = (failure.map .error, ⟨rest, number, true⟩) := by
  have hread := gathers.readUntilLineFeed_eq []
  rw [next, hread]
  cases failure with
  | none =>
    rw [halting rfl]
    rfl
  | some failure => rfl

/-- The answers of a reader are those of the account, and it counts the lines among them. -/
theorem answer_eq (comes : input.ComesTo account) (number k : Nat) :
    answer ⟨input, number, false⟩ k
      = (account.answer k, number + min (k + 1) account.lines.length) := by
  induction comes generalizing number k with
  | halt gathers halting =>
    have hnext := next_of_gathers_halting gathers halting number
    cases k with
    | zero => simp [answer, behind, hnext, Account.answer]
    | succ k =>
      rw [answer, behind, hnext, behind_of_done]
      -- A reader that is done answers nothing, and keeps its number.
      simp [next, Account.answer]
  | @line _ _ _ account gathers nonempty _ ih =>
    have hnext := next_of_gathers gathers nonempty number
    cases k with
    | zero => simp [answer, behind, hnext, Account.answer]
    | succ k =>
      have hlater := ih (number + 1) k
      rw [answer] at hlater
      -- The line counts once, on both sides.
      have hcount : number + 1 + min (k + 1) account.lines.length
          = number + min (k + 1 + 1) (account.lines.length + 1) := by omega
      rw [answer, behind, hnext, hlater, hcount]
      simp [Account.answer]

/-- Behind the lines and what ends them, the reader has stopped and leaves what the account leaves.
-/
theorem behind_eq_of_lt (comes : input.ComesTo account) (number : Nat) {k : Nat}
    (beyond : account.lines.length < k) :
    behind ⟨input, number, false⟩ k
      = ⟨account.rest, number + account.lines.length, true⟩ := by
  induction comes generalizing number k with
  | halt gathers halting =>
    cases k with
    | zero => simp at beyond
    | succ k => rw [behind, next_of_gathers_halting gathers halting number, behind_of_done]; rfl
  | line gathers nonempty _ ih =>
    cases k with
    | zero => simp at beyond
    | succ k =>
      rw [behind, next_of_gathers gathers nonempty number, ih (number + 1) (by simpa using beyond),
        List.length_cons, Nat.add_right_comm, Nat.add_assoc]

/-- Before it is done, a reader has taken the lines that it yielded, and nothing else. -/
theorem flatten_take_append (comes : input.ComesTo account) (number : Nat) {k : Nat}
    (within : k ≤ account.lines.length) :
    (account.lines.take k).flatten ++ (behind ⟨input, number, false⟩ k).input.bytes
      = input.bytes := by
  induction comes generalizing number k with
  | halt gathers halting =>
    obtain rfl : k = 0 := by simpa using within
    rfl
  | line gathers nonempty _ ih =>
    cases k with
    | zero => rfl
    | succ k =>
      have hlater := ih (number + 1) (k := k) (by simpa using within)
      rw [behind, next_of_gathers gathers nonempty number, List.take_succ_cons, List.flatten_cons,
        List.append_assoc, hlater, gathers.bytes_eq]

/-- The bytes in the account are those that were gathered for the line. -/
theorem readUntilLineFeed_behind (comes : input.ComesTo account) (number : Nat) {k : Nat}
    {bytes : Bytes} (found : account.lines[k]? = some bytes) :
    (readUntilLineFeed [] (behind ⟨input, number, false⟩ k).input).1 = .ok bytes := by
  induction comes generalizing number k with
  | halt gathers halting => simp at found
  | line gathers nonempty _ ih =>
    cases k with
    | zero =>
      obtain rfl := Option.some.inj found
      rw [behind, gathers.readUntilLineFeed_eq]
      rfl
    | succ k =>
      rw [behind, next_of_gathers gathers nonempty number]
      exact ih (number + 1) found

/-- **A reader accounts for its input**, whatever that is made of.  It yields lines, then a failure
if there is one, and nothing ever after, when it has stopped for good and leaves the rest alone; its
number is that of the lines yielded so far.  The bytes of the lines are what was gathered for them,
and what they make up is missing from the input only where a failure takes an unfinished line, and
behind the place where the reader stopped: that failure, or else an end of the input. -/
theorem accounts_for_input (input : Input) :
    ∃ account : Account,
      (∀ k, (ofInput input).answer k
        = (account.answer k, min (k + 1) account.lines.length)) ∧
      (∀ k, account.lines.length < k →
        (ofInput input).behind k = ⟨account.rest, account.lines.length, true⟩) ∧
      (∀ k bytes, account.lines[k]? = some bytes →
        (readUntilLineFeed [] ((ofInput input).behind k).input).1 = .ok bytes) ∧
      (∀ k ≤ account.lines.length,
        (account.lines.take k).flatten ++ ((ofInput input).behind k).input.bytes = input.bytes) ∧
      account.lines.flatten ++ account.lost ++ account.rest.bytes = input.bytes ∧
      (lineFeed ∉ account.lost ∧ (account.failure = none → account.lost = [])) ∧
      ∃ before, input.Halts before account.failure account.rest ∧
        before.bytes = account.lines.flatten ++ account.lost := by
  obtain ⟨account, hcomes⟩ := exists_comesTo input
  obtain ⟨before, hhalts, hbytes⟩ := hcomes.exists_halts
  refine ⟨account, fun k => ?_, fun k hbeyond => ?_,
    fun k bytes => readUntilLineFeed_behind hcomes 0, fun k => flatten_take_append hcomes 0, ?_,
    hcomes.lost_of, before, hhalts, hbytes⟩
  · rw [ofInput, answer_eq hcomes, Nat.zero_add]
  · rw [ofInput, behind_eq_of_lt hcomes 0 hbeyond, Nat.zero_add]
  · rw [← hbytes, ← hhalts.bytes_eq]

/-- The end of the input comes early twice.  The first time it ends a line, and the second time it
ends the reading, in front of a line that is never seen. -/
example : (List.range 5).map
    (ofInput [.data [0x61], .data [], .interrupted, .data [0x62, 0x0D], .data [0x0A], .data [],
      .data [0x63, 0x0A]]).answer
      = [(some (.ok ['a']), 1), (some (.ok ['b']), 2), (none, 2), (none, 2), (none, 2)] :=
  rfl

end LineReader

end Highlighting
