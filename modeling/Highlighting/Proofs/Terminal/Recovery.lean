import Highlighting.Proofs.Sink.Operations

/-!
# A failing write leaves the terminal reset

Over a writer that fails once and then works again, the operation that fails is written as far as
the writer takes it.  If it was to show a span in some style, the resets follow, wherever in its
written form the failure struck: in the commands in front of the text, in the text, or in the resets
themselves.  No other operation notices.
-/

namespace Highlighting

/-- A writer that takes `n` bytes, then fails once, and takes everything afterwards. -/
def Writer.failingOnce (n : Nat) : Writer := { limitedTo n with recovers := true }

/-- The two resets, as they are written. -/
def Command.resetBytes : Bytes := Text.utf8 ['\x1b', '[', '0', 'm', '\x1b', '[', '0', 'm']

/-- The resets are written in one way, in whichever mode the colors are. -/
theorem Command.utf8_spell_resets (mode : ColorMode) :
    (spell mode resets).utf8 = resetBytes := by
  cases mode <;> rfl

namespace SinkOp

/-- The effect of an operation of a terminal sink when nothing fails. -/
def fullEffect (mode : ColorMode) (op : SinkOp) : Sink.Effect :=
  ⟨.ok (), (op.terminalForm mode).utf8⟩

/-- The effect of an operation that fails after some of its bytes. -/
def cutEffect (mode : ColorMode) (op : SinkOp) (written : Nat) : Sink.Effect :=
  ⟨.error .brokenPipe, (op.terminalForm mode).utf8.take written
    ++ if op.isStyled then Command.resetBytes else []⟩

end SinkOp

namespace Sink

variable (mode : ColorMode) {w : Writer} {room : Nat}

/-! ### One operation -/

/-- An operation for which there is room has its full effect, and uses up room. -/
theorem perform_terminal_of_le {op : SinkOp} (limit : w.room = some room)
    (flushes : w.flushes = true) (fits : (op.terminalForm mode).utf8.length ≤ room) :
    (terminal mode).perform op w
      = (.ok (), w.fill (op.fullEffect mode).bytes
          (some (room - (op.terminalForm mode).utf8.length))) := by
  rw [perform_terminal mode op fun _ => flushes, Writer.write_of_le limit fits]
  rfl

/-- An operation for which there is none is cut off, and the writer has no limit from then on, so
that the resets get through. -/
theorem perform_terminal_of_lt {op : SinkOp} (limit : w.room = some room)
    (recovers : w.recovers = true) (flushes : w.flushes = true)
    (exceeds : room < (op.terminalForm mode).utf8.length) :
    (terminal mode).perform op w
      = (.error .brokenPipe, w.fill (op.cutEffect mode room).bytes none) := by
  rw [perform_terminal mode op fun _ => flushes, Writer.write_of_lt limit exceeds, recovers]
  dsimp only
  rw [if_pos rfl, Writer.write_of_unlimited (Writer.room_fill ..), Writer.fill_fill,
    Command.utf8_spell_resets, SinkOp.cutEffect]
  cases op.isStyled with
  | true => rfl
  | false => simp

/-! ### Several operations -/

/-- The number of bytes that the first `i` operations write when nothing fails. -/
def reach (ops : List SinkOp) (i : Nat) : Nat :=
  ((terminal mode).after .unlimited (ops.take i)).output.length

/-- The first operation is in the way of all later ones. -/
theorem reach_cons_succ (op : SinkOp) (ops : List SinkOp) (i : Nat) :
    reach mode (op :: ops) (i + 1)
      = (op.terminalForm mode).utf8.length + reach mode ops i := by
  rw [reach, reach, (writes_terminal mode).output_after, (writes_terminal mode).output_after,
    List.take_succ_cons, List.flatMap_cons, Text.utf8_append, List.length_append]

/-- While there is room for everything, nothing fails. -/
theorem effects_terminal_of_le {ops : List SinkOp} (limit : w.room = some room)
    (flushes : w.flushes = true) (fits : reach mode ops ops.length ≤ room) :
    (terminal mode).effects w ops = ops.map (SinkOp.fullEffect mode) := by
  induction ops generalizing w room with
  | nil => rfl
  | cons op ops ih =>
    rw [List.length_cons, reach_cons_succ] at fits
    rw [effects_cons_of_fill (perform_terminal_of_le mode limit flushes (by omega)),
      ih (Writer.room_fill ..) flushes (by omega)]
    rfl

/-- The operation for which there is no room fails, and it alone. -/
theorem effects_terminal_of_lt {ops : List SinkOp} (limit : w.room = some room)
    (recovers : w.recovers = true) (flushes : w.flushes = true)
    (exceeds : room < reach mode ops ops.length) :
    ∃ i op, ops[i]? = some op ∧ reach mode ops i ≤ room ∧ room < reach mode ops (i + 1) ∧
      (terminal mode).effects w ops = (ops.map (SinkOp.fullEffect mode)).set i
        (op.cutEffect mode (room - reach mode ops i)) := by
  induction ops generalizing w room with
  | nil => exact absurd exceeds (Nat.not_lt_zero _)
  | cons op ops ih =>
    rw [List.length_cons, reach_cons_succ] at exceeds
    rcases Nat.lt_or_ge room (op.terminalForm mode).utf8.length with hlt | hle
    · -- The failure strikes here, and nothing limits what comes behind.
      refine ⟨0, op, rfl, Nat.zero_le _, ?_, ?_⟩
      · rw [reach_cons_succ]
        omega
      · rw [effects_cons_of_fill (perform_terminal_of_lt mode limit recovers flushes hlt),
          (writes_terminal mode).effects_eq (Writer.room_fill ..) flushes]
        rfl
    · -- This operation fits, and uses up some of the room.
      -- The failing operation is found among the later ones, with as much less room.
      obtain ⟨i, failing, hfound, hbefore, hbehind, heffects⟩ :=
        ih (Writer.room_fill w (op.fullEffect mode).bytes _) recovers flushes
          (show room - (op.terminalForm mode).utf8.length < _ by omega)
      refine ⟨i + 1, failing, hfound, ?_, ?_, ?_⟩
      · rw [reach_cons_succ]
        omega
      · rw [reach_cons_succ]
        omega
      · rw [effects_cons_of_fill (perform_terminal_of_le mode limit flushes hle), heffects,
          reach_cons_succ, Nat.sub_sub]
        rfl

/-- **A failing write leaves the terminal reset.**  Compare what the operations do over a writer
that fails once with what they do over one that never fails, where all of them succeed.  If the
bytes before the failure suffice, nothing changes.  Otherwise the operation that has the next byte
fails: it writes its own bytes up to there, and the two resets if it shows a span in some style.
Every other operation has the effect that it has when nothing fails. -/
theorem effects_terminal_failingOnce (ops : List SinkOp) (n : Nat) :
    let full := (terminal mode).effects .unlimited ops
    let cut := (terminal mode).effects (.failingOnce n) ops
    ((terminal mode).after .unlimited ops).output = full.flatMap Effect.bytes ∧
    ((terminal mode).after (.failingOnce n) ops).output = cut.flatMap Effect.bytes ∧
    full.length = ops.length ∧ (∀ effect ∈ full, effect.result = .ok ()) ∧
    (((terminal mode).after .unlimited ops).output.length ≤ n → cut = full) ∧
    (n < ((terminal mode).after .unlimited ops).output.length →
      ∃ i op effect, ops[i]? = some op ∧ full[i]? = some effect ∧
        reach mode ops i ≤ n ∧ n < reach mode ops (i + 1) ∧
        cut = full.set i ⟨.error .brokenPipe, effect.bytes.take (n - reach mode ops i)
          ++ if op.isStyled then Command.resetBytes else []⟩) := by
  intro full cut
  have hfull : full = ops.map (SinkOp.fullEffect mode) :=
    (writes_terminal mode).effects_eq rfl rfl ops
  -- What all the operations write is what the first `ops.length` of them reach.
  have htotal : ((terminal mode).after .unlimited ops).output.length
      = reach mode ops ops.length := by
    rw [reach, List.take_length]
  rw [htotal]
  refine ⟨?_, ?_, ?_, ?_, ?_, ?_⟩
  · exact (appends_terminal mode).output_after .unlimited ops
  · exact (appends_terminal mode).output_after (.failingOnce n) ops
  · rw [hfull, List.length_map]
  · intro effect hmem
    rw [hfull, List.mem_map] at hmem
    obtain ⟨op, -, rfl⟩ := hmem
    rfl
  · intro hle
    rw [hfull]
    exact effects_terminal_of_le mode rfl rfl hle
  · intro hlt
    have hfails := effects_terminal_of_lt mode (w := .failingOnce n) rfl rfl rfl hlt
    obtain ⟨i, op, hop, hbefore, hbehind, hcut⟩ := hfails
    refine ⟨i, op, op.fullEffect mode, hop, ?_, hbefore, hbehind, ?_⟩
    · rw [hfull, List.getElem?_map, hop, Option.map_some]
    · rw [hfull]
      exact hcut

/-- The failure strikes inside the first of the two resets behind a bold letter. -/
theorem effects_terminal_failingOnce_bold :
    let ops : List SinkOp := [.write ⟨['a'], ⟨none, none, some ⟨true, false, false⟩⟩⟩, .lineBreak]
    6 < ((terminal .direct).after .unlimited ops).output.length ∧
      ((terminal .direct).effects (.failingOnce 6) ops).map Effect.bytes
        = [Text.utf8 ['\x1b', '[', '1', 'm', 'a', '\x1b'] ++ Command.resetBytes, [0x0A]] := by
  intro ops
  have hlt : 6 < ((terminal .direct).after .unlimited ops).output.length := by decide
  obtain ⟨-, -, -, -, -, hfails⟩ := effects_terminal_failingOnce .direct ops 6
  obtain ⟨i, op, effect, hop, heffect, hle, -, hcut⟩ := hfails hlt
  refine ⟨hlt, ?_⟩
  match i with
  | 0 =>
    obtain rfl := Option.some.inj hop
    obtain rfl := Option.some.inj heffect
    rw [hcut]
    rfl
  | 1 => exact absurd hle (by decide)
  | i + 2 => exact nomatch hop

end Sink

end Highlighting
