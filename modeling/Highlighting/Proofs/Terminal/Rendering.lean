import Highlighting.Proofs.Sink.Operations
import Highlighting.Proofs.Terminal.Display
import Highlighting.Proofs.Text.Lossy

/-!
# A terminal shows the spans in their styles

A style asks for a pen (`Pen.ofStyle`).  The commands that put the style into force take a terminal
from its default pen to that one, and the resets take it back, so that each operation of a terminal
sink starts and ends with the default pen (`Terminal.run_terminalForm`) and what it shows does not
depend on the operations around it.
-/

namespace Highlighting

/-- The pen that a style asks for. -/
def Pen.ofStyle (style : Style) : Pen where
  foreground := style.foreground.map .ofColor
  background := style.background.map .ofColor
  bold := (style.font.getD .plain).bold
  italic := (style.font.getD .plain).italic
  underline := (style.font.getD .plain).underline

/-- A style that sets nothing asks for the default pen. -/
theorem Pen.ofStyle_of_isUnset {style : Style} (isUnset : style.isUnset = true) :
    ofStyle style = default := by
  obtain ⟨foreground, background, font⟩ := style
  simp only [Style.isUnset, Bool.and_eq_true, Option.isNone_iff_eq_none] at isUnset
  obtain ⟨⟨rfl, rfl⟩, rfl⟩ := isUnset
  rfl

/-! ### Commands for a style -/

/-- The commands for a style print nothing, -/
theorem Command.isSilent_of_mem_applying (style : Style) :
    ∀ command ∈ applying style, command.isSilent = true := by
  intro command hmem
  rw [applying, List.mem_append, List.mem_append, Option.mem_toList, Option.mem_toList,
    Option.map_eq_some_iff, Option.map_eq_some_iff, List.mem_map] at hmem
  rcases hmem with (⟨color, -, rfl⟩ | ⟨color, -, rfl⟩) | ⟨attr, -, rfl⟩
  · rfl
  · rfl
  · rfl

/-- and neither do the resets. -/
theorem Command.isSilent_of_mem_resets : ∀ command ∈ resets, command.isSilent = true := by
  decide

/-- The commands for a style turn the default pen into that of the style. -/
theorem Command.foldl_penAfter_applying (style : Style) :
    (applying style).foldl penAfter .default = .ofStyle style := by
  obtain ⟨foreground, background, font⟩ := style
  -- Each part of the style is set or not, and each of the three attributes is asked for or not.
  cases foreground <;> cases background <;>
    rcases font with _ | ⟨_ | _, _ | _, _ | _⟩ <;> rfl

/-! ### Operations -/

/-- The characters that an operation is to show, and how. -/
def SinkOp.cells : SinkOp → List (Char × Pen)
  | .write span => span.text.map (·, .ofStyle span.style)
  | .lineBreak => [('\n', .default)]
  | .flush => []

/-- The text of the operation, if there is any, holds no escape character. -/
def SinkOp.IsPlain (op : SinkOp) : Prop := ∀ span, op = .write span → '\x1b' ∉ span.text

/-- Apart from the pens, an operation shows what a plain sink writes. -/
theorem SinkOp.map_fst_cells (op : SinkOp) : op.cells.map Prod.fst = op.plainForm := by
  cases op with
  | write span => simp [cells, plainForm, Function.comp_def]
  | lineBreak => rfl
  | flush => rfl

namespace Terminal

/-- An operation shows its characters and leaves the terminal as it was before. -/
theorem run_terminalForm {op : SinkOp} (plain : op.IsPlain) (shown : List (Char × Pen)) :
    run ⟨.default, .text, shown⟩ (op.terminalForm .direct)
      = some ⟨.default, .text, shown ++ op.cells⟩ := by
  cases op with
  | write span =>
    by_cases hunset : span.style.isUnset = true
    · rw [SinkOp.terminalForm, if_pos hunset, run_plain _ _ (plain span rfl), SinkOp.cells,
        Pen.ofStyle_of_isUnset hunset]
    · -- A span in a style is written in three parts, and the terminal is followed through them:
      -- into the style, through the text, and back to the default pen.
      have happlying := run_spell_of_silent .default shown
        (Command.isSilent_of_mem_applying span.style)
      have htext := run_plain (.ofStyle span.style) shown (plain span rfl)
      have hresets := run_spell_of_silent (.ofStyle span.style)
        (shown ++ span.text.map (·, .ofStyle span.style)) Command.isSilent_of_mem_resets
      rw [Command.foldl_penAfter_applying] at happlying
      rw [SinkOp.terminalForm, if_neg hunset, Command.spell, List.flatMap_append,
        List.flatMap_append, run_append, run_append, happlying, Option.bind_some,
        List.flatMap_singleton, Command.text, htext, Option.bind_some, hresets]
      rfl
  | lineBreak => exact run_plain .default shown (by decide)
  | flush => simp [SinkOp.terminalForm, SinkOp.cells]

/-- Operations show their characters one after the other. -/
theorem run_flatMap_terminalForm {ops : List SinkOp} (plain : ∀ op ∈ ops, op.IsPlain)
    (shown : List (Char × Pen)) :
    run ⟨.default, .text, shown⟩ (ops.flatMap (SinkOp.terminalForm .direct))
      = some ⟨.default, .text, shown ++ ops.flatMap SinkOp.cells⟩ := by
  induction ops generalizing shown with
  | nil => simp
  | cons op ops ih =>
    have hfirst := plain op (List.mem_cons_self ..)
    rw [List.flatMap_cons, run_append, run_terminalForm hfirst, Option.bind_some,
      ih fun later hmem => plain later (List.mem_cons_of_mem op hmem)]
    simp

/-! ### The output of a terminal sink -/

/-- **A terminal shows exactly the spans, each in its style.**  Whatever spans without escape
characters a terminal sink is asked to write, a terminal that reads its output shows their
characters in the pens that their styles ask for, a line feed in the default pen for each line
break, and nothing else; after each operation it is back in the default pen and outside of escape
sequences.  Without its escape sequences, the output is that of a plain sink. -/
theorem run_output_terminal (ops : List SinkOp) (plain : ∀ op ∈ ops, op.IsPlain) (k : Nat) :
    let output := ((Sink.terminal .direct).after .unlimited (ops.take k)).output
    blank.run (Utf8.decodeLossy output)
        = some ⟨.default, .text, (ops.take k).flatMap SinkOp.cells⟩ ∧
      Text.utf8 (erase false (Utf8.decodeLossy output))
        = (Sink.plain.after .unlimited (ops.take k)).output := by
  intro output
  have houtput : Utf8.decodeLossy output
      = (ops.take k).flatMap (SinkOp.terminalForm .direct) := by
    rw [show output = _ from (Sink.writes_terminal .direct).output_after (ops.take k),
      Utf8.decodeLossy_utf8]
  have hrun : blank.run (Utf8.decodeLossy output)
      = some ⟨.default, .text, (ops.take k).flatMap SinkOp.cells⟩ := by
    rw [houtput]
    exact run_flatMap_terminalForm (fun op hmem => plain op (List.mem_of_mem_take hmem)) []
  -- What a terminal shows without pens is what is left when escape sequences are erased.
  have herase := map_fst_shown_of_run hrun
  refine ⟨hrun, ?_⟩
  rw [Sink.writes_plain.output_after, ← funext SinkOp.map_fst_cells, ← List.map_flatMap, herase]
  rfl

/-- Bold white text on the color that is written with one, two and three digits. -/
theorem run_output_terminal_bold :
    let bold : FontStyle := ⟨true, false, false⟩
    let style : Style := ⟨some ⟨255, 255, 255, 0⟩, some ⟨7, 42, 100, 255⟩, some bold⟩
    let pen : Pen := ⟨some ⟨255, 255, 255⟩, some ⟨7, 42, 100⟩, true, false, false⟩
    let ops : List SinkOp := [.write ⟨['é', 'm'], style⟩, .lineBreak]
    (∀ op ∈ ops, op.IsPlain) ∧
      blank.run (Utf8.decodeLossy ((Sink.terminal .direct).after .unlimited ops).output)
        = some ⟨.default, .text, [('é', pen), ('m', pen), ('\n', .default)]⟩ := by
  intro bold style pen ops
  have hplain : ∀ op ∈ ops, op.IsPlain := by
    intro op hmem span hop
    subst hop
    obtain rfl : span = ⟨['é', 'm'], style⟩ := by simpa [ops] using hmem
    decide
  exact ⟨hplain, (run_output_terminal ops hplain 2).1⟩

end Terminal

end Highlighting
