import Highlighting.Terminal.Command

/-!
# What a terminal shows

A `Terminal` reads a text character by character.  It has a **pen**, in which it shows every
character that is not part of an escape sequence; the sequences change the pen and show nothing.

The terminal knows the sequences that set a color of 24 bits or an attribute, and the one that puts
everything back.  Any other stops it.  So where `Terminal.run` has a result, the text holds no
sequence but these, and what is shown is the text without them
(`Terminal.map_fst_shown_of_run`).

Reading the written form of a command does what the command says (`Terminal.run_text_of_silent`).
-/

namespace Highlighting

/-- A color as a terminal knows it. -/
structure Hue where
  red : Nat
  green : Nat
  blue : Nat
  deriving DecidableEq

/-- The color without its alpha. -/
def Hue.ofColor (color : Color) : Hue := ⟨color.red.toNat, color.green.toNat, color.blue.toNat⟩

/-- How a character is shown; `none` is the terminal's own color. -/
structure Pen where
  foreground : Option Hue
  background : Option Hue
  bold : Bool
  italic : Bool
  underline : Bool
  deriving DecidableEq

namespace Pen

/-- How characters are shown when nothing is set. -/
def default : Pen := ⟨none, none, false, false, false⟩

/-- The pen after an escape sequence with the given parameters, if the terminal knows it. -/
def apply (pen : Pen) : List Nat → Option Pen
  | [0] => some default
  | [1] => some { pen with bold := true }
  | [3] => some { pen with italic := true }
  | [4] => some { pen with underline := true }
  | [38, 2, red, green, blue] => some { pen with foreground := some ⟨red, green, blue⟩ }
  | [48, 2, red, green, blue] => some { pen with background := some ⟨red, green, blue⟩ }
  | _ => none

end Pen

/-- Where a terminal is in a text. -/
inductive Phase
  /-- Outside of escape sequences. -/
  | text
  /-- Behind an escape character. -/
  | escape
  /-- In the parameters of an escape sequence: those that are complete, and the number that the
  digits read since then stand for. -/
  | parameters (complete : List Nat) (current : Nat)
  deriving DecidableEq

/-- A terminal, and what it has shown so far. -/
structure Terminal where
  pen : Pen
  phase : Phase
  shown : List (Char × Pen)
  deriving DecidableEq

namespace Terminal

/-- A terminal that has shown nothing. -/
def blank : Terminal := ⟨.default, .text, []⟩

/-- Reads a character. -/
def step (t : Terminal) (c : Char) : Option Terminal :=
  match t.phase with
  | .text =>
    if c = '\x1b' then some { t with phase := .escape }
    else some { t with shown := t.shown ++ [(c, t.pen)] }
  | .escape => if c = '[' then some { t with phase := .parameters [] 0 } else none
  | .parameters complete current =>
    if c.isDigit then
      some { t with phase := .parameters complete (10 * current + (c.toNat - '0'.toNat)) }
    else if c = ';' then some { t with phase := .parameters (complete ++ [current]) 0 }
    else if c = 'm' then
      (t.pen.apply (complete ++ [current])).map fun pen => { t with pen, phase := .text }
    else none

/-- Reads a text. -/
def run (t : Terminal) (text : Text) : Option Terminal := text.foldlM step t

@[simp] theorem run_nil (t : Terminal) : t.run [] = some t := rfl

theorem run_cons (t : Terminal) (c : Char) (text : Text) :
    t.run (c :: text) = (t.step c).bind fun next => next.run text :=
  List.foldlM_cons

/-- A terminal can stop in the middle of a text, and go on with the rest. -/
theorem run_append (t : Terminal) (text more : Text) :
    t.run (text ++ more) = (t.run text).bind fun next => next.run more :=
  List.foldlM_append

/-! ### Plain text -/

theorem step_of_ne_escape (pen : Pen) (shown : List (Char × Pen)) {c : Char} (plain : c ≠ '\x1b') :
    step ⟨pen, .text, shown⟩ c = some ⟨pen, .text, shown ++ [(c, pen)]⟩ :=
  if_neg plain

/-- Text without an escape character is shown as it is. -/
theorem run_plain (pen : Pen) (shown : List (Char × Pen)) {text : Text}
    (plain : '\x1b' ∉ text) :
    run ⟨pen, .text, shown⟩ text = some ⟨pen, .text, shown ++ text.map (·, pen)⟩ := by
  induction text generalizing shown with
  | nil => simp
  | cons c text ih =>
    rw [List.mem_cons, not_or] at plain
    rw [run_cons, step_of_ne_escape pen shown (Ne.symm plain.1), Option.bind_some, ih _ plain.2]
    simp

/-! ### Escape sequences -/

/-- Digits add up to the number that they stand for. -/
theorem run_digits (pen : Pen) (shown : List (Char × Pen)) (complete : List Nat) (current : Nat)
    {digits : Text} (decimal : ∀ c ∈ digits, c.isDigit = true) :
    run ⟨pen, .parameters complete current, shown⟩ digits
      = some ⟨pen, .parameters complete (Nat.ofDigitChars 10 digits current), shown⟩ := by
  induction digits generalizing current with
  | nil => simp
  | cons c digits ih =>
    -- A digit moves the number on by one decimal place.
    have hstep : step ⟨pen, .parameters complete current, shown⟩ c
        = some ⟨pen, .parameters complete (10 * current + (c.toNat - '0'.toNat)), shown⟩ :=
      if_pos (decimal c (List.mem_cons_self ..))
    rw [run_cons, hstep, Option.bind_some, Nat.ofDigitChars_cons]
    exact ih _ fun d hmem => decimal d (List.mem_cons_of_mem c hmem)

/-- A number that is written in decimal is read as itself. -/
theorem run_number (pen : Pen) (shown : List (Char × Pen)) (complete : List Nat) (n : Nat) :
    run ⟨pen, .parameters complete 0, shown⟩ (Nat.toDigits 10 n)
      = some ⟨pen, .parameters complete n, shown⟩ := by
  rw [run_digits, Nat.ofDigitChars_ten_toDigits]
  exact fun c hmem => Nat.isDigit_of_mem_toDigits (by decide) (by decide) hmem

/-- Numbers with semicolons between them are the parameters of a sequence. -/
theorem run_parameters (pen : Pen) (shown : List (Char × Pen)) (complete : List Nat) (n : Nat)
    (numbers : List Nat) :
    run ⟨pen, .parameters complete 0, shown⟩
        ([';'].intercalate ((n :: numbers).map (Nat.toDigits 10)) ++ ['m'])
      = (pen.apply (complete ++ n :: numbers)).map fun pen => ⟨pen, .text, shown⟩ := by
  induction numbers generalizing complete n with
  | nil =>
    -- The letter closes the last number and hands all of them to the pen.
    have hend : step ⟨pen, .parameters complete n, shown⟩ 'm'
        = (pen.apply (complete ++ [n])).map fun pen => ⟨pen, .text, shown⟩ := rfl
    rw [List.map_singleton, List.intercalate_singleton, run_append, run_number, Option.bind_some,
      run_cons, hend]
    simp
  | cons next numbers ih =>
    -- A semicolon closes this number, and the next one starts at zero again.
    have hseparator : step ⟨pen, .parameters complete n, shown⟩ ';'
        = some ⟨pen, .parameters (complete ++ [n]) 0, shown⟩ := rfl
    rw [List.map_cons, List.map_cons, List.intercalate_cons_cons, ← List.map_cons,
      List.append_assoc, List.append_assoc, run_append, run_number, Option.bind_some,
      List.singleton_append, run_cons, hseparator, Option.bind_some, ih]
    simp

/-- An escape sequence changes the pen as its parameters say. -/
theorem run_sequence (pen : Pen) (shown : List (Char × Pen)) {numbers : List Nat}
    (nonempty : numbers ≠ []) :
    run ⟨pen, .text, shown⟩ (Command.sequence numbers)
      = (pen.apply numbers).map fun pen => ⟨pen, .text, shown⟩ := by
  cases numbers with
  | nil => exact absurd rfl nonempty
  | cons n numbers => exact run_parameters pen shown [] n numbers

/-! ### Commands -/

end Terminal

/-- What a command does to the pen. -/
def Command.penAfter (pen : Pen) : Command → Pen
  | .foreground color => { pen with foreground := some (.ofColor color) }
  | .background color => { pen with background := some (.ofColor color) }
  | .enable .bold => { pen with bold := true }
  | .enable .italic => { pen with italic := true }
  | .enable .underline => { pen with underline := true }
  | .resetAttributes => .default
  | .resetColors => .default
  | .print _ => pen

/-- Whether a command shows nothing. -/
def Command.isSilent : Command → Bool
  | .print _ => false
  | _ => true

namespace Terminal

/-- The written form of a command that shows nothing does what the command says. -/
theorem run_text_of_silent (pen : Pen) (shown : List (Char × Pen)) {command : Command}
    (silent : command.isSilent = true) :
    run ⟨pen, .text, shown⟩ (command.text .direct)
      = some ⟨command.penAfter pen, .text, shown⟩ := by
  cases command with
  -- A color is one sequence with five parameters, and a reset one with a single zero.
  | foreground color => exact run_sequence pen shown (by simp)
  | background color => exact run_sequence pen shown (by simp)
  | enable attr =>
    rw [Command.text, run_sequence pen shown (by simp)]
    cases attr <;> rfl
  | resetAttributes => exact run_sequence pen shown (by simp)
  | resetColors => exact run_sequence pen shown (by simp)
  | print text => simp [Command.isSilent] at silent

/-- So does that of several. -/
theorem run_spell_of_silent (pen : Pen) (shown : List (Char × Pen)) {commands : List Command}
    (silent : ∀ command ∈ commands, command.isSilent = true) :
    run ⟨pen, .text, shown⟩ (commands.flatMap (Command.text .direct))
      = some ⟨commands.foldl Command.penAfter pen, .text, shown⟩ := by
  induction commands generalizing pen with
  | nil => rfl
  | cons command commands ih =>
    have hfirst := silent command (List.mem_cons_self ..)
    rw [List.flatMap_cons, run_append, run_text_of_silent pen shown hfirst, Option.bind_some]
    exact ih _ fun later hmem => silent later (List.mem_cons_of_mem command hmem)

/-! ### Erasing escape sequences -/

/-- A text without its escape sequences, each of which ends in the letter `m`.  The text may start
in the middle of one. -/
def erase (inside : Bool) : Text → Text
  | [] => []
  | c :: text =>
    if inside then erase (c ≠ 'm') text
    else if c = '\x1b' then erase true text
    else c :: erase false text

/-- A step shows the character that it reads, or erases it. -/
theorem map_fst_shown_of_step {t next : Terminal} {c : Char} (read : t.step c = some next)
    (text : Text) :
    next.shown.map Prod.fst ++ erase (next.phase ≠ .text) text
      = t.shown.map Prod.fst ++ erase (t.phase ≠ .text) (c :: text) := by
  -- What the rest of the text shows depends only on whether the terminal is in a sequence.
  obtain ⟨pen, phase, shown⟩ := t
  cases phase with
  | text =>
    by_cases hescape : c = '\x1b'
    · -- An escape character is not shown, and neither is what follows up to the letter.
      obtain rfl : _ = next := by simpa [step, hescape] using read
      simp [erase, hescape]
    · obtain rfl : _ = next := by simpa [step, hescape] using read
      simp [erase, hescape]
  | escape =>
    by_cases hbracket : c = '['
    · obtain rfl : _ = next := by simpa [step, hbracket] using read
      simp [erase, hbracket]
    · simp [step, hbracket] at read
  | parameters complete current =>
    -- The letter that ends a sequence is erased with it, and text follows.
    by_cases hend : c = 'm'
    · subst hend
      have happly : step ⟨pen, .parameters complete current, shown⟩ 'm'
          = (pen.apply (complete ++ [current])).map fun pen => ⟨pen, .text, shown⟩ := rfl
      rw [happly, Option.map_eq_some_iff] at read
      obtain ⟨after, -, rfl⟩ := read
      simp [erase]
    · unfold step at read
      dsimp only at read
      rw [if_neg hend] at read
      split at read
      · obtain rfl := Option.some.inj read
        simp [erase, hend]
      split at read
      · obtain rfl := Option.some.inj read
        simp [erase, hend]
      · simp at read

/-- What is shown is the text without its escape sequences. -/
theorem map_fst_shown_of_run {t after : Terminal} {text : Text} (read : t.run text = some after) :
    after.shown.map Prod.fst = t.shown.map Prod.fst ++ erase (t.phase ≠ .text) text := by
  induction text generalizing t with
  | nil =>
    obtain rfl : t = after := by simpa using read
    simp [erase]
  | cons c text ih =>
    rw [run_cons, Option.bind_eq_some_iff] at read
    obtain ⟨next, hstep, hrest⟩ := read
    rw [ih hrest, map_fst_shown_of_step hstep]

end Terminal

end Highlighting
