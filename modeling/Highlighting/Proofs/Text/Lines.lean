import Highlighting.Text.Basic

/-!
# The lines of a text

A line feed ends a line, and a carriage return in front of it belongs to the terminator.  What
stands behind the last line feed is a line too, unless it is empty, and keeps a carriage return at
its end (`Text.lines`).

Statements about lines, of texts and of bytes alike, follow the pieces between line feeds
(`separatorInduction`): one case for a piece without a line feed, and one for a piece in front of
one.  The equations `*_of_notMem` and `*_append_cons` fit these two cases.

Lines can be put together again.  Their own terminators give a text with just these lines
(`EndedLine.lines_flatMap_written`).  Line feeds give back the text they were taken from if it has
no other terminators (`Text.flatMap_lines_eq_iff`).
-/

namespace Highlighting

/-- A statement about all lists follows the pieces between separators: it has to hold of a list
without a separator, and to pass from what follows the first separator to the whole. -/
@[elab_as_elim]
theorem separatorInduction {α : Type} (separator : α) {motive : List α → Prop}
    (piece : ∀ items, separator ∉ items → motive items)
    (append : ∀ front rest, separator ∉ front → motive rest →
      motive (front ++ separator :: rest)) (items : List α) : motive items := by
  induction hlength : items.length using Nat.strongRecOn generalizing items with
  | ind n ih =>
    by_cases hmem : separator ∈ items
    · obtain ⟨front, rest, rfl, hfront⟩ := List.eq_append_cons_of_mem hmem
      have hlt : rest.length < n := by
        rw [List.length_append, List.length_cons] at hlength
        omega
      exact append front rest hfront (ih _ hlt rest rfl)
    · exact piece items hmem

/-- What has no separator lies in front of the first one. -/
theorem exists_of_append_eq_append_separator {α : Type} {separator : α}
    {chunk items front rest : List α} (clean : separator ∉ chunk)
    (same : chunk ++ items = front ++ separator :: rest) :
    ∃ later, front = chunk ++ later ∧ items = later ++ separator :: rest := by
  rcases List.append_eq_append_iff.1 same with ⟨later, hfront, hitems⟩ | ⟨excess, hchunk, hexcess⟩
  · exact ⟨later, hfront, hitems⟩
  · -- The separator lies in the second list, unless the first one reaches beyond it.
    cases excess with
    | nil => exact ⟨[], by simpa using hchunk.symm, hexcess.symm⟩
    | cons item excess =>
      obtain ⟨rfl, -⟩ := List.cons.inj hexcess
      exact absurd (hchunk ▸ List.mem_append_right front (List.mem_cons_self ..)) clean

/-- The first separator of a list divides it in one way only. -/
theorem append_separator_inj {α : Type} {separator : α} {front rest front' rest' : List α}
    (clean : separator ∉ front) (clean' : separator ∉ front')
    (same : front ++ separator :: rest = front' ++ separator :: rest') :
    front = front' ∧ rest = rest' := by
  obtain ⟨later, rfl, hrest⟩ := exists_of_append_eq_append_separator clean same
  cases later with
  | nil => exact ⟨(List.append_nil front).symm, (List.cons.inj hrest).2⟩
  | cons item later =>
    obtain ⟨rfl, -⟩ := List.cons.inj hrest
    exact absurd (List.mem_append_right front (List.mem_cons_self ..)) clean'

/-- A list with a separator ends in one if what follows the separator is empty or ends in one. -/
theorem getLast?_append_separator_iff {α : Type} {separator : α} (front rest : List α) :
    (front ++ separator :: rest).getLast? = some separator ↔
      rest = [] ∨ rest.getLast? = some separator := by
  cases rest with
  | nil => simp
  | cons item rest => simp [List.getLast?_append, List.getLast?_cons_cons]

/-- Splitting takes off what lies in front of the first separator. -/
theorem splitOn_append_separator {α : Type} [BEq α] [LawfulBEq α] {separator : α} {front : List α}
    (clean : separator ∉ front) (rest : List α) :
    (front ++ separator :: rest).splitOn separator = front :: rest.splitOn separator := by
  rw [List.splitOn_append_cons_of_beq _ _ (beq_self_eq_true _), List.splitOn_eq_singleton clean]
  rfl

namespace Text

/-- A line without the carriage return at its end, if it has one. -/
def withoutReturn (line : Text) : Text :=
  if line.getLast? = some '\r' then line.dropLast else line

/-- The pieces of a text that a line feed ends, each without a carriage return in front of it. -/
def finishedLines (t : Text) : List Text := (t.splitOn '\n').dropLast.map withoutReturn

/-- The piece of a text behind its last line feed. -/
def openLine (t : Text) : Text := (t.splitOn '\n').getLast (List.splitOn_ne_nil _ _)

/-- The lines of a text: its finished lines, and the open one unless it is empty. -/
def lines (t : Text) : List Text :=
  t.finishedLines ++ if t.openLine = [] then [] else [t.openLine]

/-- A carriage return at the end is taken off, but only one. -/
theorem withoutReturn_of_return (line : Text) : withoutReturn (line ++ ['\r']) = line := by
  rw [withoutReturn, if_pos List.getLast?_concat, List.dropLast_concat]

/-- Any other line stays as it is. -/
theorem withoutReturn_of_ne {line : Text} (other : line.getLast? ≠ some '\r') :
    line.withoutReturn = line :=
  if_neg other

/-! ### Splitting -/

/-- Without a line feed no line is finished, -/
theorem finishedLines_of_notMem {t : Text} (clean : '\n' ∉ t) : t.finishedLines = [] := by
  rw [finishedLines, List.splitOn_eq_singleton clean]
  rfl

/-- and the whole text is open. -/
theorem openLine_of_notMem {t : Text} (clean : '\n' ∉ t) : t.openLine = t := by
  simp [openLine, List.splitOn_eq_singleton clean]

/-- The first line feed divides off the first piece. -/
theorem splitOn_append_cons {line : Text} (clean : '\n' ∉ line) (rest : Text) :
    (line ++ '\n' :: rest).splitOn '\n' = line :: rest.splitOn '\n' :=
  splitOn_append_separator clean rest

/-- The piece in front of a line feed is finished, -/
theorem finishedLines_append_cons {line : Text} (clean : '\n' ∉ line) (rest : Text) :
    (line ++ '\n' :: rest).finishedLines = line.withoutReturn :: rest.finishedLines := by
  rw [finishedLines, splitOn_append_cons clean,
    List.dropLast_cons_of_ne_nil (List.splitOn_ne_nil _ _)]
  rfl

/-- and what is open stands behind it. -/
theorem openLine_append_cons {line : Text} (clean : '\n' ∉ line) (rest : Text) :
    (line ++ '\n' :: rest).openLine = rest.openLine := by
  simp only [openLine, splitOn_append_cons clean]
  rw [List.getLast_cons (List.splitOn_ne_nil _ _)]

/-- A text without a line feed is one line, or none if it is empty. -/
theorem lines_of_notMem {t : Text} (clean : '\n' ∉ t) : t.lines = if t = [] then [] else [t] := by
  rw [lines, finishedLines_of_notMem clean, openLine_of_notMem clean, List.nil_append]

/-- The first line feed ends the first line. -/
theorem lines_append_cons {line : Text} (clean : '\n' ∉ line) (rest : Text) :
    (line ++ '\n' :: rest).lines = line.withoutReturn :: rest.lines := by
  rw [lines, finishedLines_append_cons clean, openLine_append_cons clean, List.cons_append]
  rfl

/-- A line has no characters that its piece does not have. -/
theorem withoutReturn_sublist (line : Text) : line.withoutReturn.Sublist line := by
  unfold withoutReturn
  split
  · exact List.dropLast_sublist line
  · exact List.Sublist.refl line

/-- No line contains a line feed. -/
theorem lineFeed_notMem_of_mem_lines {t line : Text} (mem : line ∈ t.lines) : '\n' ∉ line := by
  induction t using separatorInduction '\n' with
  | piece t clean =>
    rw [lines_of_notMem clean] at mem
    split at mem
    · simp at mem
    · exact List.mem_singleton.1 mem ▸ clean
  | append front rest clean ih =>
    rw [lines_append_cons clean, List.mem_cons] at mem
    rcases mem with rfl | hrest
    · exact fun hmem => clean ((withoutReturn_sublist front).subset hmem)
    · exact ih hrest

/-! ### A line feed behind every line -/

/-- A piece is its own line unless a carriage return is taken off. -/
theorem withoutReturn_eq_iff {line : Text} :
    line.withoutReturn = line ↔ line.getLast? ≠ some '\r' := by
  constructor
  · rintro hsame hlast
    obtain ⟨front, rfl⟩ := List.getLast?_eq_some_iff.1 hlast
    rw [withoutReturn_of_return] at hsame
    simpa using congrArg List.length hsame
  · exact withoutReturn_of_ne

/-- A carriage return meets a line feed at the first line feed or behind it. -/
theorem return_lineFeed_infix_iff {line : Text} (clean : '\n' ∉ line) (rest : Text) :
    ['\r', '\n'] <:+: line ++ '\n' :: rest ↔
      line.getLast? = some '\r' ∨ ['\r', '\n'] <:+: rest := by
  constructor
  · rintro ⟨front, behind, hwhole⟩
    -- The line feed of the pair is the first one of the text, or a later one.
    by_cases hmem : '\n' ∈ front
    · obtain ⟨first, later, rfl, hfirst⟩ := List.eq_append_cons_of_mem hmem
      have hsplit : first ++ '\n' :: (later ++ ['\r', '\n'] ++ behind) = line ++ '\n' :: rest := by
        rw [← hwhole]
        simp
      exact .inr ⟨later, behind, (append_separator_inj hfirst clean hsplit).2⟩
    · have hfront : '\n' ∉ front ++ ['\r'] := by simp [hmem]
      have hsplit : (front ++ ['\r']) ++ '\n' :: behind = line ++ '\n' :: rest := by
        rw [← hwhole]
        simp
      rw [← (append_separator_inj hfront clean hsplit).1]
      exact .inl List.getLast?_concat
  · rintro (hlast | hrest)
    · obtain ⟨front, rfl⟩ := List.getLast?_eq_some_iff.1 hlast
      exact ⟨front, rest, by simp⟩
    · exact hrest.trans (List.suffix_append_of_suffix (List.suffix_cons '\n' rest)).isInfix

/-- Line feeds behind all lines of a text give it back if it ends in a line feed and has no other
terminators. -/
theorem flatMap_lines_eq_iff (t : Text) :
    t.lines.flatMap (· ++ ['\n']) = t ↔
      (t = [] ∨ t.getLast? = some '\n') ∧ ¬['\r', '\n'] <:+: t := by
  induction t using separatorInduction '\n' with
  | piece t clean =>
    rw [lines_of_notMem clean]
    by_cases hempty : t = []
    · simp [hempty]
    · -- The line feed that is put behind an open line was not there before.
      have hlast : t.getLast? ≠ some '\n' := fun h => clean (List.mem_of_getLast? h)
      simp [hempty, hlast]
  | append line rest clean ih =>
    have hclean : '\n' ∉ withoutReturn line :=
      fun hmem => clean ((withoutReturn_sublist line).subset hmem)
    -- Putting the lines together again gives the text back if it does so for the first line and for
    -- the rest.
    have hlines : (lines (line ++ '\n' :: rest)).flatMap (· ++ ['\n']) = line ++ '\n' :: rest ↔
        withoutReturn line = line ∧ (lines rest).flatMap (· ++ ['\n']) = rest := by
      rw [lines_append_cons clean, List.flatMap_cons, List.append_assoc, List.singleton_append]
      constructor
      · exact append_separator_inj hclean clean
      · rintro ⟨hline, hrest⟩
        rw [hline, hrest]
    have hends : (line ++ '\n' :: rest = [] ∨ (line ++ '\n' :: rest).getLast? = some '\n') ↔
        (rest = [] ∨ rest.getLast? = some '\n') := by
      rw [getLast?_append_separator_iff, or_iff_right (by simp)]
    rw [hlines, hends, ih, withoutReturn_eq_iff, return_lineFeed_infix_iff clean, not_or]
    exact and_left_comm

end Text

/-! ### Lines and their terminators -/

/-- What ends a line. -/
inductive Terminator
  | lineFeed
  | returnLineFeed
  deriving Repr, DecidableEq

/-- The characters of a terminator. -/
def Terminator.text : Terminator → Text
  | .lineFeed => ['\n']
  | .returnLineFeed => ['\r', '\n']

/-- A line and what ends it.  A line that ends in a carriage return cannot be ended by a line feed
alone, which would take the carriage return for its own. -/
structure EndedLine where
  text : Text
  terminator : Terminator
  clean : '\n' ∉ text
  apart : terminator = .lineFeed → text.getLast? ≠ some '\r'

/-- The line as it stands in a text. -/
def EndedLine.written (line : EndedLine) : Text := line.text ++ line.terminator.text

/-- Behind an ended line, lines are those of what follows. -/
theorem EndedLine.lines_written_append (line : EndedLine) (rest : Text) :
    (line.written ++ rest).lines = line.text :: rest.lines := by
  obtain ⟨text, terminator, clean, apart⟩ := line
  cases terminator with
  | lineFeed =>
    rw [written, Terminator.text, List.append_assoc, List.singleton_append,
      Text.lines_append_cons clean, Text.withoutReturn_of_ne (apart rfl)]
  | returnLineFeed =>
    have hclean : '\n' ∉ text ++ ['\r'] := by simp [clean]
    -- The piece in front of the line feed ends in the carriage return of the terminator.
    have hwritten : text ++ ['\r', '\n'] ++ rest = (text ++ ['\r']) ++ '\n' :: rest := by simp
    rw [written, Terminator.text, hwritten, Text.lines_append_cons hclean,
      Text.withoutReturn_of_return]

/-- Ended lines, and an open one unless it is empty, are the lines of the text they make up. -/
theorem EndedLine.lines_flatMap_written (ended : List EndedLine) {last : Text}
    (clean : '\n' ∉ last) :
    Text.lines (ended.flatMap written ++ last)
      = ended.map EndedLine.text ++ if last = [] then [] else [last] := by
  induction ended with
  | nil => exact Text.lines_of_notMem clean
  | cons line ended ih =>
    rw [List.flatMap_cons, List.append_assoc, lines_written_append, ih, List.map_cons,
      List.cons_append]

end Highlighting
