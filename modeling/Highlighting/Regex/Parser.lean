import Highlighting.Regex.Basic
import Highlighting.Regex.CharClass

/-!
# Reading regular expressions

The written form: `|` between alternatives, parentheses for groups, `*`, `+`, `?` and braces for
repetition with a further `?` for the lazy form and a `+` for the atomic one, classes in brackets,
and escapes with a backslash.  A brace that does not open a repetition stands for itself.

Flags change how what follows is read.  `(?i)` sets flags from there on, even past the end of the
group around it; only `(?i:…)` takes them back, and with them all that were set inside.

* `i` ignores case.
* `m` lets `^` and `$` hold at every line feed.
* `s` lets the dot match line feeds.
* `U` makes repetitions lazy and those with a `?` greedy.
* `x` skips spaces, tabs, line ends and comments between items and around the signs of a repetition.

A comment `(?#…)` is skipped with every flag.

Reading is by recursive descent.  Every call goes down one level of `fuel`; a level is either a
character further on or one step from alternatives to sequences to single items, so four levels per
character are enough.
-/

namespace Highlighting.Regex

/-- How expressions are read. -/
structure Flags where
  ignoreCase : Bool
  eachLine : Bool
  dotAll : Bool
  lazyFirst : Bool
  extended : Bool
  deriving Repr, DecidableEq

/-- What is left to read, how many groups have been opened, those that have names, and the flags in
force. -/
structure Reader where
  rest : Text
  groups : Nat
  names : List (Text × Nat)
  flags : Flags
  deriving Repr, DecidableEq

namespace Reader

/-- Goes on reading at another place. -/
def movedTo (reader : Reader) (rest : Text) : Reader := { reader with rest }

/-- Opens a group. -/
def opened (reader : Reader) : Reader := { reader with groups := reader.groups + 1 }

/-- Gives the group that was opened last a name. -/
def named (reader : Reader) (name : Text) : Reader :=
  { reader with names := (name, reader.groups) :: reader.names }

end Reader

/-! ### Blanks -/

/-- Skips a comment after its opening sign; a backslash hides the character after it. -/
def skipComment : Text → Text
  | ')' :: t => t
  | '\\' :: _ :: t => skipComment t
  | _ :: t => skipComment t
  | [] => []

/-- Skips what means nothing. -/
def skipBlanks (extended : Bool) : Nat → Text → Text
  | 0, t => t
  | fuel + 1, t =>
    match t with
    | '(' :: '?' :: '#' :: t => skipBlanks extended fuel (skipComment t)
    | c :: rest =>
      if extended && c == '#' then skipBlanks extended fuel (rest.dropWhile (· != '\n'))
      else if extended && (c == ' ' || c == '\t' || c == '\r' || c == '\n') then
        skipBlanks extended fuel rest
      else t
    | [] => []

/-- Skips what means nothing under the flags. -/
def skipped (flags : Flags) (t : Text) : Text := skipBlanks flags.extended (t.length + 1) t

/-- Skips what means nothing. -/
def Reader.skip (reader : Reader) : Reader := reader.movedTo (skipped reader.flags reader.rest)

/-! ### Repetitions -/

/-- Reads the bounds of a repetition after its opening brace, if they are bounds.  A missing lower
bound before a comma is zero, and a missing upper bound after one is none. -/
def readBounds (flags : Flags) (t : Text) : Option (Nat × Option Nat × Text) :=
  let (least, t) := readDecimal (skipped flags t)
  match skipped flags t with
  | '\x7d' :: t => least.map fun n => (n, some n, t)
  | ',' :: t =>
    let (most, t) := readDecimal (skipped flags t)
    match skipped flags t with
    | '\x7d' :: t => some (least.getD 0, most, t)
    | _ => none
  | _ => none

/-- The bounds of the repetition that stands first, if one does. -/
def readRepetition (flags : Flags) : Text → Option (Nat × Option Nat × Text)
  | '*' :: t => some (0, none, t)
  | '+' :: t => some (1, none, t)
  | '?' :: t => some (0, some 1, t)
  | '\x7b' :: t => readBounds flags t
  | _ => none

/-- Repeats an item as often as the text after it says. -/
def repeated (item : Regex) (reader : Reader) : Regex × Reader :=
  let reader := reader.skip
  let flags := reader.flags
  match readRepetition flags reader.rest with
  | none => (item, reader)
  | some (least, most, t) =>
    let (marked, t) := match skipped flags t with
      | '?' :: t => (true, t)
      | t => (false, t)
    let item := loop item least most (marked == flags.lazyFirst)
    match t with
    | '+' :: t => (atomic item, reader.movedTo t)
    | t => (item, reader.movedTo t)

/-! ### Items -/

/-- The expression for one literal character. -/
def literal (flags : Flags) (c : Char) : Regex :=
  one (if flags.ignoreCase then .upToCase (foldCodePoint c.toNat) else .exactly c)

/-- A reference to a group. -/
def reference (flags : Flags) (index : Nat) : Regex := again index flags.ignoreCase

/-- Reads a name and the sign that ends it. -/
def readName (stop : Char) (t : Text) : Option (Text × Text) :=
  match t.dropWhile (· != stop) with
  | _ :: rest => some (t.takeWhile (· != stop), rest)
  | [] => none

/-- Reads the name of a group, and makes a reference to that group. -/
def readNamedReference (reader : Reader) (stop : Char) (t : Text) : Option (Regex × Reader) := do
  let (name, t) ← readName stop t
  let index ← match reader.names.lookup name with
    | some index => some index
    | none => (readDecimal name).1
  pure (reference reader.flags index, reader.movedTo t)

/-- Reads what follows a backslash outside a class. -/
def readItemEscape (reader : Reader) (t : Text) : Option (Regex × Reader) :=
  let condition := fun c t => some (holds c, reader.movedTo t)
  match t with
  | 'b' :: t => condition .wordEdge t
  | 'B' :: t => condition .notWordEdge t
  | '<' :: t => condition .wordStart t
  | '>' :: t => condition .wordEnd t
  | 'A' :: t => condition .textStart t
  | 'z' :: t => condition .textEnd t
  | 'G' :: t => condition .searchStart t
  | 'Z' :: t =>
    let lineFeeds := loop (one (.exactly '\n')) 0 none true
    some (ahead (ofItems [lineFeeds, holds .textEnd]) false, reader.movedTo t)
  | 'K' :: t => some (keep, reader.movedTo t)
  | 'O' :: t => some (one (.within .anything false), reader.movedTo t)
  | 'k' :: '<' :: t => readNamedReference reader '>' t
  | 'k' :: '\'' :: t => readNamedReference reader '\'' t
  | t =>
    match readDecimal t with
    | (some index, t) => some (reference reader.flags index, reader.movedTo t)
    | (none, t) =>
      match readEscape t with
      | some (.char c, t) => some (literal reader.flags c, reader.movedTo t)
      | some (.set s, t) => some (one (.within s reader.flags.ignoreCase), reader.movedTo t)
      | none => none

/-- Reads flags up to a colon or a closing parenthesis; those after a hyphen are switched off. -/
def readFlags (extended on : Bool) (flags : Flags) (fuel : Nat) (t : Text) :
    Option (Flags × Char × Text) :=
  match fuel with
  | 0 => none
  | fuel + 1 =>
    let again := fun flags t => readFlags flags.extended on flags fuel t
    match skipBlanks extended (t.length + 1) t with
    | 'i' :: t => again { flags with ignoreCase := on } t
    | 'm' :: t => again { flags with eachLine := on } t
    | 's' :: t => again { flags with dotAll := on } t
    | 'U' :: t => again { flags with lazyFirst := on } t
    | 'x' :: t => again { flags with extended := on } t
    | 'u' :: t => again flags t
    | '-' :: t => readFlags extended false flags fuel t
    | ':' :: t => some (flags, ':', t)
    | ')' :: t => some (flags, ')', t)
    | _ => none

/-- What a parenthesis makes of what it holds. -/
structure Opening where
  wrap : Regex → Regex
  reader : Reader

/-- A branch, where the alternatives of what follows the test are its two parts.  If both of them
are empty, nothing is left but the test. -/
def branchOn (test : Regex) : Regex → Regex
  | empty => test
  | alt empty empty => test
  | alt yes no => branch test yes no
  | yes => branch test yes empty

/-- Reads the signs after an opening parenthesis, other than flags and tests. -/
def readOpening (reader : Reader) : Option Opening :=
  let capturing := fun (reader : Reader) => some ⟨group reader.groups, reader⟩
  let capturingAs := fun (t : Text) => do
    let (name, t) ← readName '>' t
    capturing ((reader.movedTo t).opened.named name)
  match reader.rest with
  | '?' :: '=' :: t => some ⟨(ahead · false), reader.movedTo t⟩
  | '?' :: '!' :: t => some ⟨(ahead · true), reader.movedTo t⟩
  | '?' :: '<' :: '=' :: t => some ⟨lookingBehind false, reader.movedTo t⟩
  | '?' :: '<' :: '!' :: t => some ⟨lookingBehind true, reader.movedTo t⟩
  | '?' :: '>' :: t => some ⟨atomic, reader.movedTo t⟩
  | '?' :: '<' :: t => capturingAs t
  | '?' :: 'P' :: '<' :: t => capturingAs t
  | '?' :: _ => none
  | _ => capturing reader.opened

mutual

/-- Reads alternatives up to a closing parenthesis or the end. -/
def readAlternatives (fuel : Nat) (reader : Reader) : Option (Regex × Reader) :=
  match fuel with
  | 0 => none
  | fuel + 1 => do
    let (items, reader) ← readItems fuel reader
    match reader.rest with
    | '|' :: t =>
      let (second, reader) ← readAlternatives fuel (reader.movedTo t)
      pure (alt (ofItems items) second, reader)
    | _ => pure (ofItems items, reader)

/-- Reads items up to a bar, a closing parenthesis or the end. -/
def readItems (fuel : Nat) (reader : Reader) : Option (List Regex × Reader) :=
  match fuel with
  | 0 => none
  | fuel + 1 =>
    let reader := reader.skip
    match reader.rest with
    | [] | '|' :: _ | ')' :: _ => some ([], reader)
    | _ => do
      let (item, reader) ← readItem fuel reader
      let (item, reader) := repeated item reader
      let (others, reader) ← readItems fuel reader
      pure (if item = empty then others else item :: others, reader)

/-- Reads one item. -/
def readItem (fuel : Nat) (reader : Reader) : Option (Regex × Reader) :=
  match fuel, reader.rest with
  | 0, _ | _, [] => none
  | fuel + 1, '(' :: t => readParenthesis fuel (reader.movedTo t).skip
  | _, '[' :: t => do
    let (set, t) ← readClass t
    pure (one (.within set reader.flags.ignoreCase), reader.movedTo t)
  | _, '.' :: t =>
    let set := if reader.flags.dotAll then CharSet.anything else CharSet.notLineFeed
    some (one (.within set false), reader.movedTo t)
  | _, '^' :: t =>
    some (holds (if reader.flags.eachLine then .lineStart else .textStart), reader.movedTo t)
  | _, '$' :: t =>
    some (holds (if reader.flags.eachLine then .lineEnd else .textEnd), reader.movedTo t)
  | _, '\\' :: t => readItemEscape reader t
  | _, '*' :: _ | _, '+' :: _ | _, '?' :: _ => none
  | _, c :: t => some (literal reader.flags c, reader.movedTo t)

/-- Reads what follows an opening parenthesis, and its closing one. -/
def readParenthesis (fuel : Nat) (reader : Reader) : Option (Regex × Reader) :=
  match fuel with
  | 0 => none
  | fuel + 1 =>
    match readOpening reader, reader.rest with
    | some opening, _ => do
      let (body, after) ← readAlternatives fuel opening.reader
      match after.rest with
      | ')' :: t => pure (opening.wrap body, after.movedTo t)
      | _ => none
    | none, '?' :: 'P' :: '=' :: t => readNamedReference reader ')' t
    | none, '?' :: '(' :: t => do
      let (test, reader) ← match t with
        | '<' :: t => readNamedReference reader '>' t
        | t =>
          match readDecimal t with
          | (some index, t) => some (again index false, reader.movedTo t)
          | (none, t) => readAlternatives fuel (reader.movedTo t)
      let (test, standsAlone) := match test with
        | again index _ => (begun index, true)
        | test => (test, false)
      match reader.rest with
      | ')' :: t => do
        let (body, after) ← readAlternatives fuel (reader.movedTo t)
        match after.rest with
        | ')' :: u =>
          if t.length = after.rest.length && !standsAlone then none
          else pure (branchOn test body, after.movedTo u)
        | _ => none
      | _ => none
    | none, t => do
      let flags := reader.flags
      let (inner, stop, t) ← readFlags flags.extended true flags (t.length + 1) (t.drop 1)
      let reader := { reader.movedTo t with flags := inner }
      if stop = ')' then pure (empty, reader)
      else
        let (body, after) ← readAlternatives fuel reader
        match after.rest with
        | ')' :: t => pure (body, { after.movedTo t with flags })
        | _ => none

end

/-- Reads a whole expression. -/
def parse? (t : Text) : Option Regex := do
  let reader : Reader := ⟨t, 0, [], ⟨false, false, false, false, false⟩⟩
  let (r, reader) ← readAlternatives (4 * t.length + 4) reader
  if reader.rest.isEmpty then some r else none

end Highlighting.Regex
