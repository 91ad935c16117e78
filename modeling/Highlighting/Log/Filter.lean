import Highlighting.Log.Basic
import Highlighting.Regex.Parser

/-!
# Log filters

A filter decides which log events are shown.  It is a list of **directives** with commas between
them, each a target, a level, or both:

* `debug` — everything up to that level;
* `shcat::theme` — everything from targets that start so;
* `shcat=warn` — events of such targets up to that level; an empty level means every level.

Between target and level a directive may name a span, a field, or both: `shcat[span{field}]=warn`.
This program opens no spans, and its events have a single field, `message`.  So a directive about a
span is about no event, and neither is one that asks for another field, or for a value.

For an event the directive with the *longest* matching target decides, whatever its level; of those
one that names the field before one that does not, and of several with the same target and field the
last one.  Nothing is shown when no directive matches.  A filter without any directive shows errors
only.
-/

namespace Highlighting

/-- Up to which level events are shown: `none` shows nothing. -/
abbrev LevelLimit := Option LogLevel

/-- What a directive asks of a field: its name, and perhaps a value. -/
structure FieldTest where
  name : Text
  valued : Bool
  deriving Repr, DecidableEq

/-- Events of targets that start with `target` are shown up to `limit`. -/
structure Directive where
  target : Option Text
  /-- The span that the directive is about. -/
  span : Option Text
  field : Option FieldTest
  limit : LevelLimit
  deriving Repr, DecidableEq

/-- A filter: its directives, in the order in which they were written. -/
abbrev LogFilter := List Directive

namespace LogFilter

/-! ### Levels and fields -/

/-- Reads a number: a sign at most, and digits. -/
def readNumber (t : Text) : Option Nat :=
  let digits := if t.head? = some '+' then t.drop 1 else t
  if digits.isEmpty ∨ !digits.all Char.isDigit then none
  else some (digits.foldl (fun n c => 10 * n + (c.toNat - 48)) 0)

/-- Reads a level, by name in any letter case or by number. -/
def readLevel (t : Text) : Option LevelLimit :=
  match readNumber t, String.ofList t.asciiLower with
  | some 0, _ | none, "off" => some none
  | some 1, _ | none, "error" => some (some .error)
  | some 2, _ | none, "warn" => some (some .warn)
  | some 3, _ | none, "info" => some (some .info)
  | some 4, _ | none, "debug" => some (some .debug)
  | some 5, _ | none, "trace" => some (some .trace)
  | _, _ => none

/-- Reads what follows an equals sign. -/
def readLimit (t : Text) : Option LevelLimit :=
  if t.isEmpty then some (some .trace) else readLevel t

/-- Whether a text is a decimal fraction without a sign, or a name for what is no number. -/
def isFraction (t : Text) : Bool :=
  let (whole, rest) := (t.takeWhile Char.isDigit, t.dropWhile Char.isDigit)
  let (part, rest) := match rest with
    | '.' :: rest => (rest.takeWhile Char.isDigit, rest.dropWhile Char.isDigit)
    | rest => ([], rest)
  let exponent := match rest with
    | [] => true
    | e :: '+' :: digits | e :: '-' :: digits | e :: digits =>
      (e == 'e' || e == 'E') && !digits.isEmpty && digits.all Char.isDigit
  (!(whole ++ part).isEmpty && exponent) ||
    ["inf", "infinity", "nan"].contains (String.ofList t.asciiLower)

/-- Whether a text can be asked for as the value of a field: as a number, or as a pattern. -/
def isValue (t : Text) : Bool :=
  (t.head? == some '+' && isFraction (t.drop 1)) || (Regex.parse? t).any (·.isPlain [])

/-- Reads a test of a field: a name, and perhaps an equals sign and a value. -/
def readField (t : Text) : Option FieldTest :=
  match t.splitOnP (· == '=') with
  | [] | [[]] => none
  | [name] => some ⟨name, false⟩
  | name :: value :: _ => if isValue value then some ⟨name, true⟩ else none

/-! ### Directives -/

/-- The part of a directive that is being read, and its text so far. -/
inductive DirectivePart
  | start
  | levelOrTarget (t : Text)
  | span (t : Text)
  | field (t : Text)
  | afterField
  | afterSpan
  | level (t : Text)
  deriving Repr, DecidableEq

/-- What has been read of a directive. -/
structure DirectiveReader where
  part : DirectivePart
  target : Option Text
  span : Option Text
  field : Option FieldTest
  deriving Repr, DecidableEq

namespace DirectiveReader

/-- Whether a character may start a directive, other than with a span. -/
def mayStart (c : Char) : Bool := c == '-' || c == ':' || c == '_' || isAlphanumeric c

/-- Reads one character.  `c` tells where the part ends, and `kept` belongs to its text. -/
def read (reader : DirectiveReader) (c kept : Char) : Option DirectiveReader :=
  let goOn := fun part => some { reader with part }
  match reader.part with
  | .start => if c = '[' then goOn (.span []) else if mayStart c then goOn (.levelOrTarget [kept])
    else none
  | .levelOrTarget t =>
    if c = '=' then some { reader with part := .level [], target := some t }
    else if c = '[' then some { reader with part := .span [], target := some t }
    else goOn (.levelOrTarget (t ++ [kept]))
  | .span t =>
    if c = ']' then some { reader with part := .afterSpan, span := some t }
    else if c = '\x7b' then
      some { reader with part := .field [], span := if t.isEmpty then none else some t }
    else goOn (.span (t ++ [kept]))
  | .field t =>
    if c = '\x7d' then do
      let field ← readField t
      pure { reader with part := .afterField, field := some field }
    else goOn (.field (t ++ [kept]))
  | .afterField => if c = ']' then goOn .afterSpan else none
  | .afterSpan => if c = '=' then goOn (.level []) else none
  | .level t => goOn (.level (t ++ [kept]))

/-- The directive that has been read, with `rest` added to the text of the last part. -/
def finish (reader : DirectiveReader) (rest : Text) : Option Directive :=
  let directive := fun target limit => some ⟨target, reader.span, reader.field, limit⟩
  match reader.part with
  | .levelOrTarget t =>
    match readLevel (t ++ rest) with
    | some limit => directive none limit
    | none => directive (some (t ++ rest)) (some .trace)
  | .afterSpan => directive reader.target (some .trace)
  | .level t => (readLimit (t ++ rest)).bind (directive reader.target)
  | _ => none

end DirectiveReader

/-- Reads one directive.  Its signs are looked for without the white space around it, but its texts
are taken from the same places with the white space, and so are spoiled by it: no level and no
target of this program has any. -/
def readDirective (t : Text) : Option Directive := do
  let signs := t.trim
  let reader ← (signs.zip t).foldlM (fun reader (c, kept) => reader.read c kept)
    (⟨.start, none, none, none⟩ : DirectiveReader)
  reader.finish (t.drop signs.length)

/-! ### Filters -/

/-- What is shown when the filter has no directive. -/
def errorsOnly : LogFilter := [⟨none, none, none, some .error⟩]

/-- What is shown when no filter is given, or none that can be read. -/
def warnings : LogFilter := [⟨none, none, none, some .warn⟩]

/-- Reads a filter. -/
def parse? (t : Text) : Option LogFilter := do
  let directives ← ((t.splitOnP (· == ',')).filter (!·.isEmpty)).mapM readDirective
  if directives.isEmpty then pure errorsOnly else pure directives

/-- The filter of an environment variable, or warnings. -/
def ofVariable (value : Option Text) : LogFilter := (value.bind parse?).getD warnings

/-- The only field that events have. -/
def messageField : Text := "message".toList

/-- Whether a directive is about events of a target. -/
def covers (directive : Directive) (target : Text) : Bool :=
  directive.span.isNone && directive.field.all (fun field => field == ⟨messageField, false⟩) &&
    (directive.target.getD []).isPrefixOf target

/-- How special a directive is: by the length of its target, where no target is less than any, and
then by whether it names a field. -/
def specificity (directive : Directive) : Nat :=
  let field := if directive.field.isSome then 1 else 0
  match directive.target with
  | none => field
  | some target => 2 * (target.length + 1) + field

/-- The deciding directive for a target: the most special one, and the last of those. -/
def deciding (filter : LogFilter) (target : Text) : Option Directive :=
  (filter.filter (covers · target)).foldl
    (fun best directive =>
      match best with
      | none => some directive
      | some other => if specificity directive < specificity other then best else some directive)
    none

/-- Whether an event is shown. -/
def shows (filter : LogFilter) (event : LogEvent) : Bool :=
  match (deciding filter event.target.toList).bind (·.limit) with
  | some limit => event.level.rank ≤ limit.rank
  | none => false

end LogFilter

end Highlighting
