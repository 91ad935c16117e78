import Highlighting.Grammar.Context
import Highlighting.Token.Tokenizer
import Std.Data.HashMap

/-!
# Scanning lines with a grammar

The scanner keeps a stack of **levels**, each a context that was entered, and goes through a line
from left to right.  At each place it looks for the best match among the patterns of the top
context: the one that starts first, and of several at one place the one that is listed first.  The
match is turned into scope events, the stack changes, and scanning goes on at its end.

## Standing still

A match may take no characters, so two rules keep the scanner from turning in circles.

* A pattern that changes nothing must take something, or it does not count.
* When a context has just been entered without taking anything, a pattern that leaves it at the same
  place *loops*.  Any match that does not loop is preferred to it at the same place, and if there is
  none, the scanner steps over one character.

Contexts are entered up to a depth of `maxDepth` only: at that depth a match that would enter one is
not found.  The other ways of replacing contexts without taking characters can be endless, so the
scanner gives up on a line after `stepsPerCharacter` steps for each of its characters.

## What has been found

A pattern is not searched for again while the match that was found last is still ahead, nor when it
was found to match nowhere in the rest of the line.  This saves time, and it shows in one case: a
match found while the stack was lower may enter a context at a place where the stack has become too
high.  If it is the best match there, the line is done.
-/

namespace Highlighting

/-- A context that was entered, with the patterns that are looked for in it. -/
structure Level where
  context : Context
  patterns : List Pattern
  deriving Inhabited

namespace Level

/-- Enters a context by a match whose groups took the given texts. -/
def enter (groupText : Nat → Text) (context : Context) : Level where
  context := context
  patterns :=
    if context.refersBack then context.patterns.map (·.filledIn groupText) else context.patterns

end Level

/-- A line made ready for scanning: its characters, and the byte offset of each and of the end. -/
structure ScanLine where
  characters : Array Char
  offsets : Array Nat

namespace ScanLine

/-- A line with the line feed that patterns expect at its end. -/
def ofText (line : Text) : ScanLine where
  characters := (line ++ ['\n']).toArray
  offsets := ((line ++ ['\n']).foldl
    (fun (offset, offsets) c => (offset + c.utf8Size, offsets.push (offset + c.utf8Size)))
    (0, #[0])).2

/-- The byte offset of a character position. -/
def offset (line : ScanLine) (position : Nat) : Nat := line.offsets[position]?.getD 0

/-- The text between two character positions. -/
def between (line : ScanLine) (start stop : Nat) : Text :=
  (line.characters.extract start stop).toList

/-- Changes of the scope stack at a character position. -/
def eventsAt (line : ScanLine) (position : Nat) (ops : List ScopeOp) : List ScopeEvent :=
  ops.map (⟨line.offset position, ·⟩)

end ScanLine

/-- A match of a pattern. -/
structure Hit where
  start : Nat
  stop : Nat
  marks : Marks
  pattern : Pattern
  /-- Whether it would leave a context that was entered at this place. -/
  loops : Bool

namespace Hit

/-- The text that a group took, or nothing. -/
def groupText (hit : Hit) (line : ScanLine) (index : Nat) : Text :=
  match hit.marks.group? index with
  | some (start, stop) => line.between start stop
  | none => []

/-- Whether a match is better than the best one before it. -/
def beats (hit : Hit) (best : Option Hit) : Bool :=
  best.all fun best => hit.start < best.start || (hit.start == best.start && best.loops)

end Hit

/-- What is known about the patterns of a grammar from earlier searches in the line: the match that
was found last, or that there is none any more. -/
abbrev Findings := Std.HashMap PatternId (Option Marks)

namespace Grammar

/-- How deep contexts may be entered. -/
def maxDepth : Nat := 100

/-- How many steps a line may take for each of its characters. -/
def stepsPerCharacter : Nat := 4096

/-! ### Finding the best match -/

/-- Whether a match counts at all: one that changes nothing must take something, and contexts are
not entered too deep. -/
def counts (depth : Nat) (transition : Transition) (start stop : Nat) : Bool :=
  match transition with
  | .stay => start != stop
  | .push _ => depth < maxDepth
  | _ => true

/-- The first match of a pattern at or after a position, if it counts, and what is known
afterwards.  A match that was found before is not looked at again. -/
def firstMatch (line : ScanLine) (depth position : Nat) (findings : Findings) (pattern : Pattern) :
    Option Marks × Findings :=
  let search := fun (_ : Unit) =>
    let found := pattern.searcher.bind (·.search line.characters position)
    let counted := found.filter fun marks =>
      (marks.group? 0).all fun (start, stop) => counts depth pattern.transition start stop
    match pattern.id with
    | some id =>
      (counted, if counted.isSome ∨ found.isNone then findings.insert id found else findings)
    | none => (counted, findings)
  match pattern.id.bind (findings[·]?) with
  | some none => (none, findings)
  | some (some marks) =>
    if (marks.group? 0).any fun (start, _) => position ≤ start then (some marks, findings)
    else search ()
  | none => search ()

/-- The match of a pattern that marks tell of. -/
def hitOf (position : Nat) (justEntered : Bool) (pattern : Pattern) (marks : Marks) : Option Hit :=
  (marks.group? 0).map fun (start, stop) =>
    let loops := justEntered && decide (stop ≤ position) && pattern.transition == .pop
    ⟨start, stop, marks, pattern, loops⟩

/-- The best match of the patterns, given the best one before them, and what is known afterwards.
When a match is the best so far that was found before and would enter a context too deep, there is
none. -/
def bestHit (line : ScanLine) (depth position : Nat) (justEntered : Bool) :
    Findings → Option Hit → List Pattern → Option Hit × Findings
  | findings, best, [] => (best, findings)
  | findings, best, pattern :: patterns =>
    let (found, findings) := firstMatch line depth position findings pattern
    match found.bind (hitOf position justEntered pattern) with
    | none => bestHit line depth position justEntered findings best patterns
    | some hit =>
      if !hit.beats best then bestHit line depth position justEntered findings best patterns
      else if depth ≥ maxDepth ∧ pattern.transition matches .push _ then (none, findings)
      -- No later pattern can start earlier than here.
      else if hit.start = position ∧ !hit.loops then (some hit, findings)
      else bestHit line depth position justEntered findings (some hit) patterns

/-! ### Scope events of a match -/

/-- Opens scopes, the first one outermost. -/
def pushAll (scopes : List Scope) : List ScopeOp := scopes.map .push

/-- Closes some scopes, if there are any to close. -/
def popSome (count : Nat) : List ScopeOp := if count = 0 then [] else [.pop count]

/-- Sets scopes aside, if asked to. -/
def clearIf (amount : Option ClearAmount) : List ScopeOp := (amount.map ScopeOp.clear).toList

/-- Puts scopes back when a context that sets some aside is left. -/
def restoreFor (context : Context) : List ScopeOp :=
  if context.clearScopes.isSome then [.restore] else []

/-- The changes before the text of a match, when the transition leads from `top` to `entered`. -/
def opsBefore (top : Context) (entered : List Context) : Transition → List ScopeOp
  | .stay => []
  | .pop => popSome top.metaContentScopes.length
  | .push _ => entered.flatMap fun c => clearIf c.clearScopes ++ pushAll c.metaScopes
  | .set _ => restoreFor top ++ entered.flatMap fun c => pushAll c.metaScopes

/-- The changes after the text of a match. -/
def opsAfter (top : Context) (entered : List Context) : Transition → List ScopeOp
  | .stay => []
  | .pop => popSome top.metaScopes.length ++ restoreFor top
  | .push _ =>
    if entered.any (!·.metaContentScopes.isEmpty) then
      popSome (entered.flatMap (·.metaScopes)).length ++
        entered.flatMap fun c => pushAll c.metaScopes ++ pushAll c.metaContentScopes
    else []
  | .set _ =>
    let own := top.metaScopes.length + top.metaContentScopes.length
    if own ≠ 0 ∨ entered.any (fun c => !c.metaContentScopes.isEmpty || c.clearScopes.isSome) then
      popSome ((entered.flatMap (·.metaScopes)).length + own) ++
        entered.flatMap fun c =>
          clearIf c.clearScopes ++ pushAll c.metaScopes ++ pushAll c.metaContentScopes
    else []

/-- A change inside a match, with the order of changes at one place: scopes close before others
open, and longer groups open before shorter ones. -/
structure GroupOp where
  position : Nat
  rank : Int
  op : ScopeOp

/-- Whether one change comes no later than another. -/
def GroupOp.le (a b : GroupOp) : Bool :=
  a.position < b.position || (a.position == b.position && decide (a.rank ≤ b.rank))

/-- The changes for the groups of a match, in order. -/
def groupOps (line : ScanLine) (hit : Hit) : List GroupOp :=
  let ops := hit.pattern.captures.flatMap fun (index, scopes) =>
    match hit.marks.group? index with
    | none => []
    | some (start, stop) =>
      if start = stop then []
      else
        scopes.map (fun scope => ⟨start, -((stop - start : Nat) : Int), .push scope⟩) ++
          [⟨stop, -((line.characters.size + 1 : Nat) : Int), .pop scopes.length⟩]
  ops.mergeSort GroupOp.le

/-- The scope events of a match. -/
def eventsOf (line : ScanLine) (hit : Hit) (top : Context) (entered : List Context) :
    List ScopeEvent :=
  let transition := hit.pattern.transition
  line.eventsAt hit.start (opsBefore top entered transition) ++
    line.eventsAt hit.start (pushAll hit.pattern.scopes) ++
    (groupOps line hit).flatMap (fun op => line.eventsAt op.position [op.op]) ++
    line.eventsAt hit.stop (popSome hit.pattern.scopes.length) ++
    line.eventsAt hit.stop (opsAfter top entered transition)

/-! ### Going through a line -/

/-- Where scanning stands in a line. -/
structure Scan where
  position : Nat
  /-- The place and depth at which a context was last entered without taking anything. -/
  entered : Nat × Nat
  /-- The levels, top first. -/
  levels : List Level
  findings : Findings
  events : Array ScopeEvent

/-- The levels after a transition. -/
def levelsAfter (levels : List Level) (entered : List Level) : Transition → List Level
  | .stay => levels
  | .push _ => entered.reverse ++ levels
  | .set _ => entered.reverse ++ levels.drop 1
  | .pop => levels.drop 1

/-- The contexts that a transition enters. -/
def entering (grammar : Grammar) : Transition → List Context
  | .push names | .set names => grammar.contextsOf names
  | _ => []

/-- One step: takes the best match, or says that the line is done. -/
def step (grammar : Grammar) (line : ScanLine) (scan : Scan) : Option Scan :=
  match scan.levels with
  | [] => none
  | top :: _ =>
    let depth := scan.levels.length
    let justEntered := scan.entered == (scan.position, depth)
    match bestHit line depth scan.position justEntered scan.findings none top.patterns with
    | (none, _) => none
    | (some hit, findings) =>
      if hit.loops then
        -- Nothing else matches here, so one character is stepped over.
        if scan.position + 1 < line.characters.size then
          some { scan with position := scan.position + 1, findings }
        else none
      else
        let transition := hit.pattern.transition
        let contexts := grammar.entering transition
        let stands := hit.stop ≤ scan.position
        let entered := match transition with
          | .push _ => if stands then (hit.stop, depth + 1) else scan.entered
          | _ => scan.entered
        some {
          position := hit.stop
          entered
          levels :=
            levelsAfter scan.levels (contexts.map (.enter (hit.groupText line))) transition
          findings
          events := scan.events ++ eventsOf line hit top.context contexts }

/-- Goes through a line, for `fuel` steps at most. -/
def scanFrom (grammar : Grammar) (line : ScanLine) : Nat → Scan → Scan
  | 0, scan => scan
  | fuel + 1, scan =>
    match grammar.step line scan with
    | none => scan
    | some scan => scanFrom grammar line fuel scan

/-- Scans a line.  The levels are those left by the line before; there are none before the first
line, which enters the bottom context and opens the scope of the grammar. -/
def scanLine (grammar : Grammar) (line : Text) (levels : Option (List Level)) :
    Except ParsingError (List ScopeEvent × Option (List Level)) :=
  let ready := ScanLine.ofText line
  let fuel := stepsPerCharacter * ready.characters.size
  match levels with
  | some levels =>
    let scan := grammar.scanFrom ready fuel ⟨0, (0, 0), levels, ∅, #[]⟩
    .ok (scan.events.toList, some scan.levels)
  | none =>
    match grammar.contexts.lookup startName with
    | none => .error (.missingContext startId)
    | some start =>
      let opening := #[⟨0, .push grammar.scope⟩]
      let scan := grammar.scanFrom ready fuel ⟨0, (0, 0), [⟨start, start.patterns⟩], ∅, opening⟩
      .ok (scan.events.toList, some scan.levels)

/-- The engine that scans with a grammar. -/
def engine (grammar : Grammar) : GrammarEngine (Option (List Level)) where
  start := none
  parseLine := grammar.scanLine

/-- The state of a grammar's tokenizer. -/
abbrev State := LexerState (Option (List Level))

/-- The tokenizer of a grammar. -/
def tokenizer (grammar : Grammar) : Tokenizer State Unit := grammar.engine.tokenizer grammar.scope

end Grammar

end Highlighting
