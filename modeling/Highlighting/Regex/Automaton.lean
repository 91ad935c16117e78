import Highlighting.Regex.Basic
import Highlighting.Regex.Marks
import Std.Data.HashSet

/-!
# Automata for plain expressions

A plain expression is matched by an automaton that goes through the text character by character.
Where it can go on in two ways it prefers the first, and comes back to the second when the first
turns out not to lead to a match.

A fork that is reached a second time at the same place is given up: what lies behind it has been
tried and has failed.  This is why the time grows only with the product of the sizes of automaton
and text, and why it does not matter whether a round of a repetition takes anything.
-/

namespace Highlighting

/-- What an automaton does in a state, and the states in which it goes on. -/
inductive AutomatonState
  | read (test : CharTest) (next : Nat)
  /-- Prefers the first way. -/
  | fork (first second : Nat)
  | note (mark next : Nat)
  | check (condition : Condition) (next : Nat)
  | accept
  deriving Repr, DecidableEq, Inhabited

/-- An automaton: its states, which are known by their numbers, and the one it begins in. -/
structure Automaton where
  states : Array AutomatonState
  start : Nat
  deriving Repr, Inhabited

namespace Automaton

/-! ### Construction -/

/-- The states made so far, and the one in which what has been built begins. -/
abbrev Built := Nat × Array AutomatonState

/-- Makes a part of an automaton that goes on in the state `next`. -/
abbrev Part := (next : Nat) → Array AutomatonState → Built

/-- Adds one state. -/
def add (state : AutomatonState) (states : Array AutomatonState) : Built :=
  (states.size, states.push state)

/-- A fork between two ways, of which the first is preferred if `eager`. -/
def forkTo (eager : Bool) (inside outside : Nat) : AutomatonState :=
  if eager then .fork inside outside else .fork outside inside

/-- A part `count` times. -/
def times (part : Part) : Nat → Part
  | 0, next, states => (next, states)
  | count + 1, next, states =>
    let (last, states) := part next states
    times part count last states

/-- A part at most `count` times. -/
def atMost (part : Part) (greedy : Bool) (outside : Nat) : Nat → Array AutomatonState → Built
  | 0, states => (outside, states)
  | count + 1, states =>
    let (further, states) := atMost part greedy outside count states
    let (inside, states) := part further states
    add (forkTo greedy inside outside) states

/-- A part once or more: a fork after it leads back to its beginning. -/
def onceOrMore (part : Part) (greedy : Bool) (next : Nat) (states : Array AutomatonState) :
    Built :=
  let fork := states.size
  let (inside, states) := part fork (states.push .accept)
  (inside, states.set! fork (forkTo greedy inside next))

/-- A part any number of times.  If it always takes something, a fork in front of it is enough; else
entering it at all is a choice of its own. -/
def anyTimes (part : Part) (greedy taking : Bool) (next : Nat) (states : Array AutomatonState) :
    Built :=
  if taking then
    let fork := states.size
    let (inside, states) := part fork (states.push .accept)
    (fork, states.set! fork (forkTo greedy inside next))
  else
    let (inside, states) := onceOrMore part greedy next states
    add (forkTo greedy inside next) states

/-- The part for a plain expression.  One that is not plain matches nothing. -/
def partFor : Regex → Part
  | .empty, next, states => (next, states)
  | .one test, next, states => add (.read test next) states
  | .seq a b, next, states =>
    let (second, states) := partFor b next states
    partFor a second states
  | .alt a b, next, states =>
    let (first, states) := partFor a next states
    let (second, states) := partFor b next states
    add (.fork first second) states
  | .group index body, next, states =>
    let (last, states) := add (.note (Marks.closing index) next) states
    let (inside, states) := partFor body last states
    add (.note (Marks.opening index) inside) states
  | .loop body least (some most) greedy, next, states =>
    let (further, states) := atMost (partFor body) greedy next (most - least) states
    times (partFor body) least further states
  | .loop body 0 none greedy, next, states =>
    anyTimes (partFor body) greedy (0 < body.shortest) next states
  | .loop body (least + 1) none greedy, next, states =>
    let (last, states) := onceOrMore (partFor body) greedy next states
    times (partFor body) least last states
  | .holds condition, next, states => add (.check condition next) states
  | _, next, states => add (.read (.within .nothing false) next) states

/-- The automaton of a plain expression. -/
def ofRegex (r : Regex) : Automaton :=
  let (start, states) := partFor r 0 #[.accept]
  ⟨states, start⟩

/-! ### Running -/

/-- A way that is still to be tried. -/
structure Way where
  state : Nat
  position : Nat
  marks : Marks

/-- The forks that have been reached, each with its place. -/
abbrev Visited := Std.HashSet (Nat × Nat)

/-- Tries ways, latest first, until one leads to a match; gives the end of the match and its
marks. -/
def tryWays (automaton : Automaton) (text : Array Char) :
    Nat → Visited → List Way → Option (Nat × Marks) × Visited
  | 0, visited, _ | _, visited, [] => (none, visited)
  | fuel + 1, visited, way :: ways =>
    match automaton.states[way.state]? with
    | none => tryWays automaton text fuel visited ways
    | some .accept => (some (way.position, way.marks), visited)
    | some (.read test next) =>
      match text[way.position]? with
      | none => tryWays automaton text fuel visited ways
      | some c =>
        if test.accepts c then
          tryWays automaton text fuel visited (⟨next, way.position + 1, way.marks⟩ :: ways)
        else tryWays automaton text fuel visited ways
    | some (.fork first second) =>
      if visited.contains (way.state, way.position) then
        tryWays automaton text fuel visited ways
      else
        tryWays automaton text fuel (visited.insert (way.state, way.position))
          (⟨first, way.position, way.marks⟩ :: ⟨second, way.position, way.marks⟩ :: ways)
    | some (.note mark next) =>
      let marks := way.marks.note mark way.position
      tryWays automaton text fuel visited (⟨next, way.position, marks⟩ :: ways)
    | some (.check condition next) =>
      if condition.holds text 0 way.position then
        tryWays automaton text fuel visited (⟨next, way.position, way.marks⟩ :: ways)
      else tryWays automaton text fuel visited ways

/-- How many steps are enough: every fork is left twice at each place, and a way without forks
passes each state once at most. -/
def steps (automaton : Automaton) (text : Array Char) : Nat :=
  let states := automaton.states.size + 1
  (2 * states * (text.size + 1) + 1) * states

/-- The preferred match that starts at a position, if it goes on from `marks`. -/
def matchAt (automaton : Automaton) (text : Array Char) (position : Nat) (marks : Marks) :
    Option (Nat × Marks) :=
  (automaton.tryWays text (automaton.steps text) ∅ [⟨automaton.start, position, marks⟩]).1

/-- The marks of the first match that starts at `first` or at one of the `more` positions after it.
Forks that failed from one start need not be tried again from a later one. -/
def searchFrom (automaton : Automaton) (text : Array Char) (visited : Visited) (first : Nat) :
    Nat → Option Marks
  | 0 => (attempt visited).1.map Prod.snd
  | more + 1 =>
    match attempt visited with
    | (some (_, marks), _) => some marks
    | (none, visited) => searchFrom automaton text visited (first + 1) more
where
  /-- The match that starts at `first`, and the forks that have been reached. -/
  attempt (visited : Visited) : Option (Nat × Marks) × Visited :=
    automaton.tryWays text (automaton.steps text) visited [⟨automaton.start, first, []⟩]

end Automaton

end Highlighting
