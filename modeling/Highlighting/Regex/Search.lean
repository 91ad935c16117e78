import Highlighting.Regex.Plan

/-!
# Searching

A plan is followed with a list of **tasks** that are still ahead and a list of **alternatives** to
come back to.  Following it either goes on, or fails and comes back to the latest alternative.
Coming back is counted, and a search that has come back too often finds nothing.

Three things drop alternatives.  When an atomic part has matched, those that arose inside it are
dropped.  When the test of a branch has matched, those that arose inside are dropped together with
the other branch, and when the body of a negated look has matched, together with the way on that
stands for the body not matching.
-/

namespace Highlighting

/-- Something still to be done in following a plan. -/
inductive Task
  | follow (plan : Plan)
  /-- Ends a group. -/
  | close (index : Nat)
  /-- Decides on a further round of a repetition, after `rounds` rounds; `last` is where the latest
  optional round began. -/
  | round (body : Plan) (least : Nat) (most : Option Nat) (greedy stalling : Bool) (rounds : Nat)
      (last : Option Nat)
  /-- Goes back to where a look began. -/
  | returnTo (position : Nat)
  /-- Drops all alternatives but the `kept` oldest. -/
  | commit (kept : Nat)
  /-- Drops all alternatives but the `kept` oldest, and fails. -/
  | refuse (kept : Nat)
  deriving Inhabited

/-- A way of going on. -/
structure Course where
  tasks : List Task
  position : Nat
  marks : Marks
  deriving Inhabited

/-- A course with the alternatives to it, latest first. -/
structure Pursuit where
  course : Course
  alternatives : List Course
  /-- The number of alternatives. -/
  height : Nat

/-- What a step leads to. -/
inductive Turn
  | going (pursuit : Pursuit)
  | matched (marks : Marks)
  | failed (alternatives : List Course) (height : Nat)

namespace Pursuit

/-- Gives up the course. -/
def fail (pursuit : Pursuit) : Turn := .failed pursuit.alternatives pursuit.height

/-- Keeps the oldest alternatives only. -/
def keepOldest (pursuit : Pursuit) (kept : Nat) : Pursuit :=
  { pursuit with
    alternatives := pursuit.alternatives.drop (pursuit.height - kept)
    height := min kept pursuit.height }

/-- Goes on, with one alternative more. -/
def goOn (pursuit : Pursuit) (course alternative : Course) : Turn :=
  .going ⟨course, alternative :: pursuit.alternatives, pursuit.height + 1⟩

/-- Goes on if a condition holds. -/
def goOnIf (pursuit : Pursuit) (condition : Bool) (course : Course) : Turn :=
  if condition then .going { pursuit with course } else pursuit.fail

end Pursuit

/-- Whether the `count` characters at two positions are equal in pairs. -/
@[specialize]
def sameCharacters (same : Char → Char → Bool) (text : Array Char) (a b : Nat) : Nat → Bool
  | 0 => true
  | count + 1 =>
    if inside : a < text.size ∧ b < text.size then
      same text[a] text[b] &&
        sameCharacters same text (a + 1) (b + 1) count
    else false

/-- Whether two characters are the same up to case. -/
def sameUpToCase (c d : Char) : Bool := foldCodePoint c.toNat == foldCodePoint d.toNat

/-- Whether the texts of `count` characters at two positions are the same, up to case if `folded`.
Even then they have to be equally long as bytes. -/
def sameText (folded : Bool) (text : Array Char) (a b count : Nat) : Bool :=
  if folded then
    let size := fun start => Text.byteSize (text.extract start (start + count)).toList
    sameCharacters sameUpToCase text a b count && size a == size b
  else sameCharacters (· == ·) text a b count

namespace Plan

/-- Follows a plan for one step, with `rest` to be done afterwards. -/
def advance (text : Array Char) (origin : Nat) (pursuit : Pursuit) (rest : List Task) :
    Plan → Turn :=
  let course := { pursuit.course with tasks := rest }
  let position := course.position
  fun
  | done => pursuit.goOnIf true course
  | read test =>
    pursuit.goOnIf ((text[position]?).any test.accepts) { course with position := position + 1 }
  | settle automaton groups =>
    match automaton.matchAt text position (course.marks.unset groups) with
    | some (position, marks) => pursuit.goOnIf true ⟨rest, position, marks⟩
    | none => pursuit.fail
  | seq first second =>
    pursuit.goOnIf true { course with tasks := .follow first :: .follow second :: rest }
  | alt first second =>
    pursuit.goOn { course with tasks := .follow first :: rest }
      { course with tasks := .follow second :: rest }
  | group index body =>
    let marks := course.marks.note (Marks.opening index) position
    pursuit.goOnIf true ⟨.follow body :: .close index :: rest, position, marks⟩
  | loop body least most greedy stalling =>
    let round := Task.round body least most greedy stalling 0 none
    pursuit.goOnIf true { course with tasks := round :: rest }
  | check condition => pursuit.goOnIf (condition.holds text origin position) course
  | ahead body false =>
    pursuit.goOnIf true { course with tasks := .follow body :: .returnTo position :: rest }
  | ahead body true =>
    pursuit.goOn { course with tasks := [.follow body, .refuse pursuit.height] } course
  | behind length body false =>
    pursuit.goOnIf (length ≤ position)
      ⟨.follow body :: .returnTo position :: rest, position - length, course.marks⟩
  | behind length body true =>
    if length ≤ position then
      pursuit.goOn ⟨[.follow body, .refuse pursuit.height], position - length, course.marks⟩ course
    else .failed (course :: pursuit.alternatives) (pursuit.height + 1)
  | atomic body =>
    pursuit.goOnIf true { course with tasks := .follow body :: .commit pursuit.height :: rest }
  | again index folded =>
    match course.marks.group? index with
    | none => pursuit.fail
    | some (start, stop) =>
      pursuit.goOnIf (sameText folded text start position (stop - start))
        { course with position := position + (stop - start) }
  | begun index => pursuit.goOnIf (course.marks.hasBegun index) course
  | branch test yes no =>
    pursuit.goOn
      { course with tasks := .follow test :: .commit pursuit.height :: .follow yes :: rest }
      { course with tasks := .follow no :: rest }
  | keep =>
    pursuit.goOnIf true { course with marks := course.marks.note (Marks.opening 0) position }

end Plan

namespace Pursuit

/-- Decides on a further round of a repetition. -/
def decideRound (pursuit : Pursuit) (rest : List Task) (body : Plan) (least : Nat)
    (most : Option Nat) (greedy stalling : Bool) (rounds : Nat) (last : Option Nat) : Turn :=
  let course := pursuit.course
  let leave := { course with tasks := rest }
  let enter := fun last =>
    let next := Task.round body least most greedy stalling (rounds + 1) last
    { course with tasks := .follow body :: next :: rest }
  if most = some rounds then pursuit.goOnIf true leave
  else if stalling && last == some course.position then pursuit.goOnIf true leave
  else if rounds < least then pursuit.goOnIf true (enter last)
  else if greedy then pursuit.goOn (enter (some course.position)) leave
  else pursuit.goOn leave (enter (some course.position))

/-- Does the next task. -/
def step (text : Array Char) (origin : Nat) (pursuit : Pursuit) : Turn :=
  let course := pursuit.course
  match course.tasks with
  | [] => .matched course.marks
  | .follow plan :: rest => plan.advance text origin pursuit rest
  | .close index :: rest =>
    let marks := course.marks.note (Marks.closing index) course.position
    pursuit.goOnIf true ⟨rest, course.position, marks⟩
  | .round body least most greedy stalling rounds last :: rest =>
    pursuit.decideRound rest body least most greedy stalling rounds last
  | .returnTo position :: rest => pursuit.goOnIf true ⟨rest, position, course.marks⟩
  | .commit kept :: rest =>
    (pursuit.keepOldest kept).goOnIf true { course with tasks := rest }
  | .refuse kept :: _ => (pursuit.keepOldest kept).fail

/-- How often a search may come back to an alternative. -/
def maxSetbacks : Nat := 1000000

/-- How many steps a search may take; far more than `maxSetbacks` leaves room for. -/
def maxSteps : Nat := 1000000000000

/-- Goes on until there is a match or nothing is left to try, with the number of setbacks so
far. -/
def run (text : Array Char) (origin : Nat) : Nat → Nat → Pursuit → Option Marks × Nat
  | 0, _, _ => (none, maxSetbacks)
  | fuel + 1, setbacks, pursuit =>
    match pursuit.step text origin with
    | .going pursuit => run text origin fuel setbacks pursuit
    | .matched marks => (some marks, setbacks)
    | .failed [] _ => (none, setbacks)
    | .failed (course :: alternatives) height =>
      if setbacks < maxSetbacks then
        run text origin fuel (setbacks + 1) ⟨course, alternatives, height - 1⟩
      else (none, maxSetbacks)

end Pursuit

namespace Plan

/-- The marks of the first match that starts at `first` or at one of the `more` positions after it,
in a search that began at `origin`.  Coming to a new start counts as a setback. -/
def searchFrom (plan : Plan) (text : Array Char) (origin setbacks first : Nat) :
    Nat → Option Marks
  | 0 => (attempt setbacks).1
  | more + 1 =>
    match attempt setbacks with
    | (some marks, _) => some marks
    | (none, setbacks) =>
      if setbacks < Pursuit.maxSetbacks then
        searchFrom plan text origin (setbacks + 1) (first + 1) more
      else none
where
  /-- The match that starts at `first`, and the number of setbacks. -/
  attempt (setbacks : Nat) : Option Marks × Nat :=
    Pursuit.run text origin Pursuit.maxSteps setbacks ⟨⟨[.follow plan], first, []⟩, [], 0⟩

end Plan

namespace Searcher

/-- The marks of the first match that starts at `origin` or after it. -/
def search (searcher : Searcher) (text : Array Char) (origin : Nat) : Option Marks :=
  match searcher with
  | plain automaton => automaton.searchFrom text ∅ origin (text.size - origin)
  | planned plan => plan.searchFrom text origin 0 origin (text.size - origin)

end Searcher

end Highlighting
