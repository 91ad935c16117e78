import Highlighting.Regex.Automaton

/-!
# Plans

How an expression that is not plain is matched.  A plan follows the expression, but parts that are
plain are left to automata, each of which gives its preferred match and no other: what comes back to
such a part does not find another way through it.

In a sequence the automata are found at both ends.  Items in front that are plain and always take
the same number of characters go to one automaton; the plain items at the end go to another,
provided that nothing after the sequence may have to come back to them, or that they always take the
same number of characters as well.
-/

namespace Highlighting

/-- A way of matching an expression. -/
inductive Plan
  | done
  | read (test : CharTest)
  /-- Leaves a part to an automaton, which settles what its groups have taken. -/
  | settle (automaton : Automaton) (groups : List Nat)
  | seq (first second : Plan)
  | alt (first second : Plan)
  | group (index : Nat) (body : Plan)
  /-- If `stalling`, a round may take nothing; such a round is the last. -/
  | loop (body : Plan) (least : Nat) (most : Option Nat) (greedy stalling : Bool)
  | check (condition : Condition)
  | ahead (body : Plan) (negated : Bool)
  /-- Looks at what the body matches `length` characters before. -/
  | behind (length : Nat) (body : Plan) (negated : Bool)
  | atomic (body : Plan)
  | again (index : Nat) (folded : Bool)
  | begun (index : Nat)
  | branch (test yes no : Plan)
  | keep
  deriving Repr, Inhabited

namespace Regex

/-- A plain expression left to an automaton. -/
def settled : Regex → Plan
  | empty => .done
  | one test => .read test
  | r => .settle (.ofRegex r) r.groups

/-- Whether an expression may open a sequence that is left to an automaton. -/
def mayOpen (referenced : List Nat) (r : Regex) : Bool := r.isPlain referenced && r.isFixed

/-- The items in front of a sequence that may open it. -/
def openingItems (referenced : List Nat) : Regex → Regex
  | seq item items =>
    if item.mayOpen referenced then seq item (items.openingItems referenced) else empty
  | _ => empty

/-- The part of an expression that a plan is made for. -/
inductive PlanPart
  /-- An expression; what comes after it may have to come back to it if `revisited`. -/
  | whole (revisited : Bool)
  /-- What is left of a sequence.  If `opening`, the items in front that may open it have been dealt
  with, and are passed over. -/
  | rest (opening revisited : Bool)

/-- The plan for a part of an expression. -/
def planPart (referenced : List Nat) : PlanPart → Regex → Plan
  | .whole revisited, r =>
    if !revisited && r.isPlain referenced then r.settled
    else
      match r with
      | empty => .done
      | one test => .read test
      | seq item items =>
        if item.mayOpen referenced then
          .seq ((seq item items).openingItems referenced).settled
            (planPart referenced (.rest true revisited) items)
        else if closes revisited (seq item items) then settled (seq item items)
        else
          .seq (planPart referenced (.whole true) item)
            (planPart referenced (.rest false revisited) items)
      | alt a b =>
        .alt (planPart referenced (.whole revisited) a) (planPart referenced (.whole revisited) b)
      | group index body => .group index (planPart referenced (.whole revisited) body)
      | loop body least most greedy =>
        let once := least = 0 ∧ most = some 1
        let again := revisited || (!once && !body.isPlain referenced)
        .loop (planPart referenced (.whole again) body) least most greedy
          (most.isNone && body.shortest == 0)
      | holds condition => .check condition
      | ahead body negated => .ahead (planPart referenced (.whole false) body) negated
      | behind body negated =>
        .behind body.shortest (planPart referenced (.whole false) body) negated
      | atomic body => .atomic (planPart referenced (.whole false) body)
      | Regex.again index folded => .again index folded
      | begun index => .begun index
      | branch test yes no =>
        .branch (planPart referenced (.whole revisited) test)
          (planPart referenced (.whole revisited) yes) (planPart referenced (.whole revisited) no)
      | keep => .keep
  | .rest opening revisited, seq item items =>
    if opening && item.mayOpen referenced then planPart referenced (.rest true revisited) items
    else if closes revisited (seq item items) then settled (seq item items)
    else
      .seq (planPart referenced (.whole true) item)
        (planPart referenced (.rest false revisited) items)
  | _, _ => .done
where
  /-- Whether what is left of a sequence can be left to an automaton. -/
  closes (revisited : Bool) (r : Regex) : Bool :=
    r.isPlain referenced && (!revisited || r.isFixed)

/-- The items of a sequence without the look ahead that ends it, and the body of that look. -/
def trailingLook? : Regex → Option (List Regex × Regex)
  | seq (ahead body false) empty => some ([], body)
  | seq item items => do
    let (others, body) ← trailingLook? items
    pure (item :: others, body)
  | _ => none

/-- An expression with the match itself as group 0.  A look ahead that ends the expression becomes
an item after that group: what it looks at follows the match. -/
def marked (r : Regex) : Regex :=
  match trailingLook? r with
  | some (items, body) =>
    if items.isEmpty then group 0 r else ofItems [group 0 (ofItems items), body]
  | none => group 0 r

end Regex

/-- An expression made ready for searching. -/
inductive Searcher
  | plain (automaton : Automaton)
  | planned (plan : Plan)
  deriving Repr, Inhabited

namespace Searcher

/-- Makes an expression ready. -/
def ofRegex (r : Regex) : Searcher :=
  let r := r.marked
  let referenced := r.references
  if r.isPlain referenced then plain (.ofRegex r)
  else planned (r.planPart referenced (.whole false))

end Searcher

end Highlighting
