import Highlighting.Text.Basic

/-!
# The notation of expressions in grammars

Grammars write regular expressions with some abbreviations, which are expanded in the text before it
is read.

* `{{name}}` stands for a variable.  Grammars here have no variables, so it stands for nothing.
* Some named classes stand for Unicode categories: `[:alpha:]` for letters, `[:alnum:]` for letters
  and numbers, `[:lower:]`, `[:upper:]` and `[:digit:]` for lower-case and upper-case letters and
  decimal digits.
* `$` holds before every line feed.

The groups that may be given scopes are also found in the text (`groupsOutsideLooks`): parentheses
are counted as they stand, except in classes and after a backslash.  Groups with a name count only
if they are written `(?P<name>…)`.
-/

namespace Highlighting.Notation

/-! ### Variables and named classes -/

/-- Whether a character belongs to the name of a variable. -/
def isNameChar (c : Char) : Bool := c.isAlphanum || c == '_'

/-- What follows a variable after its opening braces, if it is one. -/
def afterVariable? (t : Text) : Option Text :=
  if (t.takeWhile isNameChar).isEmpty then none
  else
    match t.dropWhile isNameChar with
    | '\x7d' :: '\x7d' :: rest => some rest
    | _ => none

/-- Removes variables. -/
def removeVariables : Nat → Text → Text
  | 0, t => t
  | _, [] => []
  | fuel + 1, c :: t =>
    match c, t with
    | '\x7b', '\x7b' :: name =>
      match afterVariable? name with
      | some rest => removeVariables fuel rest
      | none => c :: removeVariables fuel t
    | _, _ => c :: removeVariables fuel t

/-- Replaces a piece of text wherever it stands. -/
def replaceEach (piece replacement : Text) : Nat → Text → Text
  | 0, t => t
  | _, [] => []
  | fuel + 1, c :: t =>
    if piece.isPrefixOf (c :: t) then
      replacement ++ replaceEach piece replacement fuel ((c :: t).drop piece.length)
    else c :: replaceEach piece replacement fuel t

/-- The classes that stand for categories, with what they stand for. -/
def namedClasses : List (Text × Text) :=
  [("[:alpha:]", "\\p\x7bL\x7d"), ("[:alnum:]", "\\p\x7bL\x7d\\p\x7bN\x7d"),
    ("[:lower:]", "\\p\x7bLl\x7d"), ("[:upper:]", "\\p\x7bLu\x7d"),
    ("[:digit:]", "\\p\x7bNd\x7d")].map fun (name, set) => (name.toList, set.toList)

/-! ### Inside and outside of classes -/

/-- Where a character stands: outside of classes, at the beginning of one, where a caret may come
first, or further inside one, below other classes. -/
inductive Spot
  | outside
  | classStart (caret : Bool)
  | inside (depth : Nat)

namespace Spot

/-- The spot behind a character of a class. -/
def behindInside : Nat → Char → Spot
  | depth, '[' => inside (depth + 1)
  | 0, ']' => outside
  | depth + 1, ']' => inside depth
  | depth, _ => inside depth

/-- The spot behind a character. -/
def behind : Spot → Char → Spot
  | outside, '[' => classStart true
  | outside, _ => outside
  | classStart true, '^' => classStart false
  | classStart _, ']' => inside 0
  | classStart _, c => behindInside 0 c
  | inside depth, c => behindInside depth c

/-- The spot behind a backslash and another character. -/
def behindEscape : Spot → Spot
  | classStart _ => inside 0
  | spot => spot

end Spot

/-- Lets `$` hold before every line feed, where it stands outside of classes. -/
def expandLineEnds : Spot → Text → Text
  | _, [] => []
  | spot, '\\' :: c :: t => '\\' :: c :: expandLineEnds spot.behindEscape t
  | .outside, '$' :: t => "(?m:$)".toList ++ expandLineEnds .outside t
  | spot, c :: t => c :: expandLineEnds (spot.behind c) t

/-- An expression with its abbreviations expanded. -/
def expanded (t : Text) : Text :=
  let t := removeVariables t.length t
  let t := namedClasses.foldl (fun t (name, set) => replaceEach name set t.length t) t
  expandLineEnds .outside t

/-! ### Groups -/

/-- A group, unless it stands inside a look. -/
def groupHere (looking : Bool) (index : Nat) : List Nat := if looking then [] else [index]

/-- The groups that are not inside a look ahead or behind.  `looks` tells of every open parenthesis
whether it stands inside a look, `looking` the same of the present place; `count` groups have been
opened. -/
def groupsFrom (looks : List Bool) (looking : Bool) (count : Nat) : Spot → Text → List Nat
  | _, [] => []
  | spot, '\\' :: _ :: t => groupsFrom looks looking count spot.behindEscape t
  | .outside, '(' :: t =>
    let looks := looking :: looks
    match t with
    | '?' :: '=' :: t | '?' :: '!' :: t | '?' :: '<' :: '=' :: t | '?' :: '<' :: '!' :: t =>
      groupsFrom looks true count .outside t
    | '?' :: 'P' :: '<' :: t =>
      groupHere looking (count + 1) ++ groupsFrom looks looking (count + 1) .outside t
    | '?' :: _ :: t => groupsFrom looks looking count .outside t
    | ['?'] | [] => []
    | t => groupHere looking (count + 1) ++ groupsFrom looks looking (count + 1) .outside t
  | .outside, ')' :: t =>
    groupsFrom (looks.drop 1) (looks.head?.getD looking) count .outside t
  | spot, c :: t => groupsFrom looks looking count (spot.behind c) t

/-- The groups of an expression that are not inside a look ahead or behind; 0 is the whole match. -/
def groupsOutsideLooks (t : Text) : List Nat := 0 :: groupsFrom [false] false 0 .outside t

end Highlighting.Notation
