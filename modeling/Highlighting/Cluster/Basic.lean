import Highlighting.Text.Basic
import Highlighting.Cluster.Tables

/-!
# Extended grapheme clusters

What a reader sees as one character may be several: a letter with its accents, a family of
pictographs tied by joiners, a flag made of two letters.  `Text.clusters` cuts a text into these
units.

Whether there is a boundary between two neighbours depends on the second one and on what stands
before it, so the rule `breaksBefore` takes the characters before the second one *nearest first*.
Three of its cases look back further than one character:

* a linked consonant looks for a linker and another consonant behind it;
* a pictograph after a joiner looks for the pictograph that the joiner ties it to;
* a regional indicator pairs up with its neighbour, so it counts how many stand in a row.
-/

namespace Highlighting

/-- What a character does at a cluster boundary. -/
inductive ClusterRole
  | carriageReturn | lineFeed | control
  | extend | joiner | spacingMark | prepend
  | leadingJamo | vowelJamo | trailingJamo | openSyllable | closedSyllable
  | regionalIndicator | pictograph | consonant
  | other
  deriving Repr, DecidableEq

namespace ClusterRole

/-- The role of a character.  Korean syllables are open, without a trailing consonant, at every 28th
code point of their block. -/
def ofChar (c : Char) : ClusterRole :=
  let n := c.toNat
  if c = '\r' then .carriageReturn
  else if c = '\n' then .lineFeed
  else if n = 0x200D then .joiner
  else if ClusterTable.control.contains n then .control
  else if n < 0x80 then .other
  else if ClusterTable.extend.contains n then .extend
  else if ClusterTable.spacingMark.contains n then .spacingMark
  else if ClusterTable.prepend.contains n then .prepend
  else if ClusterTable.leadingJamo.contains n then .leadingJamo
  else if ClusterTable.vowelJamo.contains n then .vowelJamo
  else if ClusterTable.trailingJamo.contains n then .trailingJamo
  else if 0xAC00 ≤ n ∧ n ≤ 0xD7A3 then
    if (n - 0xAC00) % 28 = 0 then .openSyllable else .closedSyllable
  else if 0x1F1E6 ≤ n ∧ n ≤ 0x1F1FF then .regionalIndicator
  else if ClusterTable.pictograph.contains n then .pictograph
  else if ClusterTable.consonant.contains n then .consonant
  else .other

/-- Controls and line terminators, which never share a cluster. -/
def isControl : ClusterRole → Bool
  | .carriageReturn | .lineFeed | .control => true
  | _ => false

end ClusterRole

/-- Whether a character links the consonants on either side of it. -/
def isLinker (c : Char) : Bool := ClusterTable.linker.contains c.toNat

/-- Whether a character may stand between a consonant and a linker. -/
def isConjunctExtend (c : Char) : Bool := ClusterTable.conjunctExtend.contains c.toNat

/-- Whether the characters `before`, nearest first, end in a consonant, linkers and extenders, with
at least one linker among these. -/
def endsInLinkedConsonant (before : Text) : Bool :=
  let isSign := fun c => isLinker c || isConjunctExtend c
  (before.takeWhile isSign).any isLinker &&
    match before.dropWhile isSign with
    | [] => false
    | c :: _ => ClusterRole.ofChar c == .consonant

/-- Whether the characters `before`, nearest first, end in a pictograph and extenders. -/
def endsInPictograph (before : Text) : Bool :=
  match before.dropWhile (ClusterRole.ofChar · == .extend) with
  | [] => false
  | c :: _ => ClusterRole.ofChar c == .pictograph

/-- Whether the regional indicators that end `before`, nearest first, all have a partner. -/
def endsInPairedIndicators (before : Text) : Bool :=
  (before.takeWhile (ClusterRole.ofChar · == .regionalIndicator)).length % 2 == 0

/-- Whether a cluster ends between the characters `before`, nearest first, and `c`. -/
def breaksBefore (before : Text) (c : Char) : Bool :=
  match before with
  | [] => true
  | a :: earlier =>
    let left := ClusterRole.ofChar a
    let right := ClusterRole.ofChar c
    if left = .carriageReturn ∧ right = .lineFeed then false
    else if left.isControl ∨ right.isControl then true
    else match left, right with
      -- The parts of a Korean syllable stay together.
      | .leadingJamo, .leadingJamo | .leadingJamo, .vowelJamo
      | .leadingJamo, .openSyllable | .leadingJamo, .closedSyllable => false
      | .openSyllable, .vowelJamo | .openSyllable, .trailingJamo
      | .vowelJamo, .vowelJamo | .vowelJamo, .trailingJamo => false
      | .closedSyllable, .trailingJamo | .trailingJamo, .trailingJamo => false
      -- Signs belong to what they are attached to.
      | _, .extend | _, .joiner | _, .spacingMark => false
      | .prepend, _ => false
      -- Here more than one character back matters.
      | _, .consonant => !endsInLinkedConsonant before
      | .joiner, .pictograph => !endsInPictograph earlier
      | .regionalIndicator, .regionalIndicator => endsInPairedIndicators before
      | _, _ => true

namespace Text

/-- The extended grapheme clusters of a text, first to last. -/
def clusters (t : Text) : Array Text := go [] [] #[] t
where
  /-- `before` holds the characters passed, nearest first; `current` those of the open cluster, also
  nearest first; `done` the closed clusters. -/
  go (before current : Text) (done : Array Text) : Text → Array Text
    | [] => if current.isEmpty then done else done.push current.reverse
    | c :: rest =>
      if current.isEmpty || !breaksBefore before c then
        go (c :: before) (c :: current) done rest
      else
        go (c :: before) [c] (done.push current.reverse) rest

end Text

end Highlighting
