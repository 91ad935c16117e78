import Mathlib.Order.Bounds.Basic
import Highlighting.Proofs.Cluster.Cuts

/-!
# Clamping is rounding down

The **boundaries** of a line are the byte offsets at which its clusters start, and the offset of its
end (`Text.IsBoundary`).  `Text.clamp` rounds down to them: it gives the greatest boundary that does
not lie above an offset (`Text.isGreatest_clamp`).

Everything else that can be said of clamping follows from that, since there is only one such
boundary.  In particular bisection finds the place where a walk over the clusters, one by one,
would stop (`Text.walkTo`), and rounding down is monotone and leaves boundaries, and only these,
where they are.

Nothing here looks into the bisection again.  It gives a cut that does not lie above the offset, and
no cut lies in between (`ClusterIndex.isCut_clamp`, `ClusterIndex.clamp_le`,
`ClusterIndex.le_clamp`); any other way to search a line of which this can be said gives the same
places.
-/

namespace Highlighting

namespace Text

/-! ### Pieces and where they start -/

/-- Pieces of text that follow one another from byte offset `start` on, each with the offset at
which it starts. -/
def located (start : Nat) : List Text → List (Nat × Text)
  | [] => []
  | piece :: pieces => (start, piece) :: located (start + piece.byteSize) pieces

/-- The clusters of a line, each with the byte offset at which it starts. -/
def locatedClusters (line : Text) : List (Nat × Text) := located 0 line.clusters.toList

/-- A cluster of the line starts at byte offset `n`, or the line ends there. -/
def IsBoundary (line : Text) (n : Nat) : Prop :=
  (∃ cluster, (n, cluster) ∈ line.locatedClusters) ∨ n = line.byteSize

/-- A piece starts behind those before it. -/
theorem mem_located_iff {start n : Nat} {piece : Text} {pieces : List Text} :
    (n, piece) ∈ located start pieces ↔
      ∃ before after, pieces = before ++ piece :: after ∧ n = start + byteSize before.flatten := by
  induction pieces generalizing start with
  | nil => simp [located]
  | cons first pieces ih =>
    rw [located, List.mem_cons, ih]
    constructor
    · rintro (hfirst | ⟨before, after, rfl, rfl⟩)
      · obtain ⟨rfl, rfl⟩ := Prod.mk.inj hfirst
        exact ⟨[], pieces, rfl, rfl⟩
      · refine ⟨first :: before, after, rfl, ?_⟩
        rw [List.flatten_cons, byteSize_append, Nat.add_assoc]
    · rintro ⟨before, after, hpieces, rfl⟩
      cases before with
      | nil =>
        obtain ⟨rfl, rfl⟩ := List.cons.inj hpieces
        exact .inl rfl
      | cons _ before =>
        obtain ⟨rfl, rfl⟩ := List.cons.inj hpieces
        refine .inr ⟨before, after, rfl, ?_⟩
        rw [List.flatten_cons, byteSize_append, Nat.add_assoc]

/-- A cut has some of the first clusters before it and the others behind it. -/
theorem isCut_iff {line : Text} {n : Nat} :
    line.IsCut n ↔ ∃ before after, line.clusters.toList = before ++ after ∧
      n = byteSize before.flatten := by
  constructor
  · rintro ⟨k, -, rfl⟩
    exact ⟨line.clusters.toList.take k, line.clusters.toList.drop k,
      (List.take_append_drop ..).symm, rfl⟩
  · rintro ⟨before, after, hclusters, rfl⟩
    refine ⟨before.length, ?_, ?_⟩
    · rw [← Array.length_toList, hclusters, List.length_append]
      exact Nat.le_add_right _ _
    · rw [offsetAfter, hclusters, List.take_left]

/-- The line may be cut at its boundaries, and nowhere else. -/
theorem isCut_iff_isBoundary {line : Text} {n : Nat} : line.IsCut n ↔ line.IsBoundary n := by
  rw [isCut_iff]
  constructor
  · rintro ⟨before, after, hclusters, rfl⟩
    cases after with
    | nil =>
      refine .inr ?_
      rw [← List.append_nil before, ← hclusters, flatten_clusters]
    | cons cluster after =>
      refine .inl ⟨cluster, mem_located_iff.2 ⟨before, after, hclusters, ?_⟩⟩
      exact (Nat.zero_add _).symm
  · rintro (⟨cluster, hmem⟩ | rfl)
    · obtain ⟨before, after, hclusters, rfl⟩ := mem_located_iff.1 hmem
      exact ⟨before, cluster :: after, hclusters, Nat.zero_add _⟩
    · exact ⟨line.clusters.toList, [], (List.append_nil _).symm, by rw [flatten_clusters]⟩

/-- A boundary stands between two characters. -/
theorem IsBoundary.exists_append {line : Text} {n : Nat} (boundary : line.IsBoundary n) :
    ∃ front back, line = front ++ back ∧ front.byteSize = n := by
  obtain ⟨before, after, hclusters, rfl⟩ := isCut_iff.1 (isCut_iff_isBoundary.2 boundary)
  refine ⟨before.flatten, after.flatten, ?_, rfl⟩
  rw [← List.flatten_append, ← hclusters, flatten_clusters]

/-! ### The greatest boundary -/

/-- Clamping rounds down to the boundaries. -/
theorem isGreatest_clamp (line : Text) (offset : Nat) :
    IsGreatest {n | line.IsBoundary n ∧ n ≤ offset} (line.clamp offset) := by
  constructor
  · exact ⟨isCut_iff_isBoundary.1 (ClusterIndex.isCut_clamp line offset),
      ClusterIndex.clamp_le line offset⟩
  · rintro n ⟨hboundary, hle⟩
    exact ClusterIndex.le_clamp (isCut_iff_isBoundary.2 hboundary) hle

/-- Rounding down keeps the order of offsets. -/
theorem monotone_clamp (line : Text) : Monotone line.clamp := by
  intro a b hab
  -- The boundaries up to `a` are among those up to `b`.
  refine (line.isGreatest_clamp a).mono (line.isGreatest_clamp b) ?_
  rintro n ⟨hboundary, hle⟩
  exact ⟨hboundary, hle.trans hab⟩

/-- Walks over pieces that follow one another from `start` on, as long as the next piece does not
start above `offset`. -/
def walkTo (offset start : Nat) : List Text → Nat
  | [] => start
  | piece :: pieces =>
    if start + piece.byteSize ≤ offset then walkTo offset (start + piece.byteSize) pieces else start

/-- The walk stops at the last place between pieces that does not lie above the offset. -/
theorem isGreatest_walkTo {offset start : Nat} (inside : start ≤ offset) (pieces : List Text) :
    IsGreatest {n | (∃ before after, pieces = before ++ after ∧
      n = start + byteSize before.flatten) ∧ n ≤ offset} (walkTo offset start pieces) := by
  induction pieces generalizing start with
  | nil =>
    refine ⟨⟨⟨[], [], rfl, rfl⟩, inside⟩, ?_⟩
    rintro n ⟨⟨before, after, hnil, rfl⟩, -⟩
    obtain ⟨rfl, -⟩ := List.append_eq_nil_iff.1 hnil.symm
    exact Nat.le_refl start
  | cons piece pieces ih =>
    rw [walkTo]
    split
    · rename_i hnext
      obtain ⟨⟨⟨before, after, hpieces, hwalk⟩, hle⟩, hlast⟩ := ih hnext
      constructor
      · refine ⟨⟨piece :: before, after, by rw [hpieces, List.cons_append], ?_⟩, hle⟩
        rw [hwalk, List.flatten_cons, byteSize_append, Nat.add_assoc]
      · rintro n ⟨⟨front, back, hsplit, rfl⟩, hn⟩
        cases front with
        | nil =>
          rw [List.flatten_nil, byteSize_nil, hwalk, Nat.add_zero, Nat.add_assoc]
          exact Nat.le_add_right _ _
        | cons _ front =>
          obtain ⟨rfl, hrest⟩ := List.cons.inj hsplit
          rw [List.flatten_cons, byteSize_append, ← Nat.add_assoc] at hn ⊢
          exact hlast ⟨⟨front, back, hrest, rfl⟩, hn⟩
    · -- Already the second place lies above the offset, and so do those behind it.
      rename_i hbeyond
      refine ⟨⟨⟨[], piece :: pieces, rfl, rfl⟩, inside⟩, ?_⟩
      rintro n ⟨⟨front, back, hsplit, rfl⟩, hn⟩
      cases front with
      | nil => exact Nat.le_refl start
      | cons _ front =>
        obtain ⟨rfl, -⟩ := List.cons.inj hsplit
        rw [List.flatten_cons, byteSize_append] at hn
        omega

/-- Bisection stops where the walk does. -/
theorem clamp_eq_walkTo (line : Text) (offset : Nat) :
    line.clamp offset = walkTo offset 0 line.clusters.toList := by
  have hwalk := isGreatest_walkTo (Nat.zero_le offset) line.clusters.toList
  simp only [Nat.zero_add, ← isCut_iff, isCut_iff_isBoundary] at hwalk
  exact (line.isGreatest_clamp offset).unique hwalk

/-- **Clamping rounds down to the boundaries of the line.**  It gives the greatest boundary that
does not lie above the offset, which is where a walk over the clusters stops.  So it never goes
above the offset, nor beyond the end of the line, nor into a character; it keeps the order of
offsets, a second clamping changes nothing, and what it leaves alone are the boundaries. -/
theorem clamp_rounds_down (line : Text) :
    (∀ offset, IsGreatest {n | line.IsBoundary n ∧ n ≤ offset} (line.clamp offset)) ∧
    (∀ offset, (ClusterIndex.ofLine line).clamp offset = line.clamp offset) ∧
    (∀ offset, line.clamp offset = walkTo offset 0 line.clusters.toList) ∧
    (∀ offset, line.clamp offset ≤ offset ∧ line.clamp offset ≤ line.byteSize ∧
      ∃ front back, line = front ++ back ∧ front.byteSize = line.clamp offset) ∧
    Monotone line.clamp ∧
    (∀ offset, line.clamp (line.clamp offset) = line.clamp offset) ∧
    ∀ n, line.clamp n = n ↔ line.IsBoundary n := by
  have hgreatest := line.isGreatest_clamp
  have hfixed : ∀ n, line.clamp n = n ↔ line.IsBoundary n := by
    intro n
    constructor
    · intro hclamp
      exact hclamp ▸ (hgreatest n).1.1
    · intro hboundary
      exact ClusterIndex.clamp_of_isCut (isCut_iff_isBoundary.2 hboundary)
  refine ⟨hgreatest, fun offset => rfl, line.clamp_eq_walkTo, ?_, line.monotone_clamp, ?_, hfixed⟩
  · intro offset
    obtain ⟨hboundary, hle⟩ := (hgreatest offset).1
    exact ⟨hle, (isCut_iff_isBoundary.2 hboundary).le_byteSize, hboundary.exists_append⟩
  · intro offset
    exact (hfixed _).2 (hgreatest offset).1.1

/-- The accent belongs to the letter before it. -/
example : [0, 1, 2, 3, 4, 5, 99].map (Text.clamp ['x', 'e', '\u0301', 'y'])
    = [0, 1, 1, 1, 4, 5, 5] := by
  decide +kernel

end Text

end Highlighting
