import Highlighting.Proofs.Cluster.Clamping

/-!
# Slices are runs of clusters

Whatever two offsets a line is sliced at, the slice stands between two cuts of the line: some
clusters come before it, some make it up, and the others come behind it
(`ClusterIndex.exists_slice_eq`).  So nothing is torn apart, and the clusters of the slice are those
that start between the two cuts (`ClusterIndex.slice_eq_flatten_filter`).

Since clamping keeps the order of offsets, slices that meet at an offset add up, wherever that
offset lies (`ClusterIndex.slice_append_slice_of_le`).
-/

namespace Highlighting

namespace Text

/-- The pieces behind others are shifted by the bytes of those. -/
theorem located_append (start : Nat) (pieces more : List Text) :
    located start (pieces ++ more)
      = located start pieces ++ located (start + byteSize pieces.flatten) more := by
  induction pieces generalizing start with
  | nil => rfl
  | cons piece pieces ih =>
    rw [List.cons_append, located, located, ih, List.cons_append, List.flatten_cons,
      byteSize_append, Nat.add_assoc]

theorem map_snd_located (start : Nat) (pieces : List Text) :
    (located start pieces).map Prod.snd = pieces := by
  induction pieces generalizing start with
  | nil => rfl
  | cons piece pieces ih => rw [located, List.map_cons, ih]

/-- Pieces that are not empty start before the end of the last one. -/
theorem bounds_of_mem_located {start : Nat} {pieces : List Text}
    (nonempty : ∀ piece ∈ pieces, piece ≠ []) {place : Nat × Text}
    (member : place ∈ located start pieces) :
    start ≤ place.1 ∧ place.1 < start + byteSize pieces.flatten := by
  obtain ⟨n, piece⟩ := place
  obtain ⟨before, after, rfl, rfl⟩ := mem_located_iff.1 member
  have hpos := byteSize_pos (nonempty piece (by simp))
  rw [List.flatten_append, List.flatten_cons, byteSize_append, byteSize_append]
  dsimp only
  omega

section

variable {start first last : Nat} {pieces : List Text}
  (nonempty : ∀ piece ∈ pieces, piece ≠ [])

include nonempty

/-- Pieces that end before the one place, or start behind the other, are dropped. -/
theorem filter_located_eq_nil
    (outside : start + byteSize pieces.flatten ≤ first ∨ last ≤ start) :
    (located start pieces).filter (fun place => first ≤ place.1 ∧ place.1 < last) = [] := by
  rw [List.filter_eq_nil_iff]
  intro place hmem
  have hbounds := bounds_of_mem_located nonempty hmem
  rw [decide_eq_true_eq]
  omega

/-- Pieces between the two places are kept. -/
theorem filter_located_eq_self (low : first ≤ start)
    (high : start + byteSize pieces.flatten ≤ last) :
    (located start pieces).filter (fun place => first ≤ place.1 ∧ place.1 < last)
      = located start pieces := by
  rw [List.filter_eq_self]
  intro place hmem
  have hbounds := bounds_of_mem_located nonempty hmem
  rw [decide_eq_true_eq]
  omega

end

/-- The pieces that start between two places are those between them. -/
theorem filter_located_append {before middle after : List Text}
    (nonempty : ∀ piece ∈ before ++ (middle ++ after), piece ≠ []) {first last : Nat}
    (hfirst : first = byteSize before.flatten) (hlast : last = first + byteSize middle.flatten) :
    (located 0 (before ++ (middle ++ after))).filter (fun place => first ≤ place.1 ∧ place.1 < last)
      = located first middle := by
  -- Empty pieces would start where the next one does, and belong to either side.
  simp only [List.forall_mem_append] at nonempty
  obtain ⟨hbefore, hmiddle, hafter⟩ := nonempty
  rw [located_append, located_append, Nat.zero_add, ← hfirst, ← hlast, List.filter_append,
    List.filter_append, filter_located_eq_nil hbefore (.inl (by omega)),
    filter_located_eq_self hmiddle (Nat.le_refl first) (by omega),
    filter_located_eq_nil hafter (.inr (Nat.le_refl last)), List.nil_append, List.append_nil]

/-- A text without bytes has no characters. -/
theorem eq_nil_of_byteSize_eq_zero {t : Text} (none : t.byteSize = 0) : t = [] := by
  by_contra hnonempty
  exact absurd none (Nat.ne_of_gt (byteSize_pos hnonempty))

/-- Two cuts have some clusters before them, some between them, and the others behind them. -/
theorem IsCut.exists_between {line : Text} {a b : Nat} (cutA : line.IsCut a) (cutB : line.IsCut b)
    (order : a ≤ b) :
    ∃ before middle after, line.clusters.toList = before ++ (middle ++ after) ∧
      a = byteSize before.flatten ∧ b = a + byteSize middle.flatten := by
  obtain ⟨i, -, rfl⟩ := cutA
  obtain ⟨j, hj, rfl⟩ := cutB
  rcases Nat.lt_or_ge j i with hji | hij
  · -- Then both are the same place, and nothing stands between them.
    have hsame := Nat.le_antisymm order (offsetAfter_mono _ (Nat.le_of_lt hji))
    exact ⟨line.clusters.toList.take i, [], line.clusters.toList.drop i,
      (List.take_append_drop ..).symm, rfl, hsame.symm⟩
  · refine ⟨line.clusters.toList.take i, (line.clusters.toList.take j).drop i,
      line.clusters.toList.drop j, ?_, rfl, offsetAfter_eq_add _ hij⟩
    have hsplit := List.take_append_drop i (line.clusters.toList.take j)
    rw [List.take_take, Nat.min_eq_left hij] at hsplit
    rw [← List.append_assoc, hsplit, List.take_append_drop]

/-- The part is not empty and is made of neighbouring clusters of the line. -/
def IsClusterRun (line part : Text) : Prop :=
  part ≠ [] ∧ ∃ before run after, line.clusters.toList = before ++ (run ++ after) ∧
    part = run.flatten

/-- Such a part has characters of the line only. -/
theorem IsClusterRun.subset {line part : Text} (run : line.IsClusterRun part) : part ⊆ line := by
  obtain ⟨-, before, middle, after, hclusters, rfl⟩ := run
  intro c hmem
  rw [← flatten_clusters line, hclusters, List.flatten_append, List.flatten_append]
  exact List.mem_append_right _ (List.mem_append_left _ hmem)

end Text

namespace ClusterIndex

variable (line : Text)

/-- A slice stands between two cuts, the second of which is where its end is clamped to. -/
theorem exists_slice_eq (a b : Nat) :
    ∃ before middle after, line.clusters.toList = before ++ (middle ++ after) ∧
      (ofLine line).slice a b = middle.flatten ∧
      min ((ofLine line).clamp a) ((ofLine line).clamp b) = Text.byteSize before.flatten ∧
      (ofLine line).clamp b = Text.byteSize before.flatten + Text.byteSize middle.flatten := by
  -- The slice starts at its first end, or at the second one if that lies further back.
  have hcut : line.IsCut (min ((ofLine line).clamp a) ((ofLine line).clamp b)) := by
    rcases Nat.le_total ((ofLine line).clamp a) ((ofLine line).clamp b) with hab | hba
    · rw [Nat.min_eq_left hab]
      exact isCut_clamp line a
    · rw [Nat.min_eq_right hba]
      exact isCut_clamp line b
  obtain ⟨before, middle, after, hclusters, hfirst, hlast⟩ :=
    hcut.exists_between (isCut_clamp line b) (Nat.min_le_right _ _)
  rw [hfirst] at hlast
  refine ⟨before, middle, after, hclusters, ?_, hfirst, hlast⟩
  have hline : (ofLine line).line
      = before.flatten ++ (middle.flatten ++ after.flatten) := by
    rw [← List.flatten_append, ← List.flatten_append, ← hclusters]
    exact (Text.flatten_clusters line).symm
  rw [slice, hfirst, hlast, hline]
  exact Text.slice_append _ _ _

/-- A slice whose ends are clamped to the same place, or the wrong way around, is empty. -/
theorem slice_eq_nil_of_clamp_le {a b : Nat}
    (reversed : (ofLine line).clamp b ≤ (ofLine line).clamp a) :
    (ofLine line).slice a b = [] := by
  obtain ⟨before, middle, after, -, hslice, hfirst, hlast⟩ := exists_slice_eq line a b
  rw [Nat.min_eq_right reversed] at hfirst
  rw [hslice]
  exact Text.eq_nil_of_byteSize_eq_zero (by omega)

/-- The clusters of a slice are those that start between its two ends. -/
theorem slice_eq_flatten_filter (a b : Nat) :
    (ofLine line).slice a b
      = ((line.locatedClusters.filter fun place =>
          (ofLine line).clamp a ≤ place.1 ∧ place.1 < (ofLine line).clamp b).map
            Prod.snd).flatten := by
  rcases Nat.le_total ((ofLine line).clamp a) ((ofLine line).clamp b) with hab | hba
  · obtain ⟨before, middle, after, hclusters, hslice, hfirst, hlast⟩ := exists_slice_eq line a b
    rw [Nat.min_eq_left hab] at hfirst
    have nonempty : ∀ piece ∈ before ++ (middle ++ after), piece ≠ [] := by
      intro piece hpiece
      rw [← hclusters] at hpiece
      exact Text.ne_nil_of_mem_clusters line piece (Array.mem_toList_iff.1 hpiece)
    rw [hslice, Text.locatedClusters, hclusters,
      Text.filter_located_append nonempty hfirst (by rw [hlast, hfirst]), Text.map_snd_located]
  · -- When the ends are the wrong way around, no cluster starts between them.
    have hnone : line.locatedClusters.filter (fun place =>
        (ofLine line).clamp a ≤ place.1 ∧ place.1 < (ofLine line).clamp b) = [] := by
      rw [List.filter_eq_nil_iff]
      intro place _
      simp only [decide_eq_true_eq]
      omega
    rw [slice_eq_nil_of_clamp_le line hba, hnone]
    rfl

/-- Clamping the ends beforehand changes nothing. -/
theorem slice_clamp (a b : Nat) :
    (ofLine line).slice ((ofLine line).clamp a) ((ofLine line).clamp b)
      = (ofLine line).slice a b := by
  rw [slice, slice, clamp_of_isCut (isCut_clamp line a), clamp_of_isCut (isCut_clamp line b)]

/-- Slices that meet add up. -/
theorem slice_append_slice_of_le {a b c : Nat} (hab : a ≤ b) (hbc : b ≤ c) :
    (ofLine line).slice a b ++ (ofLine line).slice b c = (ofLine line).slice a c := by
  rw [← slice_clamp line a b, ← slice_clamp line b c, ← slice_clamp line a c]
  exact slice_append_slice (isCut_clamp line a) (isCut_clamp line b) (isCut_clamp line c)
    (line.monotone_clamp hab) (line.monotone_clamp hbc)

/-- A slice from the start of the line that goes far enough is the whole line. -/
theorem slice_zero_of_byteSize_le {n : Nat} (beyond : line.byteSize ≤ n) :
    (ofLine line).slice 0 n = line := by
  rw [← slice_clamp, clamp_of_isCut line.isCut_zero, clamp_of_byteSize_le beyond,
    slice_zero_byteSize]

/-- A slice is taken between two places where the line has characters before and behind. -/
theorem exists_append_slice (a b : Nat) :
    ∃ front back, line = front ++ (ofLine line).slice a b ++ back ∧
      front.byteSize = min ((ofLine line).clamp a) ((ofLine line).clamp b) ∧
      (front ++ (ofLine line).slice a b).byteSize = (ofLine line).clamp b := by
  obtain ⟨before, middle, after, hclusters, hslice, hfirst, hlast⟩ := exists_slice_eq line a b
  refine ⟨before.flatten, after.flatten, ?_, hfirst.symm, ?_⟩
  · rw [hslice, ← List.flatten_append, ← List.flatten_append, List.append_assoc, ← hclusters,
      Text.flatten_clusters]
  · rw [hslice, Text.byteSize_append, hlast]

/-- A slice is a run of clusters, unless it is empty. -/
theorem isClusterRun_slice {a b : Nat} (nonempty : (ofLine line).slice a b ≠ []) :
    line.IsClusterRun ((ofLine line).slice a b) := by
  obtain ⟨before, middle, after, hclusters, hslice, -, -⟩ := exists_slice_eq line a b
  exact ⟨nonempty, before, middle, after, hclusters, hslice⟩

end ClusterIndex

end Highlighting
