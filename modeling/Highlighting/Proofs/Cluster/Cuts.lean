import Highlighting.Cluster.Index
import Highlighting.Proofs.Text.Bisect
import Highlighting.Proofs.Text.Slice

/-!
# The places where a line may be cut

The clusters of a line are non-empty pieces that make up the line (`Text.flatten_clusters`).  The
places between them, with the two ends of the line, are its **cuts** (`Text.IsCut`).

`ClusterIndex.clamp` sends an offset to the last cut that does not lie above it
(`isCut_clamp`, `clamp_le`, `le_clamp`), and text between cuts can be put together again
(`slice_append_slice`).

All that is used of the clusters is that none is empty and that they make up the line.  The rules by
which they are told apart play no part, so that a change to those, or to the tables behind them,
leaves everything here as it is.
-/

namespace Highlighting

namespace Text

/-! ### Clusters make up the line -/

/-- On the way, what is done, the open cluster and the text ahead make up the line.  The open
cluster is kept in reverse. -/
theorem flatten_clusters_go (before current : Text) (done : Array Text) (t : Text) :
    (clusters.go before current done t).toList.flatten
      = done.toList.flatten ++ (current.reverse ++ t) := by
  induction t generalizing before current done with
  | nil =>
    rw [clusters.go]
    split
    · simp_all
    · simp
  | cons c t ih =>
    rw [clusters.go]
    split
    · -- The character joins the open cluster.
      rw [ih, List.reverse_cons, List.append_assoc, List.singleton_append]
    · -- The open cluster is done, and the character opens the next one.
      rw [ih, Array.toList_push, List.flatten_append]
      simp

/-- The clusters of a line, put together, are the line. -/
theorem flatten_clusters (line : Text) : line.clusters.toList.flatten = line := by
  rw [clusters, flatten_clusters_go]
  simp

/-- A cluster is closed only when a character has joined it. -/
theorem ne_nil_of_mem_clusters_go (before current : Text) (done : Array Text) (t : Text)
    (closed : ∀ piece ∈ done, piece ≠ []) :
    ∀ piece ∈ clusters.go before current done t, piece ≠ [] := by
  induction t generalizing before current done with
  | nil =>
    rw [clusters.go]
    split
    · exact closed
    · intro piece hpiece
      rcases Array.mem_push.1 hpiece with hdone | rfl
      · exact closed piece hdone
      · simp_all
  | cons c t ih =>
    rw [clusters.go]
    split
    · exact ih _ _ _ closed
    · rename_i hopen
      refine ih _ _ _ fun piece hpiece => ?_
      rcases Array.mem_push.1 hpiece with hdone | rfl
      · exact closed piece hdone
      · simp_all

/-- No cluster is empty. -/
theorem ne_nil_of_mem_clusters (line : Text) : ∀ piece ∈ line.clusters, piece ≠ [] :=
  ne_nil_of_mem_clusters_go [] [] #[] line (by simp)

/-! ### Cuts -/

/-- The line may be cut at byte offset `n`: some of its first clusters end there. -/
def IsCut (line : Text) (n : Nat) : Prop :=
  ∃ k ≤ line.clusters.size, n = offsetAfter line.clusters.toList k

/-- A line may be cut where it starts, -/
theorem isCut_zero (line : Text) : line.IsCut 0 := ⟨0, Nat.zero_le _, by simp⟩

/-- and where it ends, -/
theorem isCut_byteSize (line : Text) : line.IsCut line.byteSize := by
  refine ⟨line.clusters.size, Nat.le_refl _, ?_⟩
  rw [← Array.length_toList, offsetAfter_length, flatten_clusters]

/-- but no further back. -/
theorem IsCut.le_byteSize {line : Text} {n : Nat} (cut : line.IsCut n) : n ≤ line.byteSize := by
  obtain ⟨k, hk, rfl⟩ := cut
  have hle := offsetAfter_mono line.clusters.toList hk
  rwa [← Array.length_toList, offsetAfter_length, flatten_clusters] at hle

end Text

namespace ClusterIndex

/-! ### The index of a line -/

/-- The walk through the clusters carries the offset that it has reached and collects the starts. -/
theorem toList_startsOf_foldl (pieces : List Text) (offset : Nat) (starts : Array Nat) :
    (pieces.foldl (fun (offset, starts) piece => (offset + piece.byteSize, starts.push offset))
        (offset, starts)).2.toList
      = starts.toList
        ++ (List.range pieces.length).map fun k => offset + Text.offsetAfter pieces k := by
  induction pieces generalizing offset starts with
  | nil => simp
  | cons piece pieces ih =>
    rw [List.foldl_cons, ih, List.length_cons, List.range_succ_eq_map, List.map_cons,
      List.map_map, Array.toList_push, List.append_assoc, List.singleton_append,
      Text.offsetAfter_zero, Nat.add_zero]
    congr 2
    refine List.map_congr_left fun k _ => ?_
    rw [Function.comp_apply, Text.offsetAfter_cons_succ, Nat.add_assoc]

/-- Each cluster starts behind those before it. -/
theorem toList_startsOf (pieces : Array Text) :
    (startsOf pieces).toList
      = (List.range pieces.size).map (Text.offsetAfter pieces.toList) := by
  rw [startsOf, ← Array.foldl_toList, toList_startsOf_foldl]
  simp

@[simp] theorem size_ofLine (line : Text) : (ofLine line).size = line.byteSize := rfl

/-- There is a start for each cluster. -/
theorem size_starts (line : Text) : (ofLine line).starts.size = line.clusters.size := by
  rw [← Array.length_toList, ofLine, toList_startsOf, List.length_map, List.length_range]

/-- The clusters before a start take up as many bytes as it says. -/
theorem getElem_starts (line : Text) {k : Nat} (inside : k < (ofLine line).starts.size) :
    (ofLine line).starts[k] = Text.offsetAfter line.clusters.toList k := by
  rw [← Array.getElem_toList]
  simp [ofLine, toList_startsOf]

/-- Starts ascend, so that they can be searched by halving. -/
theorem keysAscend_starts (line : Text) : KeysAscend id (ofLine line).starts := by
  intro i j _ _ order
  rw [id_eq, id_eq, getElem_starts, getElem_starts]
  exact Text.offsetAfter_mono _ order

/-! ### Clamping -/

/-- Below the end of the line, an offset lies in one of its clusters, and is clamped to where that
cluster starts. -/
theorem exists_clamp_eq {line : Text} {offset : Nat} (inside : offset < line.byteSize) :
    ∃ k < line.clusters.size, (ofLine line).clamp offset = Text.offsetAfter line.clusters.toList k ∧
      Text.offsetAfter line.clusters.toList k ≤ offset ∧
      ∀ j < line.clusters.size, Text.offsetAfter line.clusters.toList j ≤ offset → j ≤ k := by
  -- A line with an offset inside has text, and so a cluster.
  have hclusters : 0 < (ofLine line).starts.size := by
    rw [size_starts]
    refine Nat.pos_of_ne_zero fun hempty => ?_
    have hline := Text.flatten_clusters line
    rw [Array.size_eq_zero_iff.1 hempty] at hline
    simp [← hline] at inside
  obtain ⟨k, hk, hlast, hle, hmax⟩ := exists_lastAtMost offset (keysAscend_starts line) hclusters
    (by rw [id_eq, getElem_starts, Text.offsetAfter_zero]; exact Nat.zero_le _)
  rw [id_eq, getElem_starts] at hle
  refine ⟨k, size_starts line ▸ hk, ?_, hle, fun j hj hjle => ?_⟩
  · rw [clamp, size_ofLine, if_neg (Nat.not_le_of_lt inside), hlast, Option.getD_some,
      getElem_starts]
  · have hj' : j < (ofLine line).starts.size := by rwa [size_starts]
    exact hmax j hj' (by rwa [id_eq, getElem_starts])

/-- What lies at the end of the line or behind it is clamped to the end. -/
theorem clamp_of_byteSize_le {line : Text} {offset : Nat} (beyond : line.byteSize ≤ offset) :
    (ofLine line).clamp offset = line.byteSize := if_pos beyond

/-- Clamping gives a cut. -/
theorem isCut_clamp (line : Text) (offset : Nat) : line.IsCut ((ofLine line).clamp offset) := by
  rcases Nat.lt_or_ge offset line.byteSize with inside | beyond
  · obtain ⟨k, hk, hclamp, -, -⟩ := exists_clamp_eq inside
    exact ⟨k, Nat.le_of_lt hk, hclamp⟩
  · rw [clamp_of_byteSize_le beyond]
    exact Text.isCut_byteSize line

/-- Clamping never moves an offset up. -/
theorem clamp_le (line : Text) (offset : Nat) : (ofLine line).clamp offset ≤ offset := by
  rcases Nat.lt_or_ge offset line.byteSize with inside | beyond
  · obtain ⟨k, -, hclamp, hle, -⟩ := exists_clamp_eq inside
    rwa [hclamp]
  · rwa [clamp_of_byteSize_le beyond]

/-- No cut lies between an offset and where it is clamped to. -/
theorem le_clamp {line : Text} {n offset : Nat} (cut : line.IsCut n) (below : n ≤ offset) :
    n ≤ (ofLine line).clamp offset := by
  rcases Nat.lt_or_ge offset line.byteSize with inside | beyond
  · -- The search gives the last start that does not lie above; a cut below the offset is a start,
    -- and not the end of the line.
    obtain ⟨k, -, hclamp, -, hmax⟩ := exists_clamp_eq inside
    obtain ⟨j, hj, rfl⟩ := cut
    rw [hclamp]
    refine Text.offsetAfter_mono _ (hmax j (Nat.lt_of_le_of_ne hj ?_) below)
    rintro rfl
    rw [← Array.length_toList, Text.offsetAfter_length, Text.flatten_clusters] at below
    omega
  · rw [clamp_of_byteSize_le beyond]
    exact cut.le_byteSize

/-- A cut stays where it is. -/
theorem clamp_of_isCut {line : Text} {n : Nat} (cut : line.IsCut n) : (ofLine line).clamp n = n :=
  Nat.le_antisymm (clamp_le line n) (le_clamp cut (Nat.le_refl n))

/-! ### Slices -/

/-- Between two cuts stand the clusters in between. -/
theorem slice_offsetAfter {line : Text} {j k : Nat} (order : j ≤ k)
    (inside : k ≤ line.clusters.size) :
    (ofLine line).slice (Text.offsetAfter line.clusters.toList j)
        (Text.offsetAfter line.clusters.toList k)
      = ((line.clusters.toList.take k).drop j).flatten := by
  have hline : (ofLine line).line = line.clusters.toList.flatten :=
    (Text.flatten_clusters line).symm
  rw [slice, clamp_of_isCut ⟨j, Nat.le_trans order inside, rfl⟩, clamp_of_isCut ⟨k, inside, rfl⟩,
    Nat.min_eq_left (Text.offsetAfter_mono _ order), hline, Text.slice_offsetAfter _ order]

/-- Text between cuts can be put together again. -/
theorem slice_append_slice {line : Text} {a b c : Nat} (cutA : line.IsCut a) (cutB : line.IsCut b)
    (cutC : line.IsCut c) (hab : a ≤ b) (hbc : b ≤ c) :
    (ofLine line).slice a b ++ (ofLine line).slice b c = (ofLine line).slice a c := by
  obtain ⟨i, hi, rfl⟩ := cutA
  obtain ⟨j, hj, rfl⟩ := cutB
  obtain ⟨k, hk, rfl⟩ := cutC
  have nonempty : ∀ piece ∈ line.clusters.toList, piece ≠ [] := fun piece hpiece =>
    Text.ne_nil_of_mem_clusters line piece (Array.mem_toList_iff.1 hpiece)
  -- The offsets are in order, hence so are the numbers of clusters in front of them.
  have hij : i ≤ j := Text.le_of_offsetAfter_le nonempty (by rwa [Array.length_toList]) hab
  have hjk : j ≤ k := Text.le_of_offsetAfter_le nonempty (by rwa [Array.length_toList]) hbc
  have hik : i ≤ k := Nat.le_trans hij hjk
  rw [slice_offsetAfter hij hj, slice_offsetAfter hjk hk, slice_offsetAfter hik hk]
  -- With the clusters in front of `a` put before both sides, each slice becomes a step from one
  -- beginning of the line to a longer one.
  refine (List.append_right_inj (line.clusters.toList.take i).flatten).1 ?_
  rw [← List.append_assoc, ← Text.flatten_take_eq_append _ hij, ← Text.flatten_take_eq_append _ hjk,
    ← Text.flatten_take_eq_append _ hik]

/-- The text between the two ends of a line is the line. -/
theorem slice_zero_byteSize (line : Text) : (ofLine line).slice 0 line.byteSize = line := by
  have hwhole := slice_offsetAfter (Nat.zero_le _) (Nat.le_refl line.clusters.size)
  rwa [Text.offsetAfter_zero, ← Array.length_toList, Text.offsetAfter_length, List.take_length,
    List.drop_zero, Text.flatten_clusters] at hwhole

/-- There is no text between a cut and itself. -/
theorem slice_self (line : Text) (n : Nat) : (ofLine line).slice n n = [] := by
  rw [slice, Nat.min_self, Text.slice, Nat.sub_self, Text.takeBytes, Text.charsBefore_zero,
    List.take_zero]

end ClusterIndex

end Highlighting
