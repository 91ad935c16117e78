import Highlighting.Cluster.Basic

/-!
# Offsets at cluster boundaries

Byte offsets from elsewhere may point past the end of a line or into the middle of a cluster.
`ClusterIndex.clamp` moves such an offset back to the nearest place where a line may be cut: the
start of a cluster, or the end of the line.  `ClusterIndex.slice` cuts the line at two offsets after
clamping both, so it cannot fail and never tears a cluster apart.

The places are computed once per line, as an ascending array of cluster starts, and looked up by
bisection.
-/

namespace Highlighting

/-- A line together with the byte offsets at which its clusters start. -/
structure ClusterIndex where
  line : Text
  starts : Array Nat
  size : Nat

namespace ClusterIndex

/-- The byte offsets at which consecutive pieces of a text start. -/
def startsOf (pieces : Array Text) : Array Nat :=
  (pieces.foldl (fun (offset, starts) piece => (offset + piece.byteSize, starts.push offset))
    (0, #[])).2

/-- The index of a line. -/
def ofLine (line : Text) : ClusterIndex where
  line := line
  starts := startsOf line.clusters
  size := line.byteSize

/-- The last place at or before `offset` where the line may be cut. -/
def clamp (index : ClusterIndex) (offset : Nat) : Nat :=
  if index.size ≤ offset then index.size
  else (lastAtMost id index.starts offset).getD 0

/-- The text between two offsets, both clamped first.  It is empty when the first one comes out
above the second. -/
def slice (index : ClusterIndex) (first last : Nat) : Text :=
  let stop := index.clamp last
  let start := min (index.clamp first) stop
  index.line.slice start stop

end ClusterIndex

namespace Text

/-- The last place at or before `offset` where the line may be cut. -/
def clamp (line : Text) (offset : Nat) : Nat := (ClusterIndex.ofLine line).clamp offset

end Text

end Highlighting
