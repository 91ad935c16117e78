import Mathlib.Data.List.Forall2
import Highlighting.Proofs.Cluster.Slices
import Highlighting.Proofs.Run.Tracing

/-!
# Runs write whole clusters

The text of a token is a slice of its line, so whatever bounds a tokenizer gives to its tokens, the
spans made of them are runs of whole clusters (`Highlighter.isClusterRun_of_mem_tokenSpans`).  A
line that is not tokenized is such a run itself.

What a run asks of its sink is the start of what its script asks (`Highlighter.asked_prefix`), up to
the operation that fails, if one does.  So no span that is written tears a cluster of its line
apart, whatever the sink (`Highlighter.slices_are_whole_clusters`).
-/

namespace Highlighting

namespace Highlighter

variable {σ μ : Type}

/-! ### The spans of a line -/

/-- A line with text is a run of all its clusters. -/
theorem isClusterRun_of_mem_unstyledSpans {line : Text} {span : Span}
    (member : span ∈ unstyledSpans line) : line.IsClusterRun span.text := by
  unfold unstyledSpans at member
  split at member
  · exact absurd member List.not_mem_nil
  · rename_i htext
    obtain rfl := List.mem_singleton.1 member
    refine ⟨fun hempty => htext (List.isEmpty_iff.2 hempty), [], line.clusters.toList, [], ?_, ?_⟩
    · rw [List.nil_append, List.append_nil]
    · exact (Text.flatten_clusters line).symm

/-- Whatever bounds the tokens have, their spans are runs of clusters. -/
theorem isClusterRun_of_mem_tokenSpans {rules : List Rule} {line : Text} {tokens : List Token}
    {span : Span} (member : span ∈ tokenSpans rules line tokens) : line.IsClusterRun span.text := by
  obtain ⟨token, -, hspan⟩ := List.mem_filterMap.1 member
  dsimp only at hspan
  split at hspan
  · simp at hspan
  · rename_i htext
    obtain rfl := Option.some.inj hspan
    exact ClusterIndex.isClusterRun_slice line fun hempty => htext (List.isEmpty_iff.2 hempty)

/-- A line asks for runs of its clusters and for a line break, and counts them. -/
theorem exists_clusterRuns_lineSteps (h : Highlighter σ μ) (line : NumberedLine)
    (progress : Progress σ μ) : ∃ spans : List Span,
      (h.lineSteps line progress).1.filterMap Step.op? = SinkOp.forLine spans ∧
      (h.lineSteps line progress).2.summary.lines = progress.summary.lines + 1 ∧
      (h.lineSteps line progress).2.summary.spans = progress.summary.spans + spans.length ∧
      ∀ span ∈ spans, line.text.IsClusterRun span.text := by
  obtain ⟨spans, hops, hlines, hspans, rfl | ⟨_, -, tokens, _, _, -, rfl⟩⟩ :=
    h.lineSteps_cases line progress
  · exact ⟨_, hops, hlines, hspans, fun _ => isClusterRun_of_mem_unstyledSpans⟩
  · exact ⟨_, hops, hlines, hspans, fun _ => isClusterRun_of_mem_tokenSpans⟩

/-- Lines ask for their runs line by line. -/
theorem exists_clusterRuns_linesSteps (h : Highlighter σ μ) (lines : List NumberedLine)
    (progress : Progress σ μ) : ∃ spans : List (List Span),
      (h.linesSteps lines #[] progress).1.toList.filterMap Step.op?
        = spans.flatMap SinkOp.forLine ∧
      (h.linesSteps lines #[] progress).2.summary.lines = progress.summary.lines + lines.length ∧
      (h.linesSteps lines #[] progress).2.summary.spans
        = progress.summary.spans + spans.flatten.length ∧
      List.Forall₂ (fun line spans => ∀ span ∈ spans, line.IsClusterRun span.text)
        (lines.map NumberedLine.text) spans := by
  induction lines generalizing progress with
  | nil => exact ⟨[], rfl, rfl, rfl, .nil⟩
  | cons line lines ih =>
    obtain ⟨first, hops, hlines, hspans, hruns⟩ := h.exists_clusterRuns_lineSteps line progress
    obtain ⟨later, hops', hlines', hspans', hruns'⟩ := ih (h.lineSteps line progress).2
    refine ⟨first :: later, ?_, ?_, ?_, .cons hruns hruns'⟩
    · rw [toList_linesSteps_cons, List.filterMap_append, hops, hops', List.flatMap_cons]
    · rw [snd_linesSteps_cons, hlines', hlines, List.length_cons]
      omega
    · rw [snd_linesSteps_cons, hspans', hspans, List.flatten_cons, List.length_append]
      omega

/-- So do the lines of an input, in whatever way they are numbered. -/
theorem exists_clusterRuns_stepsOf (h : Highlighter σ μ) (memory : μ) (lines : List Text) :
    ∃ spans : List (List Span),
      (h.stepsOf memory lines).1.toList.filterMap Step.op? = spans.flatMap SinkOp.forLine ∧
      (h.stepsOf memory lines).2.summary.lines = lines.length ∧
      (h.stepsOf memory lines).2.summary.spans = spans.flatten.length ∧
      List.Forall₂ (fun line spans => ∀ span ∈ spans, line.IsClusterRun span.text)
        lines spans := by
  obtain ⟨spans, hops, hlines, hspans, hruns⟩ :=
    h.exists_clusterRuns_linesSteps (NumberedLine.numberFrom 1 lines) (.start memory)
  rw [NumberedLine.map_text_numberFrom] at hruns
  refine ⟨spans, hops, hlines.trans ?_, hspans.trans (Nat.zero_add _), hruns⟩
  rw [NumberedLine.length_numberFrom]
  exact Nat.zero_add _

/-- What holds of the spans of each line holds of every span and some line. -/
theorem exists_line_of_mem_flatten {holds : Text → Span → Prop} {lines : List Text}
    {spans : List (List Span)}
    (each : List.Forall₂ (fun line spans => ∀ span ∈ spans, holds line span) lines spans) :
    ∀ span ∈ spans.flatten, ∃ line ∈ lines, holds line span := by
  intro span hmem
  induction each with
  | nil => exact absurd hmem List.not_mem_nil
  | cons hfirst _ ih =>
    rw [List.flatten_cons, List.mem_append] at hmem
    rcases hmem with hown | hlater
    · exact ⟨_, List.mem_cons_self, hfirst span hown⟩
    · obtain ⟨line, hline, hholds⟩ := ih hlater
      exact ⟨line, List.mem_cons_of_mem _ hline, hholds⟩

/-- **Slices are whole clusters, and so is all that is written.**  Between any two offsets,

* a slice is taken between two places that lie between characters of the line, the first one not
  behind the second;
* it is made of the clusters that start between the two clamped offsets, so that it is empty when
  these are the wrong way around;
* slices that meet add up, and a slice from the start that goes far enough is the whole line.

So whatever bounds a tokenizer gives to its tokens, whatever sink a run has, and wherever it ends,
it asks for each line to write runs of clusters of that line, none of them empty. -/
theorem slices_are_whole_clusters :
    (∀ line a b, let index := ClusterIndex.ofLine line
      (∃ front back, line = front ++ index.slice a b ++ back ∧
        front.byteSize = min (index.clamp a) (index.clamp b) ∧
        (front ++ index.slice a b).byteSize = index.clamp b) ∧
      index.slice a b = ((line.locatedClusters.filter fun place =>
        index.clamp a ≤ place.1 ∧ place.1 < index.clamp b).map Prod.snd).flatten ∧
      (index.clamp b ≤ index.clamp a → index.slice a b = []) ∧
      (∀ c, a ≤ b → b ≤ c → index.slice a b ++ index.slice b c = index.slice a c) ∧
      ∀ n, line.byteSize ≤ n → index.slice 0 n = line) ∧
    ∀ {σ μ τ : Type} (h : Highlighter σ μ) (memory : μ) (input : Input) (sink : Sink τ) (state : τ),
      ∃ spans : List (List Span),
        h.asked memory input sink state <+: spans.flatMap SinkOp.forLine ++ [.flush] ∧
        List.Forall₂ (fun line spans => ∀ span ∈ spans, line.IsClusterRun span.text)
          (LineReader.ofInput input).readAll.1.toList spans := by
  constructor
  · intro line a b index
    refine ⟨ClusterIndex.exists_append_slice line a b,
      ClusterIndex.slice_eq_flatten_filter line a b, ?_, ?_, ?_⟩
    · intro reversed
      exact ClusterIndex.slice_eq_nil_of_clamp_le line reversed
    · intro c hab hbc
      exact ClusterIndex.slice_append_slice_of_le line hab hbc
    · intro n beyond
      exact ClusterIndex.slice_zero_of_byteSize_le line beyond
  · intro σ μ τ h memory input sink state
    obtain ⟨spans, hops, -, -, hruns⟩ := h.exists_clusterRuns_stepsOf memory
      (LineReader.ofInput input).readAll.1.toList
    refine ⟨spans, ?_, hruns⟩
    rw [← hops]
    exact (h.asked_prefix memory input).trans (h.ops_script_prefix memory input)

/-- A line whose second cluster is a letter with an accent, from byte 1 to byte 4. -/
def accentInside : Text := ['x', 'e', '\u0301', 'y']

/-- Offset 2 lies inside that cluster. -/
theorem slices_are_whole_clusters_accent :
    (ClusterIndex.ofLine accentInside).slice 3 2 = [] ∧
      (ClusterIndex.ofLine accentInside).slice 0 2 ++ (ClusterIndex.ofLine accentInside).slice 2 4
        = ['x', 'e', '\u0301'] ∧
      (ClusterIndex.ofLine accentInside).slice 0 2 = ['x'] ∧
      (ClusterIndex.ofLine accentInside).slice 0 99 = accentInside := by
  obtain ⟨-, -, hreversed, -, hwhole⟩ := slices_are_whole_clusters.1 accentInside 3 2
  obtain ⟨-, -, -, hmeet, -⟩ := slices_are_whole_clusters.1 accentInside 0 2
  have hclamp : (ClusterIndex.ofLine accentInside).clamp 2
      ≤ (ClusterIndex.ofLine accentInside).clamp 3 := by
    decide +kernel
  refine ⟨hreversed hclamp, ?_, by decide +kernel, hwhole 99 (by decide)⟩
  rw [hmeet 4 (by decide) (by decide)]
  decide +kernel

end Highlighter

end Highlighting
