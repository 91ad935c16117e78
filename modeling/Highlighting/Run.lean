import Highlighting.LineReader
import Highlighting.Log.Basic
import Highlighting.Sink.Basic
import Highlighting.Theme.Rule
import Highlighting.Token.Tokenizer

/-!
# Highlighting a text

A run reads lines, tokenizes them, finds the style of each token, and hands the spans to a sink.

It is described in two parts.  The **script** of a run is everything it would do if the sink never
failed: which tokenizer calls it makes, what it logs, and what it asks of the sink, in order
(`Step`).  **Playing** a script on a sink carries out its steps up to the first operation that
fails. Nothing that the sink answers flows back into the script, other than that it may end early.

## What a line gives

* Without a tokenizer, the line is one unstyled span.
* Otherwise the tokenizer is called with the state that the line before left behind.  Its tokens
  become spans, those without text are skipped, and its state is kept for the next line.
* A line that cannot be tokenized is *degraded*: it is logged under the number that the reader gave
  it, written as one unstyled span, and the next line starts without a state.

An empty line has no span.  Every line ends in a line break, and a run whose input ends well ends in
a flush and a log entry with the counts.
-/

namespace Highlighting

/-- A tokenizer call: the line and the prior state. -/
structure Call (σ : Type) where
  line : Text
  prior : Option σ

/-- One step of a run. -/
inductive Step (σ : Type)
  | call (call : Call σ)
  | log (event : LogEvent)
  | sink (op : SinkOp)

/-- What a run is made of: a tokenizer, if there is one, and the rules of a theme. -/
structure Highlighter (σ μ : Type) where
  tokenizer : Option (Tokenizer σ μ)
  rules : List Rule

/-- What is carried from line to line. -/
structure Progress (σ μ : Type) where
  /-- The state that the last line left behind. -/
  state : Option σ
  /-- The tokenizer's own memory. -/
  memory : μ
  summary : Summary

namespace Progress

variable {σ μ : Type}

/-- Nothing has been read yet. -/
def start (memory : μ) : Progress σ μ := ⟨none, memory, ⟨0, 0, 0⟩⟩

end Progress

namespace Highlighter

variable {σ μ τ : Type}

/-- The spans of a line that is not tokenized. -/
def unstyledSpans (line : Text) : List Span :=
  if line.isEmpty then [] else [.unstyled line]

/-- The spans of a line that is cut into tokens. -/
def tokenSpans (rules : List Rule) (line : Text) (tokens : List Token) : List Span :=
  let index := ClusterIndex.ofLine line
  tokens.filterMap fun token =>
    let text := token.textIn index
    if text.isEmpty then none else some ⟨text, resolve rules token.scopes⟩

/-- The sink operations for the spans of a line. -/
def writes (spans : List Span) : List (Step σ) :=
  spans.map (fun span => .sink (.write span)) ++ [.sink .lineBreak]

/-- Counts a line that was written without trouble. -/
def countLine (summary : Summary) (spans : List Span) : Summary :=
  { summary with lines := summary.lines + 1, spans := summary.spans + spans.length }

/-- Counts a line that could not be tokenized. -/
def countDegraded (summary : Summary) (spans : List Span) : Summary :=
  { countLine summary spans with degradedLines := summary.degradedLines + 1 }

/-- What one line adds to the script, and what is carried to the next line.  A line that cannot be
tokenized is logged under the number that it came with. -/
def lineSteps (h : Highlighter σ μ) (line : NumberedLine) (progress : Progress σ μ) :
    List (Step σ) × Progress σ μ :=
  match h.tokenizer with
  | none =>
    let spans := unstyledSpans line.text
    (writes spans, { progress with summary := countLine progress.summary spans })
  | some tokenizer =>
    let call := Step.call ⟨line.text, progress.state⟩
    match tokenizer.tokenizeLine line.text progress.state progress.memory with
    | (.ok (tokens, state), memory) =>
      let spans := tokenSpans h.rules line.text tokens
      (call :: writes spans, ⟨some state, memory, countLine progress.summary spans⟩)
    | (.error error, memory) =>
      let spans := unstyledSpans line.text
      (call :: .log (.degradedLine line.number error) :: writes spans,
        ⟨none, memory, countDegraded progress.summary spans⟩)

/-- What lines add to a script. -/
def linesSteps (h : Highlighter σ μ) (lines : List NumberedLine) (steps : Array (Step σ))
    (progress : Progress σ μ) : Array (Step σ) × Progress σ μ :=
  lines.foldl
    (fun (steps, progress) line =>
      let (added, progress) := h.lineSteps line progress
      (steps ++ added, progress))
    (steps, progress)

/-- A whole script: its steps and how it ends. -/
structure Script (σ : Type) where
  steps : Array (Step σ)
  ending : Except IoFailure Summary

/-- The script of a run over an input.  A read failure ends it after the complete lines. -/
def script (h : Highlighter σ μ) (memory : μ) (input : Input) : Script σ :=
  let (lines, failure) := (LineReader.ofInput input).readNumbered
  let (steps, progress) := h.linesSteps lines.toList #[] (.start memory)
  match failure with
  | some failure => ⟨steps, .error failure⟩
  | none =>
    let steps := steps.push (.sink .flush)
    ⟨steps.push (.log (.highlighted progress.summary)), .ok progress.summary⟩

/-- What is left of a run: how it ended, the sink, the log, and the tokenizer calls. -/
structure Outcome (σ τ : Type) where
  result : Except IoFailure Summary
  sink : τ
  log : Array LogEvent
  calls : Array (Call σ)

/-- Carries out steps up to the first sink operation that fails. -/
def play (sink : Sink τ) (ending : Except IoFailure Summary) :
    List (Step σ) → Outcome σ τ → Outcome σ τ
  | [], outcome => { outcome with result := ending }
  | .call call :: steps, outcome =>
    play sink ending steps { outcome with calls := outcome.calls.push call }
  | .log event :: steps, outcome =>
    play sink ending steps { outcome with log := outcome.log.push event }
  | .sink op :: steps, outcome =>
    match sink.perform op outcome.sink with
    | (.ok (), state) => play sink ending steps { outcome with sink := state }
    | (.error failure, state) => { outcome with result := .error failure, sink := state }

/-- Highlights an input into a sink. -/
def run (h : Highlighter σ μ) (memory : μ) (input : Input) (sink : Sink τ) (state : τ) :
    Outcome σ τ :=
  let script := h.script memory input
  play sink script.ending script.steps.toList ⟨script.ending, state, #[], #[]⟩

end Highlighter

end Highlighting
