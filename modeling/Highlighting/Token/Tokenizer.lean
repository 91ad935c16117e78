import Highlighting.Error
import Highlighting.Token.Events

/-!
# Tokenizers

A **tokenizer** cuts one line at a time and hands a state from each line to the next.  It may also
keep a memory of its own between calls, for instance a count of them; most have none.

Grammars are one kind.  What scans the text is left open: a `GrammarEngine` is anything that turns a
line into scope events.  `ofEngine` makes a tokenizer of an engine by cutting the line at its
events, with the scope stack carried along in the state.
-/

namespace Highlighting

/-- Tokenizes lines, threading a state `σ` from line to line and keeping a memory `μ`. -/
structure Tokenizer (σ μ : Type) where
  tokenizeLine : Text → Option σ → μ → Except Error (List Token × σ) × μ

namespace Tokenizer

variable {σ μ : Type}

/-- A tokenizer without a memory: a function of the line and the prior state. -/
def ofFunction (f : Text → Option σ → Except Error (List Token × σ)) : Tokenizer σ Unit where
  tokenizeLine line prior memory := (f line prior, memory)

/-- The tokenizer that fails on the lines that satisfy `refuses`, and otherwise asks the given
one. -/
def failingOn (tokenizer : Tokenizer σ μ) (refuses : Text → Bool) (error : Error) :
    Tokenizer σ μ where
  tokenizeLine line prior memory :=
    if refuses line then (.error error, memory) else tokenizer.tokenizeLine line prior memory

end Tokenizer

/-- Scans lines for scope events.  The scanner's state at the start of a text is `start`. -/
structure GrammarEngine (ε : Type) where
  start : ε
  parseLine : Text → ε → Except ParsingError (List ScopeEvent × ε)

/-- Where a grammar stands between two lines. -/
structure LexerState (ε : Type) where
  engine : ε
  stack : ScopeStack

namespace LexerState

/-- The state at the start of a text. -/
def start {ε : Type} (engine : GrammarEngine ε) : LexerState ε := ⟨engine.start, .empty⟩

end LexerState

namespace GrammarEngine

variable {ε : Type}

/-- Tokenizes a line from the state left by the one before, or from the start.  Tokens of a line
without open scopes carry the root scope. -/
def tokenizeLine (engine : GrammarEngine ε) (root : Scope) (line : Text)
    (prior : Option (LexerState ε)) : Except Error (List Token × LexerState ε) :=
  let state := prior.getD (.start engine)
  match engine.parseLine line state.engine with
  | .error error => .error (.parsing error)
  | .ok (events, next) =>
    match Token.ofEvents line events state.stack root with
    | (.error error, _) => .error (.invalidScopeOperation error.detail)
    | (.ok tokens, stack) => .ok (tokens, ⟨next, stack⟩)

/-- The tokenizer of an engine. -/
def tokenizer (engine : GrammarEngine ε) (root : Scope) : Tokenizer (LexerState ε) Unit :=
  Tokenizer.ofFunction (engine.tokenizeLine root)

end GrammarEngine

end Highlighting
