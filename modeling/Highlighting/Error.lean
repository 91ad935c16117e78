/-!
# What can go wrong

Failures are values that name their cause; the wording is in one function per type.  Three parties
can fail a run: the outside world (`IoFailure`), a grammar that refers to a context it does not have
(`ParsingError`), and the program itself (`Error`, which wraps the other two).
-/

namespace Highlighting

/-- A failure of the outside world. -/
inductive IoFailure
  /-- The reader at the other end has gone away. -/
  | brokenPipe
  /-- What was written cannot be passed on. -/
  | pipeClosed
  /-- A device reports trouble in its own words. -/
  | device (report : String)
  deriving Repr, DecidableEq

/-- The text of an outside failure. -/
def IoFailure.message : IoFailure → String
  | .brokenPipe => "broken pipe"
  | .pipeClosed => "pipe closed"
  | .device report => report

/-- Where a grammar keeps a context: the grammar's place in its set, and the context's place in the
grammar. -/
structure ContextId where
  grammar : Nat
  context : Nat
  deriving Repr, DecidableEq

/-- A failure of the grammar engine. -/
inductive ParsingError
  /-- The grammar set does not hold a context that a line needs. -/
  | missingContext (id : ContextId)
  deriving Repr, DecidableEq

/-- The text of an engine failure. -/
def ParsingError.message : ParsingError → String
  | .missingContext id =>
    "Missing context with ID 'ContextId \x7b syntax_index: " ++ toString id.grammar ++
      ", context_index: " ++ toString id.context ++ " \x7d'"

/-- Any failure of the program. -/
inductive Error
  | io (failure : IoFailure)
  | parsing (error : ParsingError)
  | themeNotFound (name : String)
  | fileNotFound (path : String)
  | invalidScopeOperation (detail : String)
  deriving Repr, DecidableEq

/-- The text of a failure, as shown to the user. -/
def Error.message : Error → String
  | .io failure => failure.message
  | .parsing error => error.message
  | .themeNotFound name => "theme '" ++ name ++ "' is not available"
  | .fileNotFound path => "File " ++ path ++ " not found"
  | .invalidScopeOperation detail =>
    "grammar produced an invalid scope operation: " ++ detail

end Highlighting
