import Highlighting.Error
import Highlighting.Grammar.Notation
import Highlighting.Grammar.Source
import Highlighting.Regex.Parser
import Highlighting.Regex.Search

/-!
# Contexts made ready for use

From the entries of a grammar, `Grammar.ofSource` makes contexts that can be scanned with: regular
expressions are read, and the patterns of other contexts are put in where they are asked for.

Two contexts are added.  `__start` lies at the bottom of every stack; it holds the scope of the
grammar, and immediately enters `__main`, which is like `main` but never clears scopes.  The context
`main` itself gets the scope of the grammar in front of its content scopes, which shows only when
something enters `main` again.

## Patterns that refer back

A pattern that leaves a context may refer to the groups of the match that *entered* it, as `\1` to
`\9`.  Such references are filled in with the text of the groups, taken literally, when the context
is entered (`Pattern.filledIn`).
-/

namespace Highlighting

/-- The place of a pattern in its grammar: the number of its context, and its own number there. -/
abbrev PatternId := Nat × Nat

/-- A pattern with its regular expression read.  An expression that cannot be read matches
nothing. -/
structure Pattern where
  /-- Missing where the expression depends on how its context was entered. -/
  id : Option PatternId
  source : Text
  searcher : Option Searcher
  scopes : List Scope
  /-- The scopes of groups, other than those inside a look ahead or behind. -/
  captures : List (Nat × List Scope)
  transition : Transition
  deriving Inhabited

namespace Pattern

/-- Reads a regular expression. -/
def searcherOf (t : Text) : Option Searcher := (Regex.parse? t).map .ofRegex

/-- Reads the regular expression of a pattern. -/
def ofSource (id : PatternId) (p : PatternSource) : Pattern :=
  let source := Notation.expanded p.regex
  let known := Notation.groupsOutsideLooks source
  { id
    source
    searcher := searcherOf source
    scopes := p.scopes
    captures := p.captures.filter fun (group, _) => known.contains group
    transition := p.transition }

/-- Whether a text has a backslash with a digit after it. -/
def hasReference : Text → Bool
  | '\\' :: c :: t => c.isDigit || hasReference (c :: t)
  | _ :: t => hasReference t
  | [] => false

/-- Whether a pattern leaves its context and refers to the match that entered it. -/
def refersBack (p : Pattern) : Bool := p.transition == .pop && hasReference p.source

/-- The characters that need a backslash to stand for themselves. -/
def metaCharacters : Text := "\\.+*?()|[]\x7b\x7d^$#&-~".toList

/-- A text as part of a regular expression that matches just this text. -/
def quoted (t : Text) : Text :=
  t.flatMap fun c => if metaCharacters.contains c then ['\\', c] else [c]

/-- Replaces the references in a written expression by the quoted texts of groups. -/
def fillIn (groupText : Nat → Text) : Text → Text
  | '\\' :: c :: t =>
    if c.isDigit then quoted (groupText (c.toNat - 48)) ++ fillIn groupText t
    else '\\' :: c :: fillIn groupText t
  | c :: t => c :: fillIn groupText t
  | [] => []

/-- The pattern with its references filled in, if it has any. -/
def filledIn (p : Pattern) (groupText : Nat → Text) : Pattern :=
  if p.refersBack then
    { p with id := none, searcher := searcherOf (fillIn groupText p.source) }
  else p

end Pattern

/-- A context ready for use. -/
structure Context where
  metaScopes : List Scope
  metaContentScopes : List Scope
  clearScopes : Option ClearAmount
  patterns : List Pattern
  deriving Inhabited

/-- Whether one of the patterns refers back to the match that entered the context. -/
def Context.refersBack (context : Context) : Bool := context.patterns.any (·.refersBack)

/-- A grammar ready for use. -/
structure Grammar where
  name : String
  scope : Scope
  contexts : List (String × Context)

namespace Grammar

/-- The context at the bottom of every stack. -/
def startName : String := "__start"

/-- The context that the bottom one enters. -/
def entryName : String := "__main"

/-- The context in which a grammar begins. -/
def mainName : String := "main"

/-- The place of the bottom context in its grammar. -/
def startId : ContextId := ⟨0, 1⟩

/-- An entry that stands for patterns. -/
inductive PatternEntry
  | one (pattern : Pattern)
  | allOf (context : String)

/-- The entries of a context that stand for patterns, with the patterns read. -/
def patternEntries (entries : List ContextEntry) (contextNumber : Nat) : List PatternEntry :=
  entries.zipIdx.filterMap fun
    | (.pattern source, number) => some (.one (.ofSource (contextNumber, number) source))
    | (.patternsOf name, _) => some (.allOf name)
    | _ => none

/-- The patterns that entries stand for, with those of other contexts in their places, down to
`depth` contexts deep. -/
def patternsOf (contexts : List (String × List PatternEntry)) :
    Nat → List PatternEntry → List Pattern
  | 0, _ => []
  | depth + 1, entries => entries.flatMap fun
    | .one pattern => [pattern]
    | .allOf name => patternsOf contexts depth ((contexts.lookup name).getD [])

/-- Makes a context from its patterns and its other entries.  A later entry of a kind replaces an
earlier one. -/
def contextOf (patterns : List Pattern) (entries : List ContextEntry) : Context :=
  entries.foldl
    (fun context entry =>
      match entry with
      | .metaScopes scopes => { context with metaScopes := scopes }
      | .metaContentScopes scopes => { context with metaContentScopes := scopes }
      | .clearScopes amount => { context with clearScopes := some amount }
      | _ => context)
    ⟨[], [], none, patterns⟩

/-- The pattern of the bottom context, which matches anywhere. -/
def enteringPattern : Pattern where
  id := some (0, 0)
  source := []
  searcher := Pattern.searcherOf []
  scopes := []
  captures := []
  transition := .push [entryName]

/-- The bottom context of a grammar with this scope. -/
def startContext (scope : Scope) : Context := ⟨[], [scope], none, [enteringPattern]⟩

/-- Makes a grammar from its source. -/
def ofSource (source : GrammarSource) : Grammar :=
  let read := source.contexts.zipIdx.map fun ((name, entries), number) =>
    (name, patternEntries entries (number + 1))
  let context := fun name entries =>
    contextOf (patternsOf read (read.length + 1) [.allOf name]) entries
  let named := source.contexts.map fun (name, entries) =>
    let context := context name entries
    if name = mainName then
      (name, { context with metaContentScopes := source.scope :: context.metaContentScopes })
    else (name, context)
  let main := context mainName ((source.contexts.lookup mainName).getD [])
  { name := source.name
    scope := source.scope
    contexts := (startName, startContext source.scope)
      :: (entryName, { main with clearScopes := none }) :: named }

/-- The grammar without any of its contexts, as when it is looked up in a set that lacks them. -/
def detached (grammar : Grammar) : Grammar := { grammar with contexts := [] }

/-- The contexts that names stand for; unknown names stand for none. -/
def contextsOf (grammar : Grammar) (names : List String) : List Context :=
  names.filterMap (grammar.contexts.lookup ·)

end Grammar

end Highlighting
