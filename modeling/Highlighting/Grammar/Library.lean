import Highlighting.Grammar.Source
import Highlighting.Log.Basic
import Highlighting.Token.Tokenizer

/-!
# Finding a grammar

A language is named by a file extension or by the name of a grammar, in any letter case of `A` to
`Z`.  Extensions come first: a grammar is looked for by name only when none has the
extension.  Among several the last one in the library counts.

There is one search by extension, and one by *token*, which tries extensions and then names.

A **provider** is a library together with an engine for each of its grammars.
-/

namespace Highlighting

/-- Grammars, in order. -/
abbrev GrammarLibrary := List GrammarSource

namespace GrammarSource

/-- Whether one of the extensions is the language. -/
def hasExtension (grammar : GrammarSource) (language : Text) : Bool :=
  grammar.extensions.any fun e => Text.eqIgnoringAsciiCase e.toList language

/-- Whether the name is the language. -/
def hasName (grammar : GrammarSource) (language : Text) : Bool :=
  Text.eqIgnoringAsciiCase grammar.name.toList language

end GrammarSource

namespace GrammarLibrary

/-- The last grammar with an extension. -/
def findByExtension (library : GrammarLibrary) (language : Text) : Option GrammarSource :=
  library.reverse.find? (·.hasExtension language)

/-- The last grammar with a name. -/
def findByName (library : GrammarLibrary) (language : Text) : Option GrammarSource :=
  library.reverse.find? (·.hasName language)

/-- The last grammar that a token stands for: as an extension or, failing that, as a name. -/
def findByToken (library : GrammarLibrary) (token : Text) : Option GrammarSource :=
  (library.findByExtension token).orElse fun _ => library.findByName token

/-- The grammar for a language, if there is one.  Extensions are the common case and are looked for
at once, although the search by token begins with them too. -/
def resolve (library : GrammarLibrary) (language : Text) : Option GrammarSource :=
  (library.findByExtension language).orElse fun _ => library.findByToken language

/-- What is logged when a language is looked up. -/
def resolutionEvent (library : GrammarLibrary) (language : Text) : LogEvent :=
  match library.resolve language with
  | some grammar => .resolvedGrammar grammar.name (String.ofList language)
  | none => .noGrammar (String.ofList language)

end GrammarLibrary

/-- Hands out the tokenizers of a library's grammars. -/
structure GrammarProvider (ε : Type) where
  library : GrammarLibrary
  engine : GrammarSource → GrammarEngine ε

/-- The tokenizer for a language, if there is a grammar for it. -/
def GrammarProvider.tokenizer {ε : Type} (provider : GrammarProvider ε) (language : Text) :
    Option (Tokenizer (LexerState ε) Unit) :=
  (provider.library.resolve language).map fun source =>
    (provider.engine source).tokenizer source.scope

end Highlighting
