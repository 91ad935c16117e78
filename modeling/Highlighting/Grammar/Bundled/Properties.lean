import Highlighting.Grammar.Bundled.Entry

/-!
# The grammar of property files
-/

namespace Highlighting.BundledGrammar

/-- The contexts of property files. -/
def propertiesContexts : List (String × List ContextEntry) := [
  ("anon_main_0", [
    .metaScopes (scopes "comment.block.java-props"),
    pattern "\\*/" "" [(0, "punctuation.definition.comment.java-props")] .pop]),
  ("main", [
    pattern "([#!])(.+)?$\\n?"
      "comment.line.number-sign.java-props" [(1, "punctuation.definition.comment.java-props")]
        .stay,
    pattern "/\\*" "" [(0, "punctuation.definition.comment.java-props")] (.push ["anon_main_0"]),
    pattern "^([^:=]+)([:=])(.*)$"
      "" [(1, "keyword.other.java-props"), (2, "punctuation.separator.key-value.java-props")]
        .stay])]

/-- The grammar of property files. -/
def properties : GrammarSource where
  name := "Java Properties"
  extensions := ["properties"]
  scope := Scope.ofText "source.java-props".toList
  contexts := propertiesContexts

end Highlighting.BundledGrammar
