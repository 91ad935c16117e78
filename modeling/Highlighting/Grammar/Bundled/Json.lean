import Highlighting.Grammar.Bundled.Entry

/-!
# The grammar of JSON
-/

namespace Highlighting.BundledGrammar

/-- The contexts of JSON. -/
def jsonContexts : List (String × List ContextEntry) := [
  ("anon_array_0", [
    .metaScopes (scopes "meta.structure.array.json"),
    pattern "\\]" "punctuation.section.array.end.json" [] .pop,
    .patternsOf "value",
    pattern "," "punctuation.separator.array.json" [] .stay,
    pattern "[^\\s\\]]" "invalid.illegal.expected-array-separator.json" [] .stay]),
  ("anon_comments_0", [
    .metaScopes (scopes "comment.block.documentation.json"),
    pattern "\\*/" "" [] .pop]),
  ("anon_comments_1", [
    .metaScopes (scopes "comment.block.json"),
    pattern "\\*/" "" [] .pop]),
  ("anon_object_0", [
    .metaScopes (scopes "meta.structure.dictionary.json"),
    pattern "\\\x7d" "punctuation.section.dictionary.end.json" [] .pop,
    pattern "\"" "punctuation.definition.string.begin.json" [] (.push ["anon_object_1"]),
    .patternsOf "comments",
    pattern ":" "punctuation.separator.dictionary.key-value.json" [] (.push ["anon_object_2"]),
    pattern "[^\\s\\\x7d]" "invalid.illegal.expected-dictionary-separator.json" [] .stay]),
  ("anon_object_1", [
    .metaScopes (scopes "meta.structure.dictionary.key.json string.quoted.double.json"),
    .patternsOf "inside-string"]),
  ("anon_object_2", [
    .metaScopes (scopes "meta.structure.dictionary.value.json"),
    pattern "(,)|(?=\\\x7d)" "" [(1, "punctuation.separator.dictionary.pair.json")] .pop,
    .patternsOf "value",
    pattern "[^\\s,]" "invalid.illegal.expected-dictionary-separator.json" [] .stay]),
  ("array", [
    pattern "\\[" "punctuation.section.array.begin.json" [] (.push ["anon_array_0"])]),
  ("comments", [
    pattern "/\\*\\*(?!/)" "punctuation.definition.comment.json" [] (.push ["anon_comments_0"]),
    pattern "/\\*" "punctuation.definition.comment.json" [] (.push ["anon_comments_1"]),
    pattern "(//).*$\\n?"
      "comment.line.double-slash.js" [(1, "punctuation.definition.comment.json")] .stay]),
  ("constant", [
    pattern "\\b(?:true|false|null)\\b" "constant.language.json" [] .stay]),
  ("inside-string", [
    .metaScopes (scopes "string.quoted.double.json"),
    pattern "\"" "punctuation.definition.string.end.json" [] .pop,
    .patternsOf "string-escape",
    pattern "$\\n?" "invalid.illegal.unclosed-string.json" [] .pop]),
  ("main", [
    .patternsOf "value"]),
  ("number", [
    pattern ("(?x:         # turn on extended mode\n  -?         # an optional minus\n  (?:" ++
        "\n    0        # a zero\n    |        # ...or...\n    [1-9]    # a 1-9 character" ++
        "\n    \\d*      # followed by zero or more digits\n  )\n  (?:\n    (?:\n      \\." ++
        "     # a period\n      \\d+    # followed by one or more digits\n    )?\n    (?:" ++
        "\n      [eE]   # an e character\n      [+-]?  # followed by an option +/-\n      " ++
        "\\d+    # followed by one or more digits\n    )?       # make exponent optional\n" ++
        "  )?         # make decimal portion optional\n)") "constant.numeric.json" [] .stay]),
  ("object", [
    pattern "\\\x7b" "punctuation.section.dictionary.begin.json" [] (.push ["anon_object_0"])]),
  ("string", [
    pattern "\"" "punctuation.definition.string.begin.json" [] (.push ["inside-string"])]),
  ("string-escape", [
    pattern ("(?x:                # turn on extended mode\n  \\\\                # a litera" ++
        "l backslash\n  (?:               # ...followed by...\n    [\"\\\\/bfnrt]     # on" ++
        "e of these characters\n    |               # ...or...\n    u               # a u" ++
        "\n    [0-9a-fA-F]\x7b4\x7d  # and four hex digits\n  )\n)")
      "constant.character.escape.json" [] .stay,
    pattern "\\\\." "invalid.illegal.unrecognized-string-escape.json" [] .stay]),
  ("value", [
    .patternsOf "constant",
    .patternsOf "number",
    .patternsOf "string",
    .patternsOf "array",
    .patternsOf "object",
    .patternsOf "comments"])]

/-- The grammar of JSON. -/
def json : GrammarSource where
  name := "JSON"
  extensions := ["json", "sublime-settings", "sublime-menu", "sublime-keymap", "sublime-mousemap",
    "sublime-theme", "sublime-build", "sublime-project", "sublime-completions",
    "sublime-commands", "sublime-macro", "sublime-color-scheme"]
  scope := Scope.ofText "source.json".toList
  contexts := jsonContexts

end Highlighting.BundledGrammar
