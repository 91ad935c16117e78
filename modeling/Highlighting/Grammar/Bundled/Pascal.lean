import Highlighting.Grammar.Bundled.Entry

/-!
# The grammar of Pascal
-/

namespace Highlighting.BundledGrammar

/-- The contexts of Pascal. -/
def pascalContexts : List (String × List ContextEntry) := [
  ("anon_main_0", [
    .metaScopes (scopes "comment.line.double-dash.pascal.one"),
    pattern "\\n" "" [] .pop]),
  ("anon_main_1", [
    .metaScopes (scopes "comment.line.double-slash.pascal.two"),
    pattern "\\n" "" [] .pop]),
  ("anon_main_2", [
    .metaScopes (scopes "comment.block.pascal.one"),
    pattern "\\*\\)" "" [(0, "punctuation.definition.comment.pascal")] .pop]),
  ("anon_main_3", [
    .metaScopes (scopes "comment.block.pascal.two"),
    pattern "\\\x7d" "" [(0, "punctuation.definition.comment.pascal")] .pop]),
  ("anon_main_4", [
    .metaScopes (scopes "string.quoted.double.pascal"),
    pattern "\"" "" [(0, "punctuation.definition.string.end.pascal")] .pop,
    pattern "\\\\." "constant.character.escape.pascal" [] .stay]),
  ("anon_main_5", [
    .metaScopes (scopes "string.quoted.single.pascal"),
    pattern "''" "constant.character.escape.apostrophe.pascal" [] .stay,
    pattern "'" "" [(0, "punctuation.definition.string.end.pascal")] .pop]),
  ("main", [
    pattern ("\\b(?i:(absolute|abstract|all|and|and_then|array|as|asm|attribute|begin|binda" ++
        "ble|case|class|const|constructor|destructor|div|do|do|else|end|except|export|expo" ++
        "rts|external|far|file|finalization|finally|for|forward|goto|if|implementation|imp" ++
        "ort|in|inherited|initialization|interface|interrupt|is|label|library|mod|module|n" ++
        "ame|near|nil|not|object|of|only|operator|or|or_else|otherwise|packed|pow|private|" ++
        "program|property|protected|public|published|qualified|record|repeat|resident|rest" ++
        "ricted|segment|set|shl|shr|then|to|try|type|unit|until|uses|value|var|view|virtua" ++
        "l|while|with|xor))\\b") "keyword.control.pascal" [] .stay,
    pattern ("\\b(?i:(function|procedure))\\b\\s+(\\w+(\\.\\w+)?)(\\(.*?\\))?;\\s*(?=(?i:at" ++
        "tribute|forward|external))")
      "meta.function.prototype.pascal" [(1, "storage.type.prototype.pascal"),
        (2, "entity.name.function.prototype.pascal")] .stay,
    pattern "\\b(?i:(function|procedure))\\b\\s+(\\w+(\\.\\w+)?)"
      "meta.function.pascal" [(1, "storage.type.function.pascal"),
        (2, "entity.name.function.pascal")] .stay,
    pattern ("\\b((0(x|X)[0-9a-fA-F]*)|(([0-9]+\\.?[0-9]*)|(\\.[0-9]+))((e|E)(\\+|-)?[0-9]+" ++
        ")?)(L|l|UL|ul|u|U|F|f|ll|LL|ull|ULL)?\\b") "constant.numeric.pascal" [] .stay,
    pattern "(^[ \\t]+)?(--)"
      "" [(1, "punctuation.whitespace.comment.leading.pascal"),
        (2, "punctuation.definition.comment.pascal")] (.push ["anon_main_0"]),
    pattern "(^[ \\t]+)?(//)"
      "" [(1, "punctuation.whitespace.comment.leading.pascal"),
        (2, "punctuation.definition.comment.pascal")] (.push ["anon_main_1"]),
    pattern "\\(\\*" "" [(0, "punctuation.definition.comment.pascal")] (.push ["anon_main_2"]),
    pattern "\\\x7b" "" [(0, "punctuation.definition.comment.pascal")] (.push ["anon_main_3"]),
    pattern "\"" "" [(0, "punctuation.definition.string.begin.pascal")] (.push ["anon_main_4"]),
    pattern "'" "" [(0, "punctuation.definition.string.begin.pascal")] (.push ["anon_main_5"])])]

/-- The grammar of Pascal. -/
def pascal : GrammarSource where
  name := "Pascal"
  extensions := ["pas", "p", "dpr"]
  scope := Scope.ofText "source.pascal".toList
  contexts := pascalContexts

end Highlighting.BundledGrammar
