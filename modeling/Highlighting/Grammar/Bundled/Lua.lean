import Highlighting.Grammar.Bundled.Entry

/-!
# The grammar of Lua
-/

namespace Highlighting.BundledGrammar

/-- The contexts of Lua. -/
def luaContexts : List (String × List ContextEntry) := [
  ("anon_main_0", [
    .metaScopes (scopes "string.quoted.single.lua"),
    pattern "'" "" [(0, "punctuation.definition.string.end.lua")] .pop,
    pattern "\\\\([abfnrtv\\\\\"']|\\r?\\n|\\n\\r?|\\d\\d?\\d?)"
      "constant.character.escape.lua" [] .stay,
    pattern "\\\\[xX][0-9a-fA-F][0-9a-fA-F]" "constant.character.escape.lua" [] .stay,
    pattern "\\\\u\\\x7b[0-9a-fA-F]\x7b,7\x7d\\\x7d" "constant.character.escape.lua" [] .stay]),
  ("anon_main_1", [
    .metaScopes (scopes "string.quoted.double.lua"),
    pattern "\"" "" [(0, "punctuation.definition.string.end.lua")] .pop,
    pattern "\\\\([abfnrtv\\\\\"']|\\r?\\n|\\n\\r?|\\d\\d?\\d?)"
      "constant.character.escape.lua" [] .stay,
    pattern "\\\\[xX][0-9a-fA-F][0-9a-fA-F]" "constant.character.escape.lua" [] .stay,
    pattern "\\\\u\\\x7b[0-9a-fA-F]\x7b,7\x7d\\\x7d" "constant.character.escape.lua" [] .stay]),
  ("anon_main_2", [
    .metaScopes (scopes "string.quoted.other.multiline.lua"),
    pattern "\\]\\1\\]" "" [(0, "punctuation.definition.string.end.lua")] .pop]),
  ("anon_main_3", [
    .metaScopes (scopes "comment.block.lua"),
    pattern "\\]\\1\\]" "" [(0, "punctuation.definition.comment.lua")] .pop]),
  ("main", [
    pattern "\\b(function)\\s+([a-zA-Z_.:]+[.:])?([a-zA-Z_]\\w*)\\s*(\\()([^)]*)(\\))"
      "meta.function.lua" [(1, "keyword.control.lua"), (2, "entity.name.function.scope.lua"),
        (3, "entity.name.function.lua"), (4, "punctuation.definition.parameters.begin.lua"),
        (5, "variable.parameter.function.lua"),
        (6, "punctuation.definition.parameters.end.lua")] .stay,
    pattern ("(?<![\\d.])\\b0[xX][a-fA-F\\d\\.]+([pP][\\-\\+]?\\d+)?|\\b\\d+(\\.\\d+)?([eE]" ++
        "-?\\d+)?|\\.\\d+([eE]-?\\d+)?") "constant.numeric.lua" [] .stay,
    pattern "'" "" [(0, "punctuation.definition.string.begin.lua")] (.push ["anon_main_0"]),
    pattern "\"" "" [(0, "punctuation.definition.string.begin.lua")] (.push ["anon_main_1"]),
    pattern "(?<!--)\\[(=*)\\["
      "" [(0, "punctuation.definition.string.begin.lua")] (.push ["anon_main_2"]),
    pattern "--\\[(=*)\\[" "" [(0, "punctuation.definition.comment.lua")] (.push ["anon_main_3"]),
    pattern "(--)(?!\\[\\[).*$\\n?"
      "comment.line.double-dash.lua" [(1, "punctuation.definition.comment.lua")] .stay,
    pattern ("\\b(break|do|else|for|if|elseif|return|then|repeat|while|until|end|function|l" ++
        "ocal|in)\\b") "keyword.control.lua" [] .stay,
    pattern ("(?<![^.]\\.|:)\\b(false|nil|true|_G|_VERSION|math\\.(pi|huge))\\b|(?<![.])\\." ++
        "\x7b3\x7d(?!\\.)") "constant.language.lua" [] .stay,
    pattern "(?<![^.]\\.|:)\\b(self)\\b" "variable.language.self.lua" [] .stay,
    pattern ("(?<![^.]\\.|:)\\b(assert|collectgarbage|dofile|error|getfenv|getmetatable|ipa" ++
        "irs|loadfile|loadstring|module|next|pairs|pcall|print|rawequal|rawget|rawset|requ" ++
        "ire|select|setfenv|setmetatable|tonumber|tostring|type|unpack|xpcall)\\b(?=[( " ++
        "\x7b\"'\\[])") "support.function.lua" [] .stay,
    pattern ("(?<![^.]\\.|:)\\b(coroutine\\.(create|resume|running|status|wrap|yield)|strin" ++
        "g\\.(byte|char|dump|find|format|gmatch|gsub|len|lower|match|rep|reverse|sub|upper" ++
        ")|table\\.(concat|insert|maxn|remove|sort)|math\\.(abs|acos|asin|atan2?|ceil|cosh" ++
        "?|deg|exp|floor|fmod|frexp|ldexp|log|log10|max|min|modf|pow|rad|random|randomseed" ++
        "|sinh?|sqrt|tanh?)|io\\.(close|flush|input|lines|open|output|popen|read|tmpfile|t" ++
        "ype|write)|os\\.(clock|date|difftime|execute|exit|getenv|remove|rename|setlocale|" ++
        "time|tmpname)|package\\.(cpath|loaded|loadlib|path|preload|seeall)|debug\\.(debug" ++
        "|[gs]etfenv|[gs]ethook|getinfo|[gs]etlocal|[gs]etmetatable|getregistry|[gs]etupva" ++
        "lue|traceback))\\b(?=[( \x7b\"'\\[])") "support.function.library.lua" [] .stay,
    pattern "\\b(and|or|not)\\b" "keyword.operator.lua" [] .stay,
    pattern "\\+|-|%|#|\\*|\\/|\\^|==?|~=|<=?|>=?|(?<!\\.)\\.\x7b2\x7d(?!\\.)"
      "keyword.operator.lua" [] .stay])]

/-- The grammar of Lua. -/
def lua : GrammarSource where
  name := "Lua"
  extensions := ["lua"]
  scope := Scope.ofText "source.lua".toList
  contexts := luaContexts

end Highlighting.BundledGrammar
