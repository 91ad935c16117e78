import Highlighting.Grammar.Bundled.Entry

/-!
# The grammar of differences between files
-/

namespace Highlighting.BundledGrammar

/-- The contexts of differences between files. -/
def diffContexts : List (String × List ContextEntry) := [
  ("main", [
    pattern "^((\\*\x7b15\x7d)|(=\x7b67\x7d)|(-\x7b3\x7d))$\\n?"
      "meta.separator.diff" [(1, "punctuation.definition.separator.diff")] .stay,
    pattern "^\\d+(,\\d+)*(a|d|c)\\d+(,\\d+)*$\\n?" "meta.diff.range.normal" [] .stay,
    pattern "^(@@)\\s*(.+?)\\s*(@@)($\\n?)?"
      "meta.diff.range.unified" [(1, "punctuation.definition.range.diff"),
        (2, "meta.toc-list.line-number.diff"), (3, "punctuation.definition.range.diff")] .stay,
    pattern "^(((\\-\x7b3\x7d) .+ (\\-\x7b4\x7d))|((\\*\x7b3\x7d) .+ (\\*\x7b4\x7d)))$\\n?"
      "meta.diff.range.context" [(3, "punctuation.definition.range.diff"),
        (4, "punctuation.definition.range.diff"), (6, "punctuation.definition.range.diff"),
        (7, "punctuation.definition.range.diff")] .stay,
    pattern "(^(((-\x7b3\x7d) .+)|((\\*\x7b3\x7d) .+))$\\n?|^(=\x7b4\x7d) .+(?= - ))"
      "meta.diff.header.from-file" [(4, "punctuation.definition.from-file.diff"),
        (6, "punctuation.definition.from-file.diff"),
        (7, "punctuation.definition.from-file.diff")] .stay,
    pattern "(^(\\+\x7b3\x7d) .+$\\n?| (-) .* (=\x7b4\x7d)$\\n?)"
      "meta.diff.header.to-file" [(2, "punctuation.definition.to-file.diff"),
        (3, "punctuation.definition.to-file.diff"), (4, "punctuation.definition.to-file.diff")]
        .stay,
    pattern "^(((>)( .*)?)|((\\+).*))$\\n?"
      "markup.inserted.diff" [(3, "punctuation.definition.inserted.diff"),
        (6, "punctuation.definition.inserted.diff")] .stay,
    pattern "^(!).*$\\n?"
      "markup.changed.diff" [(1, "punctuation.definition.changed.diff")] .stay,
    pattern "^(((<)( .*)?)|((-).*))$\\n?"
      "markup.deleted.diff" [(3, "punctuation.definition.deleted.diff"),
        (6, "punctuation.definition.deleted.diff")] .stay,
    pattern "^Index(:) (.+)$\\n?"
      "meta.diff.index" [(1, "punctuation.separator.key-value.diff"),
        (2, "meta.toc-list.file-name.diff")] .stay])]

/-- The grammar of differences between files. -/
def diff : GrammarSource where
  name := "Diff"
  extensions := ["diff", "patch"]
  scope := Scope.ofText "source.diff".toList
  contexts := diffContexts

end Highlighting.BundledGrammar
