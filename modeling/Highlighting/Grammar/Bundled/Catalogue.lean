import Highlighting.Grammar.Bundled.Diff
import Highlighting.Grammar.Bundled.Json
import Highlighting.Grammar.Bundled.Lua
import Highlighting.Grammar.Bundled.Pascal
import Highlighting.Grammar.Bundled.Properties
import Highlighting.Grammar.Library
import Highlighting.Grammar.Scanner

/-!
# The bundled grammars

The grammars that come with the program, in the order in which they are looked up from the last to
the first.  Six of them are spelled out; of the others only the names and extensions are kept, so
they can be found but have no contexts to scan with.
-/

namespace Highlighting.BundledGrammar

/-- The grammar of plain text, in which nothing is special. -/
def plainText : GrammarSource where
  name := "Plain Text"
  extensions := ["txt"]
  scope := Scope.ofText "text.plain".toList
  contexts := [("main", [])]

/-- A grammar of which only the name and the extensions are kept. -/
def named (name : String) (extensions : List String) : GrammarSource where
  name
  extensions
  scope := .empty
  contexts := []

/-- All bundled grammars. -/
def library : GrammarLibrary := [
  plainText,
  named "ASP" ["asa"],
  named "HTML (ASP)" ["asp"],
  named "ActionScript" ["as"],
  named "AppleScript" ["applescript", "script editor"],
  named "Batch File" ["bat", "cmd"],
  named "NAnt Build File" ["build"],
  named "C#" ["cs", "csx"],
  named "C++" ["cpp", "cc", "cp", "cxx", "c++", "C", "h", "hh", "hpp", "hxx", "h++", "inl", "ipp"],
  named "C" ["c", "h"],
  named "CSS" ["css", "css.erb", "css.liquid"],
  named "Clojure" ["clj"],
  named "D" ["d", "di"],
  diff,
  named "Erlang" ["erl", "hrl", "Emakefile", "emakefile"],
  named "HTML (Erlang)" ["yaws"],
  named "Go" ["go"],
  named "Graphviz (DOT)" ["dot", "DOT", "gv"],
  named "Groovy" ["groovy", "gvy", "gradle"],
  named "HTML" ["html", "htm", "shtml", "xhtml", "inc", "tmpl", "tpl"],
  named "Haskell" ["hs"],
  named "Literate Haskell" ["lhs"],
  named "Java Server Page (JSP)" ["jsp"],
  named "Java" ["java", "bsh"],
  named "JavaDoc" [],
  properties,
  json,
  named "JavaScript" ["js", "htc"],
  named "Regular Expressions (Javascript)" [],
  named "BibTeX" ["bib"],
  named "LaTeX Log" [],
  named "LaTeX" ["tex", "ltx"],
  named "TeX" ["sty", "cls"],
  named "Lisp" ["lisp", "cl", "clisp", "l", "mud", "el", "scm", "ss", "lsp", "fasl"],
  lua,
  named "Make Output" [],
  named "Makefile" ["make", "GNUmakefile", "makefile", "Makefile", "OCamlMakefile", "mak", "mk"],
  named "Markdown" ["md", "mdown", "markdown", "markdn"],
  named "MultiMarkdown" [],
  named "MATLAB" ["matlab"],
  named "OCaml" ["ml", "mli"],
  named "OCamllex" ["mll"],
  named "OCamlyacc" ["mly"],
  named "camlp4" [],
  named "Objective-C++" ["mm", "M", "h"],
  named "Objective-C" ["m", "h"],
  named "PHP Source" [],
  named "PHP" ["php", "php3", "php4", "php5", "php7", "phps", "phpt", "phtml"],
  pascal,
  named "Perl" ["pl", "pm", "pod", "t", "PL"],
  named "Python" ["py", "py3", "pyw", "pyi", "pyx", "pyx.in", "pxd", "pxd.in", "pxi", "pxi.in",
    "rpy", "cpy", "SConstruct", "Sconstruct", "sconstruct", "SConscript", "gyp", "gypi",
    "Snakefile", "wscript"],
  named "Regular Expressions (Python)" [],
  named "R Console" [],
  named "R" ["R", "r", "s", "S", "Rprofile"],
  named "Rd (R Documentation)" ["rd"],
  named "HTML (Rails)" ["rails", "rhtml", "erb", "html.erb"],
  named "JavaScript (Rails)" ["js.erb"],
  named "Ruby Haml" ["haml", "sass"],
  named "Ruby on Rails" ["rxml", "builder"],
  named "SQL (Rails)" ["erbsql", "sql.erb"],
  named "Regular Expression" ["re"],
  named "reStructuredText" ["rst", "rest"],
  named "Ruby" ["rb", "Appfile", "Appraisals", "Berksfile", "Brewfile", "capfile", "cgi",
    "Cheffile", "config.ru", "Deliverfile", "Fastfile", "fcgi", "Gemfile", "gemspec", "Guardfile",
    "irbrc", "jbuilder", "podspec", "prawn", "rabl", "rake", "Rakefile", "Rantfile", "rbx", "rjs",
    "ruby.rail", "Scanfile", "simplecov", "Snapfile", "thor", "Thorfile", "Vagrantfile"],
  named "Cargo Build Results" [],
  named "Rust" ["rs"],
  named "SQL" ["sql", "ddl", "dml"],
  named "Scala" ["scala", "sbt"],
  named "Bourne Again Shell (bash)" ["sh", "bash", "zsh", "fish", ".bash_aliases",
    ".bash_completions", ".bash_functions", ".bash_login", ".bash_logout", ".bash_profile",
    ".bash_variables", ".bashrc", ".profile", ".textmate_init"],
  named "Shell-Unix-Generic" [],
  named "commands-builtin-shell-bash" [],
  named "HTML (Tcl)" ["adp"],
  named "Tcl" ["tcl"],
  named "Textile" ["textile"],
  named "XML" ["xml", "xsd", "xslt", "tld", "dtml", "rss", "opml", "svg"],
  named "YAML" ["yaml", "yml", "sublime-syntax"]]

/-- The bundled grammars with the scanner as their engine. -/
def provider : GrammarProvider (Option (List Level)) where
  library := library
  engine source := (Grammar.ofSource source).engine

end Highlighting.BundledGrammar
