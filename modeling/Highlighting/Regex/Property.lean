import Highlighting.Regex.CharSet
import Highlighting.Text.Basic

/-!
# Names of properties

What may stand after `\p` in a regular expression: the short and long names of the Unicode
categories and of their groups, and a few other properties.  Names are compared without regard to
case, spaces, hyphens and underscores.
-/

namespace Highlighting.Regex

/-- The categories and their groups by their names. -/
def namedCategories : List (String × String × List Category) :=
  [("l", "letter", Category.letters), ("lu", "uppercaseletter", [.upperCaseLetter]),
    ("ll", "lowercaseletter", [.lowerCaseLetter]), ("lt", "titlecaseletter", [.titleCaseLetter]),
    ("lc", "casedletter", [.upperCaseLetter, .lowerCaseLetter, .titleCaseLetter]),
    ("lm", "modifierletter", [.modifierLetter]), ("lo", "otherletter", [.otherLetter]),
    ("m", "mark", Category.marks), ("mn", "nonspacingmark", [.nonspacingMark]),
    ("mc", "spacingmark", [.spacingMark]), ("me", "enclosingmark", [.enclosingMark]),
    ("n", "number", Category.numbers), ("nd", "decimalnumber", [.decimalNumber]),
    ("nl", "letternumber", [.letterNumber]), ("no", "othernumber", [.otherNumber]),
    ("p", "punctuation", Category.punctuation),
    ("pc", "connectorpunctuation", [.connectorPunctuation]),
    ("pd", "dashpunctuation", [.dashPunctuation]), ("ps", "openpunctuation", [.openPunctuation]),
    ("pe", "closepunctuation", [.closePunctuation]),
    ("pi", "initialpunctuation", [.initialPunctuation]),
    ("pf", "finalpunctuation", [.finalPunctuation]),
    ("po", "otherpunctuation", [.otherPunctuation]), ("s", "symbol", Category.symbols),
    ("sm", "mathsymbol", [.mathSymbol]), ("sc", "currencysymbol", [.currencySymbol]),
    ("sk", "modifiersymbol", [.modifierSymbol]), ("so", "othersymbol", [.otherSymbol]),
    ("z", "separator", Category.separators), ("zs", "spaceseparator", [.spaceSeparator]),
    ("zl", "lineseparator", [.lineSeparator]), ("zp", "paragraphseparator", [.paragraphSeparator]),
    ("c", "other", .unassigned :: Category.others), ("cc", "control", [.control]),
    ("cf", "format", [.format]), ("co", "privateuse", [.privateUse]),
    ("cn", "unassigned", [.unassigned]), ("digit", "digit", [.decimalNumber]),
    ("punct", "punct", Category.punctuation), ("cntrl", "cntrl", [.control]),
    ("assigned", "assigned", Category.assigned)]

/-- The other properties by their names. -/
def namedSets : List (String × CharSet) :=
  [("alphabetic", .having .alphabetic), ("alpha", .having .alphabetic),
    ("whitespace", .having .space), ("wspace", .having .space), ("space", .having .space),
    ("any", .anything), ("ascii", .range 0 0x7F)]

/-- The set of a name. -/
def setNamed (name : Text) : Option CharSet :=
  let plain := String.ofList ((name.filter fun c => !" -_".toList.contains c).map Char.toLower)
  match namedCategories.find? fun (short, long, _) => short == plain || long == plain with
  | some (_, _, categories) => some (.ofCategories categories)
  | none => namedSets.lookup plain

/-- Reads the name of a property: one letter, or a name in braces, which may be negated. -/
def readProperty : Text → Option (CharSet × Text)
  | '\x7b' :: t => do
    let name := t.takeWhile (· != '\x7d')
    let rest := (t.dropWhile (· != '\x7d')).drop 1
    match name with
    | '^' :: name => pure (.complement (← setNamed name), rest)
    | name => pure (← setNamed name, rest)
  | c :: t => (setNamed [c]).map (·, t)
  | [] => none

end Highlighting.Regex
