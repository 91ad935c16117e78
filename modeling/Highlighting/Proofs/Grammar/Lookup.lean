import Highlighting.Grammar.Library
import Highlighting.Proofs.List.Last
import Highlighting.Proofs.Text.LetterCase

/-!
# Which grammar is found

A language may name an extension of some grammars and the name of others.  Any grammar with the
extension is preferred to all that only have the name, and among those of one kind the last one is
taken (`IsLast`).  Letters count without their case.

So what a new grammar at the end of a library changes can be told from that grammar and from whether
the library has the extension already (`GrammarLibrary.resolve_prefers_extensions`).

The searches are chained as the program has them: by extension, and then by token, which looks for
the extension once more before it looks for the name.  That the second search by extension finds
nothing new is one lemma (`GrammarLibrary.resolve_eq_or`), and everything else is proved of the
shorter form.
-/

namespace Highlighting

namespace GrammarSource

/-- One of the extensions is the language, in whichever letter case. -/
def Extends (grammar : GrammarSource) (language : Text) : Prop :=
  ∃ e ∈ grammar.extensions, Text.SameLetters e.toList language

/-- The name is the language, in whichever letter case. -/
def IsNamed (grammar : GrammarSource) (language : Text) : Prop :=
  Text.SameLetters grammar.name.toList language

variable {grammar : GrammarSource} {language : Text}

/-- The comparison of lowered letters decides what `Extends` says. -/
theorem hasExtension_iff : grammar.hasExtension language = true ↔ grammar.Extends language := by
  rw [hasExtension, List.any_eq_true]
  simp only [Text.eqIgnoringAsciiCase_iff, Extends]

theorem hasName_iff : grammar.hasName language = true ↔ grammar.IsNamed language :=
  Text.eqIgnoringAsciiCase_iff

end GrammarSource

namespace GrammarLibrary

variable {library : GrammarLibrary} {language : Text}

/-- No grammar has the extension. -/
def Lacks (library : GrammarLibrary) (language : Text) : Prop :=
  ∀ grammar ∈ library, ¬grammar.Extends language

/-- The search by token already falls back to names. -/
theorem findByToken_eq_or (library : GrammarLibrary) (token : Text) :
    library.findByToken token = (library.findByExtension token).or (library.findByName token) := by
  rw [findByToken, Option.or_eq_orElse]

/-- The search by name is what is left when that by extension fails: that extensions are looked for
twice makes no difference. -/
theorem resolve_eq_or (library : GrammarLibrary) (language : Text) :
    library.resolve language
      = (library.findByExtension language).or (library.findByName language) := by
  calc library.resolve language
      = (library.findByExtension language).or (library.findByToken language) := by
        rw [resolve, Option.or_eq_orElse]
    _ = ((library.findByExtension language).or (library.findByExtension language)).or
          (library.findByName language) := by
        rw [findByToken_eq_or, Option.or_assoc]
    _ = (library.findByExtension language).or (library.findByName language) := by
        rw [Option.or_self]

/-- The search by extension fails when no grammar has it. -/
theorem findByExtension_eq_none_iff :
    library.findByExtension language = none ↔ library.Lacks language := by
  rw [findByExtension, find?_reverse_eq_none_iff]
  simp only [GrammarSource.hasExtension_iff, Lacks]

/-- The search by extension finds the last grammar that has it. -/
theorem findByExtension_eq_some_iff {grammar : GrammarSource} :
    library.findByExtension language = some grammar ↔
      IsLast (GrammarSource.Extends · language) library grammar := by
  rw [findByExtension, find?_reverse_eq_some_iff]
  simp only [GrammarSource.hasExtension_iff]

/-- So does the search by name. -/
theorem findByName_eq_some_iff {grammar : GrammarSource} :
    library.findByName language = some grammar ↔
      IsLast (GrammarSource.IsNamed · language) library grammar := by
  rw [findByName, find?_reverse_eq_some_iff]
  simp only [GrammarSource.hasName_iff]

/-- A name counts only where no grammar at all has the extension, not just none behind it. -/
theorem resolve_eq_some_iff {grammar : GrammarSource} :
    library.resolve language = some grammar ↔
      IsLast (GrammarSource.Extends · language) library grammar ∨
        library.Lacks language ∧ IsLast (GrammarSource.IsNamed · language) library grammar := by
  rw [resolve_eq_or, Option.or_eq_some_iff, findByExtension_eq_none_iff,
    findByExtension_eq_some_iff, findByName_eq_some_iff]

/-- There is no answer when nothing fits, in either way. -/
theorem resolve_eq_none_iff :
    library.resolve language = none ↔
      ∀ grammar ∈ library, ¬grammar.Extends language ∧ ¬grammar.IsNamed language := by
  rw [resolve_eq_or, Option.or_eq_none_iff, findByExtension_eq_none_iff, findByName,
    find?_reverse_eq_none_iff, Lacks, ← forall₂_and]
  simp only [GrammarSource.hasName_iff]

/-- Letter case makes no difference. -/
theorem resolve_congr {other : Text} (same : language.SameLetters other)
    (library : GrammarLibrary) : library.resolve other = library.resolve language := by
  -- Both searches look at the lowered letters only, so these are all that has to agree.
  have hlower : language.asciiLower = other.asciiLower := by
    simpa [Text.eqIgnoringAsciiCase] using Text.eqIgnoringAsciiCase_iff.2 same
  rw [resolve_eq_or, resolve_eq_or]
  unfold findByExtension findByName GrammarSource.hasExtension GrammarSource.hasName
    Text.eqIgnoringAsciiCase
  rw [hlower]

/-! ### One more grammar -/

/-- The new grammar is the first that either search looks at. -/
theorem resolve_concat (library : GrammarLibrary) (grammar : GrammarSource) (language : Text) :
    (library ++ [grammar]).resolve language =
      if grammar.hasExtension language then some grammar
      else (library.findByExtension language).or
        (if grammar.hasName language then some grammar else library.findByName language) := by
  rw [resolve_eq_or, findByExtension, findByName, List.reverse_append, List.reverse_singleton,
    List.singleton_append, List.find?_cons, List.find?_cons]
  -- The new grammar passes or fails each of the two tests; what the other grammars do is the same
  -- in all four cases.
  cases grammar.hasExtension language <;> cases grammar.hasName language <;> rfl

/-- The new grammar has the extension, or it has the name, and no other one has the extension. -/
def Yields (library : GrammarLibrary) (grammar : GrammarSource) (language : Text) : Prop :=
  grammar.Extends language ∨ grammar.IsNamed language ∧ library.Lacks language

/-- The new grammar is taken, and then it does not matter what the others are. -/
theorem resolve_concat_of_yields {grammar : GrammarSource}
    (yields : library.Yields grammar language) :
    (library ++ [grammar]).resolve language = some grammar := by
  rw [resolve_concat]
  rcases yields with hextends | ⟨hnamed, hlacks⟩
  · rw [if_pos (GrammarSource.hasExtension_iff.2 hextends)]
  · split
    · rfl
    · -- It comes by its name, which is looked at because the library lacks the extension.
      rw [findByExtension_eq_none_iff.2 hlacks, Option.none_or,
        if_pos (GrammarSource.hasName_iff.2 hnamed)]

/-- The new grammar may still have the name here, when some other one has the extension. -/
theorem resolve_concat_of_not_yields {grammar : GrammarSource}
    (keeps : ¬library.Yields grammar language) :
    (library ++ [grammar]).resolve language = library.resolve language := by
  obtain ⟨hextends, hnamed⟩ := not_or.1 keeps
  rw [resolve_concat, if_neg (mt GrammarSource.hasExtension_iff.1 hextends), resolve_eq_or]
  cases hfound : library.findByExtension language with
  -- An extension found among the others hides every name, also that of the new grammar.
  | some other => rw [Option.some_or, Option.some_or]
  | none =>
    have hlacks : library.Lacks language := findByExtension_eq_none_iff.1 hfound
    have hother : ¬grammar.hasName language = true :=
      fun hname => hnamed ⟨GrammarSource.hasName_iff.1 hname, hlacks⟩
    rw [if_neg hother]

/-- **The last extension wins, and any extension wins over names.**  The grammar for a language is
the last one that has the extension; only when there is none is it the last one with that name, and
there is no answer when there is none of that name either.  Letter case makes no difference.  One
more grammar at the end of the library is the answer if it has the extension, or if it has the name
while the library lacks the extension, and otherwise changes nothing. -/
theorem resolve_prefers_extensions (library : GrammarLibrary) (language : Text) :
    (∀ grammar, library.resolve language = some grammar ↔
      IsLast (GrammarSource.Extends · language) library grammar ∨
        library.Lacks language ∧ IsLast (GrammarSource.IsNamed · language) library grammar) ∧
    (library.resolve language = none ↔
      ∀ grammar ∈ library, ¬grammar.Extends language ∧ ¬grammar.IsNamed language) ∧
    (∀ other, language.SameLetters other → library.resolve other = library.resolve language) ∧
    ∀ grammar,
      (library.Yields grammar language →
        (library ++ [grammar]).resolve language = some grammar) ∧
      (¬library.Yields grammar language →
        (library ++ [grammar]).resolve language = library.resolve language) :=
  ⟨fun _ => resolve_eq_some_iff, resolve_eq_none_iff, fun _ same => resolve_congr same library,
    fun _ => ⟨resolve_concat_of_yields, resolve_concat_of_not_yields⟩⟩

/-- The last grammar has the name, but the one before it has the extension. -/
example : resolve [⟨"M", ["m"], .empty, []⟩, ⟨"N", ["h", "M"], .empty, []⟩, ⟨"m", [], .empty, []⟩]
    ['m'] = some ⟨"N", ["h", "M"], .empty, []⟩ := by
  decide +kernel

end GrammarLibrary

end Highlighting
