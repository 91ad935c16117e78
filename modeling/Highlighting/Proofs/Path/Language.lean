import Highlighting.Path
import Highlighting.Proofs.Text.Lines
import Highlighting.Proofs.Text.Lossy

/-!
# The language is in the file name

The components of a path are those of its parts (`components_append_separator`), and what has no
components can follow a path without changing what it names: slashes, and slashes with a dot behind
them (`Trailer`).  So a path has a file name exactly if it is that name, in some directory or in
none, with trailers behind it (`fileName_eq_some_iff`).

The language is read off that name alone, and the name may be anything: the last dot in it divides
off the extension, unless nothing comes before that dot (`language_of_file_name`).

A path is made of bytes and need not be UTF-8.  Only the part of it that would be the language is
decoded, and there is no language where that fails.
-/

namespace Highlighting.Path

/-! ### Components -/

/-- What holds no slash is one component, or none if it does not count. -/
theorem components_of_notMem {piece : Bytes} (clean : separator ∉ piece) :
    components piece = if piece ≠ [] ∧ piece ≠ [dot] then [piece] else [] := by
  have hsplit : piece.splitOnP (· == separator) = [piece] := List.splitOn_eq_singleton clean
  rw [components, hsplit, List.filter_cons, List.filter_nil]
  simp only [decide_eq_true_eq]

/-- The only pieces that do not count are the empty one and the dot. -/
theorem components_eq_nil_iff_of_notMem {piece : Bytes} (clean : separator ∉ piece) :
    components piece = [] ↔ piece = [] ∨ piece = [dot] := by
  constructor
  · intro hnone
    refine Decidable.byContradiction fun hother => ?_
    rw [components_of_notMem clean, if_pos (not_or.1 hother)] at hnone
    exact List.cons_ne_nil piece [] hnone
  · rintro (rfl | rfl) <;> rfl

/-- A slash divides the components of a path. -/
theorem components_append_separator (path rest : Bytes) :
    components (path ++ separator :: rest) = components path ++ components rest := by
  have hsplit : (path ++ separator :: rest).splitOnP (· == separator)
      = path.splitOnP (· == separator) ++ rest.splitOnP (· == separator) :=
    List.splitOnP_append_cons _ _ (beq_self_eq_true separator)
  rw [components, hsplit, List.filter_append]
  rfl

/-- No component holds a slash. -/
theorem separator_notMem_of_mem_components {path component : Bytes}
    (member : component ∈ components path) : separator ∉ component := by
  induction path using separatorInduction separator with
  | piece piece clean =>
    rw [components_of_notMem clean] at member
    split at member
    · exact List.mem_singleton.1 member ▸ clean
    · exact absurd member List.not_mem_nil
  | append front rest clean ih =>
    rw [components_append_separator, List.mem_append, components_of_notMem clean] at member
    rcases member with hfront | hrest
    · split at hfront
      · exact List.mem_singleton.1 hfront ▸ clean
      · exact absurd hfront List.not_mem_nil
    · exact ih hrest

/-- What may follow a path without changing what it names. -/
inductive Trailer
  | slash
  | slashDot
  deriving Repr, DecidableEq

/-- The written form. -/
def Trailer.bytes : Trailer → Bytes
  | .slash => [separator]
  | .slashDot => [separator, dot]

/-- Trailers add no component. -/
theorem components_append_trailers (path : Bytes) (trailers : List Trailer) :
    components (path ++ trailers.flatMap Trailer.bytes) = components path := by
  induction trailers generalizing path with
  | nil => rw [List.flatMap_nil, List.append_nil]
  | cons trailer trailers ih =>
    -- What stands behind the slash, nothing or a dot, does not count as a component.
    have hone : components (path ++ trailer.bytes) = components path := by
      cases trailer with
      | slash => exact (components_append_separator path []).trans (List.append_nil _)
      | slashDot => exact (components_append_separator path [dot]).trans (List.append_nil _)
    rw [List.flatMap_cons, ← List.append_assoc, ih, hone]

/-- A path without components is a trailer. -/
theorem exists_trailers_of_components_eq_nil {path : Bytes} (idle : components path = []) :
    ∃ trailers : List Trailer, separator :: path = trailers.flatMap Trailer.bytes := by
  induction path using separatorInduction separator with
  | piece piece clean =>
    rcases (components_eq_nil_iff_of_notMem clean).1 idle with rfl | rfl
    · exact ⟨[.slash], rfl⟩
    · exact ⟨[.slashDot], rfl⟩
  | append front rest clean ih =>
    rw [components_append_separator, List.append_eq_nil_iff,
      components_eq_nil_iff_of_notMem clean] at idle
    obtain ⟨hfront, hrest⟩ := idle
    obtain ⟨trailers, htrailers⟩ := ih hrest
    rcases hfront with rfl | rfl
    · exact ⟨.slash :: trailers, by rw [List.flatMap_cons, ← htrailers]; rfl⟩
    · exact ⟨.slashDot :: trailers, by rw [List.flatMap_cons, ← htrailers]; rfl⟩

/-! ### File names -/

/-- The bytes can stand as the last component of a path, and do not lead back up. -/
structure IsFileName (name : Bytes) : Prop where
  nonempty : name ≠ []
  ne_dot : name ≠ [dot]
  ne_dots : name ≠ [dot, dot]
  clean : separator ∉ name

/-- The path in a directory, or the path alone. -/
def within : Option Bytes → Bytes → Bytes
  | none, path => path
  | some directory, path => directory ++ separator :: path

/-- The file name is the last component, unless that leads back up. -/
theorem fileName_eq_some_iff_getLast? {path name : Bytes} :
    fileName path = some name ↔ (components path).getLast? = some name ∧ name ≠ [dot, dot] := by
  unfold fileName
  cases (components path).getLast? with
  | none => simp
  | some last =>
    change (if last = [dot, dot] then none else some last) = some name ↔ _
    rw [Option.ite_none_left_eq_some, and_comm]
    refine and_congr_right fun hlast => ?_
    rw [Option.some.inj hlast]

/-- So trailers do not change the file name, -/
theorem fileName_append_trailers (path : Bytes) (trailers : List Trailer) :
    fileName (path ++ trailers.flatMap Trailer.bytes) = fileName path := by
  simp only [fileName, components_append_trailers]

/-- A directory in front does not matter to a path that has a last component. -/
theorem getLast?_components_within (directory : Option Bytes) {path name : Bytes}
    (last : (components path).getLast? = some name) :
    (components (within directory path)).getLast? = some name := by
  cases directory with
  | none => exact last
  | some directory =>
    rw [within, components_append_separator, List.getLast?_append, last, Option.some_or]

/-- and neither does a directory in front, if there is one. -/
theorem fileName_within (directory : Option Bytes) {path name : Bytes}
    (named : fileName path = some name) : fileName (within directory path) = some name := by
  rw [fileName_eq_some_iff_getLast?] at named ⊢
  exact ⟨getLast?_components_within directory named.1, named.2⟩

/-- A file name on its own is a path that names it. -/
theorem IsFileName.fileName_eq {name : Bytes} (isName : IsFileName name) :
    fileName name = some name := by
  rw [fileName_eq_some_iff_getLast?, components_of_notMem isName.clean,
    if_pos ⟨isName.nonempty, isName.ne_dot⟩]
  exact ⟨rfl, isName.ne_dots⟩

/-- A last component stands in some directory or in none, with trailers behind it. -/
theorem exists_within_of_getLast? {path name : Bytes}
    (last : (components path).getLast? = some name) :
    ∃ (directory : Option Bytes) (trailers : List Trailer),
      path = within directory name ++ trailers.flatMap Trailer.bytes := by
  induction path using separatorInduction separator with
  | piece piece clean =>
    rw [components_of_notMem clean] at last
    split at last
    · obtain rfl : piece = name := by simpa using last
      exact ⟨none, [], by simp [within]⟩
    · simp at last
  | append front rest clean ih =>
    rw [components_append_separator, List.getLast?_append] at last
    cases hlater : (components rest).getLast? with
    -- The name stands further behind, and `front` belongs to its directory.
    | some later =>
      rw [hlater, Option.some_or] at last
      obtain ⟨directory, trailers, rfl⟩ := ih (hlater.trans last)
      cases directory with
      | none => exact ⟨some front, trailers, by simp [within]⟩
      | some directory =>
        exact ⟨some (front ++ separator :: directory), trailers, by simp [within]⟩
    | none =>
      -- The name is in front, and what follows it is a trailer.
      have hidle : components rest = [] := List.getLast?_eq_none_iff.1 hlater
      obtain ⟨trailers, htrailers⟩ := exists_trailers_of_components_eq_nil hidle
      rw [hlater, Option.none_or, components_of_notMem clean] at last
      split at last
      · obtain rfl : front = name := by simpa using last
        exact ⟨none, trailers, by rw [htrailers, within]⟩
      · simp at last

/-- What a path names is a file name. -/
theorem isFileName_of_fileName {path name : Bytes} (named : fileName path = some name) :
    IsFileName name := by
  obtain ⟨hlast, hdots⟩ := fileName_eq_some_iff_getLast?.1 named
  obtain ⟨hmem, hidle⟩ := List.mem_filter.1 (List.mem_of_getLast? hlast)
  obtain ⟨hnonempty, hdot⟩ := of_decide_eq_true hidle
  exact ⟨hnonempty, hdot, hdots, separator_notMem_of_mem_components (List.mem_of_getLast? hlast)⟩

/-- The file name is what stands last in the path, up to trailers. -/
theorem fileName_eq_some_iff {path name : Bytes} :
    fileName path = some name ↔ IsFileName name ∧
      ∃ (directory : Option Bytes) (trailers : List Trailer),
        path = within directory name ++ trailers.flatMap Trailer.bytes := by
  constructor
  · intro hname
    exact ⟨isFileName_of_fileName hname,
      exists_within_of_getLast? (fileName_eq_some_iff_getLast?.1 hname).1⟩
  · rintro ⟨hname, directory, trailers, rfl⟩
    rw [fileName_append_trailers, fileName_within directory hname.fileName_eq]

/-! ### Languages -/

/-- The language that a file name stands for. -/
def languageOfName (name : Bytes) : Option Text :=
  Utf8.decode? ((extensionOfName name).getD name)

/-- Nothing but the file name is read. -/
theorem language_eq_bind (path : Bytes) : language path = (fileName path).bind languageOfName :=
  rfl

/-- Bytes are decoded if they are the form of a text, which is the answer then. -/
theorem decode?_eq_some_iff {bytes : Bytes} {t : Text} :
    Utf8.decode? bytes = some t ↔ bytes = t.utf8 := by
  simp only [Utf8.decode?, Option.ite_none_right_eq_some, Option.some.injEq]
  constructor
  · rintro ⟨hbytes, rfl⟩
    exact hbytes.symm
  · rintro rfl
    rw [Utf8.decodeLossy_utf8]
    exact ⟨rfl, rfl⟩

/-- The byte of a slash stands for a slash, and for no part of another character. -/
theorem separator_mem_utf8_iff {t : Text} : separator ∈ t.utf8 ↔ '/' ∈ t := by
  rw [← Utf8.mem_decodeLossy_iff (b := separator) (by decide), Utf8.decodeLossy_utf8]
  rfl

/-- The same of a dot. -/
theorem dot_mem_utf8_iff {t : Text} : dot ∈ t.utf8 ↔ '.' ∈ t := by
  rw [← Utf8.mem_decodeLossy_iff (b := dot) (by decide), Utf8.decodeLossy_utf8]
  rfl

/-- Without a dot there is no extension. -/
theorem extensionOfName_of_notMem {name : Bytes} (whole : dot ∉ name) :
    extensionOfName name = none := by
  have hall : ∀ b ∈ name.reverse, (b != dot) = true := by
    intro b hmem
    exact bne_iff_ne.2 fun hdot => whole (hdot ▸ List.mem_reverse.1 hmem)
  have hdrop : name.reverse.dropWhile (· != dot) = [] := by
    rw [← List.append_nil name.reverse, List.dropWhile_append_of_pos hall, List.dropWhile_nil]
  simp only [extensionOfName, hdrop]

/-- The last dot divides off the extension, if something comes before it. -/
theorem extensionOfName_append_dot (stem : Bytes) {after : Bytes} (last : dot ∉ after) :
    extensionOfName (stem ++ dot :: after) = if stem = [] then none else some after := by
  -- Read from the end, everything up to the first dot is the extension.
  have hall : ∀ b ∈ after.reverse, (b != dot) = true := by
    intro b hmem
    exact bne_iff_ne.2 fun hdot => last (hdot ▸ List.mem_reverse.1 hmem)
  have hreverse : (stem ++ dot :: after).reverse = after.reverse ++ dot :: stem.reverse := by simp
  have hdrop : (stem ++ dot :: after).reverse.dropWhile (· != dot) = dot :: stem.reverse := by
    rw [hreverse, List.dropWhile_append_of_pos hall, List.dropWhile_cons_of_neg (by simp)]
  have htake : (stem ++ dot :: after).reverse.takeWhile (· != dot) = after.reverse := by
    rw [hreverse, List.takeWhile_append_of_pos hall, List.takeWhile_cons_of_neg (by simp),
      List.append_nil]
  simp only [extensionOfName, hdrop, htake, List.reverse_reverse]
  by_cases hstem : stem = []
  · subst hstem
    rfl
  · -- There is a stem before the dot, and so an extension.
    obtain ⟨b, before, hbefore⟩ := List.exists_cons_of_ne_nil (List.reverse_ne_nil_iff.2 hstem)
    rw [if_neg hstem, hbefore]

/-- An extension that holds no dot is the language. -/
theorem languageOfName_append_dot {stem : Bytes} (nonempty : stem ≠ []) {extension : Text}
    (last : '.' ∉ extension) : languageOfName (stem ++ dot :: extension.utf8) = some extension := by
  have hlast : dot ∉ extension.utf8 := mt dot_mem_utf8_iff.1 last
  rw [languageOfName, extensionOfName_append_dot stem hlast, if_neg nonempty, Option.getD_some,
    decode?_eq_some_iff]

/-- A stem with an extension is a file name, unless it leads back up. -/
theorem isFileName_append_dot {stem : Bytes} {extension : Text} (nonempty : stem ≠ [])
    (clean : separator ∉ stem) (no_slash : '/' ∉ extension)
    (ne_dots : stem ++ dot :: extension.utf8 ≠ [dot, dot]) :
    IsFileName (stem ++ dot :: extension.utf8) where
  nonempty := List.append_ne_nil_of_left_ne_nil nonempty _
  ne_dot hdot := by
    rcases List.append_eq_singleton_iff.1 hdot with ⟨hstem, -⟩ | ⟨-, hrest⟩
    · exact nonempty hstem
    · exact List.cons_ne_nil dot extension.utf8 hrest
  ne_dots := ne_dots
  clean hmem := by
    rcases List.mem_append.1 hmem with hstem | hrest
    · exact clean hstem
    · rcases List.mem_cons.1 hrest with hdot | hextension
      · exact absurd hdot (by decide)
      · exact no_slash (separator_mem_utf8_iff.1 hextension)

/-- Without an extension the whole name is the language. -/
theorem languageOfName_of_extension_eq_none {name : Text}
    (whole : extensionOfName name.utf8 = none) : languageOfName name.utf8 = some name := by
  rw [languageOfName, whole, Option.getD_none, decode?_eq_some_iff]

/-- The extension is a part of the name. -/
theorem subset_of_extensionOfName {name after : Bytes} (has : extensionOfName name = some after) :
    after ⊆ name := by
  simp only [extensionOfName] at has
  split at has
  · simp at has
  · simp at has
  · obtain rfl := Option.some.inj has
    intro b hmem
    exact List.mem_reverse.1 ((List.takeWhile_sublist _).subset (List.mem_reverse.1 hmem))

/-- No language holds a slash. -/
theorem slash_notMem_of_language {path : Bytes} {lang : Text} (known : language path = some lang) :
    '/' ∉ lang := by
  rw [language_eq_bind, Option.bind_eq_some_iff] at known
  obtain ⟨name, hname, hlang⟩ := known
  have hclean : separator ∉ name := (isFileName_of_fileName hname).clean
  rw [languageOfName, decode?_eq_some_iff] at hlang
  rw [← separator_mem_utf8_iff, ← hlang]
  cases hextension : extensionOfName name with
  | none => exact hclean
  -- An extension is a part of the name, which holds no slash.
  | some after => exact fun hmem => hclean (subset_of_extensionOfName hextension hmem)

/-- **The language is in the file name.**  Trailers change nothing, and neither does a directory in
front of a path that has a file name, which stands last in it.  There, an extension that holds no
dot is the language, whatever comes before it; a name without a dot, or with one in front only, is
the language as a whole.  No language holds a slash. -/
theorem language_of_file_name :
    (∀ (path : Bytes) (trailers : List Trailer),
      language (path ++ trailers.flatMap Trailer.bytes) = language path) ∧
    (∀ (directory path : Bytes), (fileName path).isSome = true →
      language (directory ++ separator :: path) = language path) ∧
    (∀ path name : Bytes, fileName path = some name ↔ IsFileName name ∧
      ∃ (directory : Option Bytes) (trailers : List Trailer),
        path = within directory name ++ trailers.flatMap Trailer.bytes) ∧
    (∀ (directory : Option Bytes) (stem : Bytes) (extension : Text),
      stem ≠ [] → separator ∉ stem → '/' ∉ extension → '.' ∉ extension →
        stem ++ dot :: extension.utf8 ≠ [dot, dot] →
          language (within directory (stem ++ dot :: extension.utf8)) = some extension) ∧
    (∀ (directory : Option Bytes) (name : Text), IsFileName name.utf8 →
      ('.' ∉ name ∨ ∃ rest, name = '.' :: rest ∧ '.' ∉ rest) →
        language (within directory name.utf8) = some name) ∧
    ∀ (path : Bytes) (lang : Text), language path = some lang → '/' ∉ lang := by
  refine ⟨fun path trailers => ?_, fun directory path hnamed => ?_, fun path name =>
    fileName_eq_some_iff, ?_, ?_, fun path lang => slash_notMem_of_language⟩
  · rw [language_eq_bind, fileName_append_trailers, language_eq_bind]
  · obtain ⟨name, hname⟩ := Option.isSome_iff_exists.1 hnamed
    have hwithin : fileName (directory ++ separator :: path) = some name :=
      fileName_within (some directory) hname
    rw [language_eq_bind, language_eq_bind, hwithin, hname]
  · intro directory stem extension hstem hclean hslash hdot hother
    have hname : IsFileName (stem ++ dot :: extension.utf8) :=
      isFileName_append_dot hstem hclean hslash hother
    rw [language_eq_bind, fileName_within directory hname.fileName_eq, Option.bind_some,
      languageOfName_append_dot hstem hdot]
  · intro directory name hname hdots
    rw [language_eq_bind, fileName_within directory hname.fileName_eq, Option.bind_some]
    refine languageOfName_of_extension_eq_none ?_
    rcases hdots with hnone | ⟨rest, rfl, hrest⟩
    · exact extensionOfName_of_notMem (mt dot_mem_utf8_iff.1 hnone)
    · exact (extensionOfName_append_dot [] (mt dot_mem_utf8_iff.1 hrest)).trans (if_pos rfl)

/-- A stem need not be UTF-8 and may hold dots, a hidden file is its own language, and the way back
up has none. -/
theorem language_of_file_name_hidden :
    language ([0x64, 0x2F, 0x2E, 0xFF, 0x2E, 0x72] ++ [Trailer.slashDot].flatMap Trailer.bytes)
        = some ['r'] ∧
      language ([0x64] ++ separator :: [0x2E, 0x72]) = some ['.', 'r'] ∧
      language [0x64, 0x2F, 0x2E, 0x2E] = none := by
  obtain ⟨htrailers, hdirectory, -, hextension, hwhole, -⟩ := language_of_file_name
  refine ⟨?_, ?_, by decide⟩
  · rw [htrailers]
    exact hextension (some [0x64]) [0x2E, 0xFF] ['r'] (by decide) (by decide) (by decide)
      (by decide) (by decide)
  · rw [hdirectory _ _ (by decide)]
    exact hwhole none ['.', 'r'] ⟨by decide, by decide, by decide, by decide⟩
      (.inr ⟨['r'], rfl, by decide⟩)

end Highlighting.Path
