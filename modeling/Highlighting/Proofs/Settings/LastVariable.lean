import Mathlib.Data.List.Induction
import Highlighting.Proofs.List.Last
import Highlighting.Proofs.Text.LowerCase
import Highlighting.Settings

/-!
# The last variable for a setting

Many variables may stand for one setting, since the letter case of what follows the prefix is
dropped (`Settings.IsFor`).  The last one of them counts, and this is settled before its value is
looked at: where that cannot be read, the setting stays as it was, whatever the earlier ones say
(`Settings.FollowsLast`).

* `Environment.get?_ofAssignments` — of several assignments to a name the last one holds.
* `Settings.get?_valuesOf` — so the value for a setting is that of the last variable for it.
* `Settings.override_followsLast` — and the setting becomes what is read from that value, if
  anything.

The theme and the color are two instances of this (`Settings.last_variable_counts`).
-/

namespace Highlighting

/-! ### Assignments -/

namespace Environment

variable {env : Environment} {name other value : Text}

/-- The first entry answers for its name, and leaves other names to the entries behind it. -/
theorem get?_cons (entry : Text × Text) (env : Environment) (name : Text) :
    get? (entry :: env) name = if name = entry.1 then some entry.2 else env.get? name := by
  rw [get?, List.lookup_cons]
  by_cases hname : name = entry.1
  · rw [beq_iff_eq.2 hname, if_pos hname]
  · rw [beq_eq_false_iff_ne.2 hname, if_neg hname]
    rfl

/-- Entries behind others answer only for names that those in front do not have. -/
theorem get?_append (env others : Environment) (name : Text) :
    get? (env ++ others) name = (env.get? name).or (others.get? name) :=
  List.lookup_append

/-- A name has a value exactly if there is a variable of that name. -/
theorem isSome_get?_iff : (env.get? name).isSome = true ↔ env.any (·.1 == name) = true := by
  rw [get?, List.lookup_isSome_iff, List.any_eq_true]
  simp only [BEq.comm]

/-- A variable that is there is changed in its place. -/
theorem get?_map_replace (env : Environment) (name value other : Text) :
    get? (env.map fun entry => if entry.1 == name then (name, value) else entry) other =
      if other = name then (env.get? name).map fun _ => value else env.get? other := by
  induction env with
  | nil => simp [get?]
  | cons entry env ih =>
    rw [List.map_cons, get?_cons, get?_cons, get?_cons, ih]
    -- The entry has the name that is assigned to, or another one, and the question may be about
    -- either.
    by_cases hentry : entry.1 = name
    · subst hentry
      by_cases hother : other = entry.1 <;> simp [hother]
    · by_cases hother : other = name
      · subst hother
        simp [hentry, Ne.symm hentry]
      · simp [hentry, hother]

/-- An assignment changes the value of its name, and nothing else. -/
theorem get?_set (env : Environment) (name value other : Text) :
    (env.set name value).get? other = if other = name then some value else env.get? other := by
  unfold set
  split
  · rename_i hpresent
    -- The name is there already: its entry is replaced in place.
    obtain ⟨former, hformer⟩ := Option.isSome_iff_exists.1 (isSome_get?_iff.2 hpresent)
    rw [get?_map_replace, hformer]
    rfl
  · rename_i habsent
    -- The name is new: it is added at the end, where no entry of that name hides it.
    have hnone : env.get? name = none := by
      rw [← Option.not_isSome_iff_eq_none, isSome_get?_iff]
      exact habsent
    rw [get?_append, get?_cons]
    by_cases hother : other = name
    · subst hother
      rw [hnone, if_pos rfl, if_pos rfl, Option.none_or]
    · rw [if_neg hother, if_neg hother]
      exact Option.or_none

/-- The last assignment is made on top of the others. -/
theorem ofAssignments_concat (assignments : List (Text × Text)) (last : Text × Text) :
    ofAssignments (assignments ++ [last]) = (ofAssignments assignments).set last.1 last.2 := by
  rw [ofAssignments, List.foldl_concat]
  rfl

/-- **The last assignment to a name holds**: it is the first one from the end. -/
theorem get?_ofAssignments (assignments : List (Text × Text)) (name : Text) :
    (ofAssignments assignments).get? name = get? assignments.reverse name := by
  -- The map is built from the front and searched for what came last, so the induction is on the
  -- last assignment.
  induction assignments using List.reverseRecOn with
  | nil => rfl
  | append_singleton assignments last ih =>
    rw [ofAssignments_concat, get?_set, ih, List.reverse_append, List.reverse_singleton,
      List.singleton_append, get?_cons]

end Environment

namespace Settings

/-! ### The variables for a setting -/

/-- The name is the prefix and, in any letter case, the setting. -/
def IsFor (setting name : Text) : Prop :=
  ∃ rest : Text, name = variablePrefix ++ rest ∧ rest.lower = setting

variable {setting name : Text} {env other : Environment}

/-- The program finds the setting that a name is for. -/
theorem settingOf_eq_some_iff : settingOf name = some setting ↔ IsFor setting name := by
  unfold settingOf IsFor
  split
  · rename_i hstarts
    obtain ⟨rest, rfl⟩ := List.isPrefixOf_iff_prefix.1 hstarts
    simp
  · rename_i hstarts
    refine iff_of_false (by simp) ?_
    rintro ⟨rest, rfl, -⟩
    exact hstarts <| List.isPrefixOf_iff_prefix.2 <| List.prefix_append _ _

instance : Decidable (IsFor setting name) := decidable_of_iff _ settingOf_eq_some_iff

/-- What is assigned to a setting, in any order, is said by the variables for it. -/
theorem get?_filterMap_assignmentOf (env : Environment) (setting : Text) :
    Environment.get? (env.filterMap assignmentOf) setting =
      (env.find? fun entry => IsFor setting entry.1).map (·.2.trim) := by
  induction env with
  | nil => rfl
  | cons entry env ih =>
    -- The variable assigns to no setting, to this one, or to another.
    cases hsetting : settingOf entry.1 with
    | none =>
      have hassigns : assignmentOf entry = none := by rw [assignmentOf, hsetting, Option.map_none]
      have hfor : ¬IsFor setting entry.1 := by simp [← settingOf_eq_some_iff, hsetting]
      rw [List.filterMap_cons_none hassigns, ih, List.find?_cons_of_neg (by simpa using hfor)]
    | some named =>
      have hassigns : assignmentOf entry = some (named, entry.2.trim) := by
        rw [assignmentOf, hsetting, Option.map_some]
      have hfor : IsFor setting entry.1 ↔ setting = named := by
        rw [← settingOf_eq_some_iff, hsetting, Option.some.injEq, eq_comm]
      rw [List.filterMap_cons_some hassigns, Environment.get?_cons, ih]
      by_cases hnamed : setting = named
      · rw [if_pos hnamed, List.find?_cons_of_pos (by simpa using hfor.2 hnamed), Option.map_some]
      · rw [if_neg hnamed, List.find?_cons_of_neg (by simpa using mt hfor.1 hnamed)]

/-- **The value for a setting is that of the last variable for it.** -/
theorem get?_valuesOf (env : Environment) (setting : Text) :
    (valuesOf env).get? setting =
      (env.reverse.find? fun entry => IsFor setting entry.1).map (·.2.trim) := by
  rw [valuesOf, Environment.get?_ofAssignments, ← List.filterMap_reverse,
    get?_filterMap_assignmentOf]

/-- Where there is a last variable for a setting, its trimmed value counts. -/
theorem get?_valuesOf_of_isLast {entry : Text × Text}
    (last : IsLast (IsFor setting ·.1) env entry) :
    (valuesOf env).get? setting = some entry.2.trim := by
  rw [get?_valuesOf, find?_reverse_eq_some_iff.2 (by simpa using last)]
  rfl

/-- Where there is none, the setting has no value. -/
theorem get?_valuesOf_of_forall_not (absent : ∀ entry ∈ env, ¬IsFor setting entry.1) :
    (valuesOf env).get? setting = none := by
  rw [get?_valuesOf, find?_reverse_eq_none_iff.2 (by simpa using absent)]
  rfl

/-- Only the variables for a setting make a difference to its value, and only in their order. -/
theorem get?_valuesOf_congr
    (same : (env.filter fun entry => IsFor setting entry.1) =
      other.filter fun entry => IsFor setting entry.1) :
    (valuesOf env).get? setting = (valuesOf other).get? setting := by
  rw [get?_valuesOf, get?_valuesOf, find?_reverse_congr same]

/-! ### What a setting becomes -/

/-- A setting was `start`, and after an environment it is `result`.  The relation `Reads` says which
trimmed values mean what. -/
structure FollowsLast {α : Type} (Reads : Text → α → Prop) (setting : Text) (env : Environment)
    (start result : α) : Prop where
  /-- It is what the last variable for it means. -/
  of_read : ∀ entry meaning, IsLast (IsFor setting ·.1) env entry → Reads entry.2.trim meaning →
    result = meaning
  /-- If that one means nothing, no earlier one counts either. -/
  of_unreadable : ∀ entry, IsLast (IsFor setting ·.1) env entry →
    (∀ meaning, ¬Reads entry.2.trim meaning) → result = start
  /-- Without a variable for it nothing happens. -/
  of_absent : (∀ entry ∈ env, ¬IsFor setting entry.1) → result = start

/-- A setting that is overridden by what is read from its value follows the last variable for it.
The variable is chosen before its value is read, so that the three cases do not depend on the
earlier variables. -/
theorem override_followsLast {α : Type} {Reads : Text → α → Prop} {read : Text → Option α}
    (reads : ∀ value meaning, read value = some meaning ↔ Reads value meaning)
    (setting : Text) (env : Environment) (start : α) :
    FollowsLast Reads setting env start (override (valuesOf env) setting read start) where
  of_read entry meaning last means := by
    rw [override, get?_valuesOf_of_isLast last, Option.bind_some, (reads _ _).2 means]
    rfl
  of_unreadable entry last meaningless := by
    -- A value without a meaning is not read, and the start stays.
    have hread : read entry.2.trim = none :=
      Option.eq_none_iff_forall_ne_some.2 fun meaning hmeaning =>
        meaningless meaning ((reads _ _).1 hmeaning)
    rw [override, get?_valuesOf_of_isLast last, Option.bind_some, hread]
    rfl
  of_absent absent := by
    rw [override, get?_valuesOf_of_forall_not absent]
    rfl

/-- The value names the theme: any but the empty one names itself. -/
def NamesTheme (value theme : Text) : Prop := value ≠ [] ∧ theme = value

/-- What is read as a theme is a value that names it. -/
theorem readTheme_eq_some_iff {value theme : Text} :
    readTheme value = some theme ↔ NamesTheme value theme := by
  cases value with
  | nil => simp [readTheme, NamesTheme]
  | cons c value => simp [readTheme, NamesTheme, eq_comm]

/-- The word says yes or no, in any letter case. -/
def Says (word : Text) : Bool → Prop
  | true => ∃ yes ∈ ["true", "yes", "on", "1"], word.SameLetters yes.toList
  | false => ∃ no ∈ ["false", "no", "off", "0"], word.SameLetters no.toList

/-- To find the small form of a word among plain words is to find a word that it spells in letters
of either case. -/
theorem lower_mem_iff {words : List String} (plain : ∀ w ∈ words, Text.IsPlainWord w.toList)
    (word : Text) :
    String.ofList word.lower ∈ words ↔ ∃ w ∈ words, word.SameLetters w.toList := by
  constructor
  · intro hmem
    exact ⟨_, hmem, (Text.lower_eq_iff (plain _ hmem)).1 String.toList_ofList.symm⟩
  · rintro ⟨w, hmem, hsame⟩
    rw [(Text.lower_eq_iff (plain w hmem)).2 hsame, String.ofList_toList]
    exact hmem

/-- What is read as yes or no is a word that says so. -/
theorem readBool_eq_some_iff {word : Text} {said : Bool} :
    readBool word = some said ↔ Says word said := by
  have hyes : String.ofList word.lower ∈ ["true", "yes", "on", "1"] ↔ Says word true :=
    lower_mem_iff (by decide) word
  have hno : String.ofList word.lower ∈ ["false", "no", "off", "0"] ↔ Says word false :=
    lower_mem_iff (by decide) word
  -- No word means both, so that the order in which they are looked through does not matter.
  have hdisjoint : ∀ w ∈ ["false", "no", "off", "0"], w ∉ ["true", "yes", "on", "1"] := by decide
  simp only [readBool]
  -- The words for yes are looked through first, and none of them is a word for no.
  split_ifs with htrue hfalse
  · have hunsaid : ¬Says word false := fun hsays => hdisjoint _ (hno.2 hsays) htrue
    cases said with
    | true => simpa using hyes.1 htrue
    | false => simpa using hunsaid
  · cases said with
    | true => simpa using mt hyes.2 htrue
    | false => simpa using hno.1 hfalse
  · cases said with
    | true => simpa using mt hyes.2 htrue
    | false => simpa using mt hno.2 hfalse

/-! ### Variables that make no difference -/

/-- The variable is for the theme or for the color. -/
def Concerns (entry : Text × Text) : Prop :=
  IsFor "theme".toList entry.1 ∨ IsFor "color".toList entry.1

instance : DecidablePred Concerns := fun _ => inferInstanceAs (Decidable (_ ∨ _))

/-- Without the variables that concern neither, those for one of the two are the same still. -/
theorem filter_isFor_congr
    (concerns : ∀ {entry : Text × Text}, IsFor setting entry.1 → Concerns entry)
    (same : other.filter Concerns = env.filter Concerns) :
    (other.filter fun entry => IsFor setting entry.1) =
      env.filter fun entry => IsFor setting entry.1 := by
  have hfilter : ∀ env : Environment, (env.filter fun entry => IsFor setting entry.1) =
      (env.filter Concerns).filter fun entry => IsFor setting entry.1 := by
    intro env
    rw [List.filter_filter]
    refine List.filter_congr fun entry _ => ?_
    by_cases hfor : IsFor setting entry.1
    · simp [hfor, concerns hfor]
    · simp [hfor]
  rw [hfilter other, hfilter env, same]

/-- The same variables in another order, where those for one setting, whichever it is, stay in
theirs. -/
structure Reorders (env other : Environment) : Prop where
  perm : other.Perm env
  sameOrder : ∀ setting, (other.filter fun entry => IsFor setting entry.1) =
    env.filter fun entry => IsFor setting entry.1

/-- The settings depend on nothing but the values for the theme and the color. -/
theorem apply_congr (settings : Settings)
    (theme : (valuesOf env).get? "theme".toList = (valuesOf other).get? "theme".toList)
    (color : (valuesOf env).get? "color".toList = (valuesOf other).get? "color".toList) :
    settings.apply (valuesOf env) = settings.apply (valuesOf other) := by
  rw [apply, apply, override, override, theme, color]
  rfl

/-- **Only the last variable for a setting counts.**  The theme is what the last variable for it
names, and the color what the last one for it says; either stays as it was where that variable has
no such value, even if an earlier one has, or where there is none.  So variables for anything else
may be put in or taken out anywhere, and the others may change places but with those for the same
setting. -/
theorem last_variable_counts (settings : Settings) (env : Environment) :
    FollowsLast NamesTheme "theme".toList env settings.theme
        (settings.apply (valuesOf env)).theme ∧
      FollowsLast Says "color".toList env settings.color
        (settings.apply (valuesOf env)).color ∧
      (∀ other : Environment, other.filter Concerns = env.filter Concerns →
        settings.apply (valuesOf other) = settings.apply (valuesOf env)) ∧
      ∀ other, Reorders env other →
        settings.apply (valuesOf other) = settings.apply (valuesOf env) := by
  refine ⟨override_followsLast (fun _ _ => readTheme_eq_some_iff) _ env _,
    override_followsLast (fun _ _ => readBool_eq_some_iff) _ env _, fun other same => ?_,
    fun other reorders => ?_⟩
  · exact apply_congr settings (get?_valuesOf_congr (filter_isFor_congr .inl same))
      (get?_valuesOf_congr (filter_isFor_congr .inr same))
  · exact apply_congr settings (get?_valuesOf_congr (reorders.sameOrder _))
      (get?_valuesOf_congr (reorders.sameOrder _))

/-- Names in three spellings: the last color hides the one before it, and the theme is trimmed. -/
theorem last_variable_counts_hiding :
    let env : Environment :=
      [("SHCAT_COLOR".toList, "off".toList), ("SHCAT_theme".toList, ['a']),
        ("SHCAT_Theme".toList, [' ', 'b']), ("SHCAT_color".toList, "never".toList),
        ("shcat_theme".toList, ['c'])]
    IsLast (IsFor "theme".toList ·.1) env ("SHCAT_Theme".toList, [' ', 'b']) ∧
      NamesTheme (Text.trim [' ', 'b']) ['b'] ∧
      IsLast (IsFor "color".toList ·.1) env ("SHCAT_color".toList, "never".toList) ∧
      (∀ said, ¬Says (Text.trim "never".toList) said) ∧
      ((⟨['t'], true⟩ : Settings).apply (valuesOf env)).theme = ['b'] ∧
      ((⟨['t'], true⟩ : Settings).apply (valuesOf env)).color = true := by
  intro env
  have hlastTheme : IsLast (IsFor "theme".toList ·.1) env ("SHCAT_Theme".toList, [' ', 'b']) :=
    ⟨by decide, env.take 2, env.drop 3, rfl, by decide⟩
  have hlastColor :
      IsLast (IsFor "color".toList ·.1) env ("SHCAT_color".toList, "never".toList) :=
    ⟨by decide, env.take 3, env.drop 4, rfl, by decide⟩
  have hnames : NamesTheme (Text.trim [' ', 'b']) ['b'] :=
    readTheme_eq_some_iff.1 (by decide +kernel)
  have hunread : readBool (Text.trim "never".toList) = none := by decide +kernel
  have hsays : ∀ said, ¬Says (Text.trim "never".toList) said := by
    intro said hsaid
    rw [← readBool_eq_some_iff, hunread] at hsaid
    contradiction
  obtain ⟨htheme, hcolor, -⟩ := last_variable_counts ⟨['t'], true⟩ env
  exact ⟨hlastTheme, hnames, hlastColor, hsays, htheme.of_read _ _ hlastTheme hnames,
    hcolor.of_unreadable _ hlastColor hsays⟩

end Settings

end Highlighting
