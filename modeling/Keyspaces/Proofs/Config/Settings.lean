import Keyspaces.Config.Interpolation
import Keyspaces.Proofs.Config.Ini

/-
  What configuration files define when their values hold no
  references: under the key made of the names of a section and
  an option, the value in the last section that has it.

  Main declarations:
    * `Ini.optionIn?`
    * `Ini.lastIn?`
    * `Ini.defined?`
    * `Ini.Plain`
    * `Ini.settings_of_plain`
    * `Ini.last?_settingsIn`
-/

------------------------------------------------------------
-- Keys
------------------------------------------------------------

namespace Keyspaces

namespace Ini

/- The option that a key is about if it is in a section. -/
def optionIn? (header key : String) : Option String :=
  (key.toList.dropPrefix? (header.toList ++ ['.'])).map
    String.ofList

/- A key joins the names of a section and an option. -/
theorem optionIn?_eq_some_iff (header key option : String) :
    optionIn? header key = some option ↔
      key = header ++ "." ++ option := by
  unfold optionIn?
  rw [Option.map_eq_some_iff]
  constructor
  · rintro ⟨rest, hRest, rfl⟩
    rcases List.dropPrefix?_eq_some_iff.mp hRest with
      ⟨first, hKey, hFirst⟩
    rw [beq_iff_eq.mp hFirst] at hKey
    apply String.toList_injective
    simp [hKey]
  · rintro rfl
    refine ⟨option.toList, ?_, String.ofList_toList⟩
    rw [List.dropPrefix?_eq_some_iff]
    exact ⟨_, by simp, beq_self_eq_true _⟩

/- The value of an option of a section, as a text. -/
def text?
    (ini : Ini)
    (header option : String) : Option String :=
  (ini.lines? header option).map fun lines =>
    String.ofList (valueOf lines)

/-
  The value of a key in the last of some sections that have an
  option for it, where `text` gives the values of options.
-/
def lastIn?
    (headers : List String)
    (text : String → String → Option String)
    (key : String) : Option String :=
  headers.reverse.findSome? fun header =>
    (optionIn? header key).bind (text header)

/- The value that a file defines for a key. -/
def defined?
    (ini : Ini)
    (key : String) : Option String :=
  lastIn? ini.sections.keys ini.text? key

/- The last item with an answer has none behind it with one. -/
theorem findSome?_reverse_eq_some_iff
    {α β : Type}
    (items : List α)
    (answer : α → Option β)
    (found : β) :
    items.reverse.findSome? answer = some found ↔
      ∃ before item after, items = before ++ item :: after ∧
        answer item = some found ∧
          ∀ other ∈ after, answer other = none := by
  rw [List.findSome?_eq_some_iff]
  constructor
  · rintro ⟨after, item, before, hItems, hFound, hNone⟩
    refine
      ⟨before.reverse, item, after.reverse, ?_, hFound, ?_⟩
    · rw [← List.reverse_reverse items, hItems]
      simp
    · intro other hOther
      exact hNone other (List.mem_reverse.mp hOther)
  · rintro ⟨before, item, after, rfl, hFound, hNone⟩
    refine
      ⟨after.reverse, item, before.reverse, ?_, hFound, ?_⟩
    · simp
    · intro other hOther
      exact hNone other (List.mem_reverse.mp hOther)

section

variable (headers : List String)
variable (text : String → String → Option String)
variable (key : String)

/- An option is asked for when the key joins both names. -/
theorem bind_optionIn?_eq_none_iff (header : String) :
    (optionIn? header key).bind (text header) = none ↔
      ∀ option, key = header ++ "." ++ option →
        text header option = none := by
  rw [Option.bind_eq_none_iff]
  simp only [optionIn?_eq_some_iff]

/- There is no value if no section has such an option. -/
theorem lastIn?_eq_none_iff :
    lastIn? headers text key = none ↔
      ∀ header ∈ headers, ∀ option,
        key = header ++ "." ++ option →
          text header option = none := by
  rw [lastIn?, List.findSome?_eq_none_iff]
  simp only [List.mem_reverse, bind_optionIn?_eq_none_iff]

/-
  The value is that of a section with such an option if those
  behind it have none.
-/
theorem lastIn?_eq_some_iff (found : String) :
    lastIn? headers text key = some found ↔
      ∃ earlier header later option,
        headers = earlier ++ header :: later ∧
          key = header ++ "." ++ option ∧
          text header option = some found ∧
          ∀ name ∈ later, ∀ rest,
            key = name ++ "." ++ rest →
              text name rest = none := by
  rw [lastIn?, findSome?_reverse_eq_some_iff]
  simp only [bind_optionIn?_eq_none_iff,
    Option.bind_eq_some_iff, optionIn?_eq_some_iff]
  constructor
  · rintro ⟨earlier, header, later, hHeaders,
      ⟨option, hKey, hText⟩, hLater⟩
    exact
      ⟨earlier, header, later, option, hHeaders, hKey, hText,
        hLater⟩
  · rintro ⟨earlier, header, later, option, hHeaders, hKey,
      hText, hLater⟩
    exact
      ⟨earlier, header, later, hHeaders, ⟨option, hKey, hText⟩,
        hLater⟩

end

end Ini

end Keyspaces

------------------------------------------------------------
-- Values without References
------------------------------------------------------------

namespace Keyspaces

namespace Ini

/-
  No option is set for all sections, and no value holds the
  sign that starts a reference.
-/
structure Plain (ini : Ini) : Prop where
  defaults :
    ∀ option, ini.lines? defaultSection option = none
  values :
    ∀ header option lines,
      ini.lines? header option = some lines →
        '%' ∉ valueOf lines

/- Whether sections are plain can be seen from their entries. -/
theorem Plain.of_sections
    {sections : Table String Options}
    (hSections :
      ∀ entry ∈ sections.entries, ∀ option ∈ entry.2.entries,
        '%' ∉ valueOf option.2) :
    Plain ⟨Table.empty, sections⟩ := by
  constructor
  case defaults =>
    intro option
    rfl
  case values =>
    intro header option lines hLines
    unfold lines? optionsOf at hLines
    split at hLines
    case isTrue => contradiction
    case isFalse =>
      dsimp only at hLines
      cases hOptions : sections.get? header with
      | none =>
          rw [hOptions] at hLines
          contradiction
      | some options =>
          rw [hOptions, Option.getD_some,
            ← Table.mem_entries_iff] at hLines
          rw [← Table.mem_entries_iff] at hOptions
          exact hSections _ hOptions _ hLines

/- A text without the sign is left as it is. -/
theorem expandText_of_not_mem
    (owner : Owner)
    (known : String → Option (List Char))
    (nested :
      List Char → Except Failure.InterpolationFault (List Char))
    {cs : List Char}
    (hNot : '%' ∉ cs) :
    expandText owner known nested cs.length cs = .ok cs := by
  induction cs with
  | nil => rfl
  | cons c cs ih =>
      rw [List.mem_cons, not_or] at hNot
      have hSign : c ≠ '%' := Ne.symm hNot.1
      have hRest := ih hNot.2
      rw [List.length_cons, expandText]
      · rw [if_neg hSign, hRest]
        rfl
      · rintro rest rfl
        contradiction
      · rintro rest rfl
        contradiction

/- A value without the sign is left as it is. -/
theorem expand_of_not_mem
    (owner : Owner)
    (known : String → Option (List Char))
    {cs : List Char}
    (hNot : '%' ∉ cs) :
    expand owner known maxDepth cs = .ok cs :=
  expandText_of_not_mem owner known _ hNot

------------------------------------------------------------
-- Settings of Sections
------------------------------------------------------------

/- The keys of a section and their values, in order. -/
def settingsIn
    (ini : Ini)
    (header : String) : List (String × String) :=
  (ini.optionsOf header).entries.map fun entry =>
    (header ++ "." ++ entry.1,
      String.ofList (valueOf entry.2))

namespace Plain

variable {ini : Ini}

/- The value of an option that is set is what its lines say. -/
theorem value_eq
    (h : Plain ini)
    {header option : String}
    {lines : List (List Char)}
    (hLines : ini.lines? header option = some lines) :
    ini.value header (ini.optionsOf header) option =
      .ok (String.ofList (valueOf lines)) := by
  have hNot := h.values header option lines hLines
  unfold lines? at hLines
  unfold value lookup?
  simp only [hLines, expand_of_not_mem _ _ hNot]

/- A section has no options besides its own. -/
theorem optionNames_eq
    (h : Plain ini)
    (options : Options) :
    ini.optionNames options = options.keys := by
  have hKeys : ini.defaults.keys = [] := by
    rw [List.eq_nil_iff_forall_not_mem]
    intro option hMember
    rw [← Table.get?_ne_none_iff] at hMember
    exact hMember (h.defaults option)
  unfold optionNames
  rw [hKeys, List.filter_nil, List.append_nil]

/- The options of a section are read in order. -/
theorem sectionSettings_eq
    (h : Plain ini)
    (header : String)
    (entries : List (String × List (List Char)))
    (hEntries :
      ∀ entry ∈ entries,
        ini.lines? header entry.1 = some entry.2) :
    ini.sectionSettings header (ini.optionsOf header)
        (entries.map Prod.fst) =
      .ok (entries.map fun entry =>
        (header ++ "." ++ entry.1,
          String.ofList (valueOf entry.2))) := by
  induction entries with
  | nil => rfl
  | cons entry entries ih =>
      have hValue :=
        h.value_eq (hEntries entry List.mem_cons_self)
      have hRest := ih fun other hOther =>
        hEntries other (List.mem_cons_of_mem entry hOther)
      simp only [List.map_cons, sectionSettings, hValue, hRest]
      rfl

/- The sections are read in order. -/
theorem settingsOf_eq
    (h : Plain ini)
    (headers : List String) :
    ini.settingsOf
        (headers.map fun header =>
          (header, ini.optionsOf header)) =
      .ok (headers.flatMap ini.settingsIn) := by
  induction headers with
  | nil => rfl
  | cons header headers ih =>
      have hOwn :
          ini.sectionSettings header (ini.optionsOf header)
              (ini.optionNames (ini.optionsOf header)) =
            .ok (ini.settingsIn header) := by
        rw [h.optionNames_eq]
        apply h.sectionSettings_eq
        rintro ⟨option, lines⟩ hEntry
        exact (Table.mem_entries_iff _ _ _).mp hEntry
      simp only [List.map_cons, settingsOf, hOwn, ih]
      rfl

end Plain

/- The sections of a file are their names and options. -/
theorem entries_sections
    {ini : Ini}
    (hOrdinary : defaultSection ∉ ini.sections.keys) :
    ini.sections.entries =
      ini.sections.keys.map fun header =>
        (header, ini.optionsOf header) := by
  have hEntry : ∀ entry ∈ ini.sections.entries,
      (entry.1, ini.optionsOf entry.1) = entry := by
    rintro ⟨header, options⟩ hEntry
    have hMember : header ∈ ini.sections.keys :=
      List.mem_map_of_mem hEntry
    have hNot : header ≠ defaultSection := by
      rintro rfl
      exact hOrdinary hMember
    rw [Table.mem_entries_iff] at hEntry
    simp [optionsOf, hNot, hEntry]
  unfold Table.keys
  rw [List.map_map]
  exact ((List.map_congr_left hEntry).trans
    (List.map_id' _)).symm

/- What plain files define are the settings of the sections. -/
theorem settings_of_plain
    {ini : Ini}
    (hOrdinary : defaultSection ∉ ini.sections.keys)
    (h : Plain ini) :
    ini.settings =
      .ok (ini.sections.keys.flatMap ini.settingsIn) := by
  unfold settings
  rw [entries_sections hOrdinary, h.settingsOf_eq]

/- The last setting of a key in a section is that of its option. -/
theorem last?_settingsIn
    (ini : Ini)
    (header key : String) :
    Entries.last? key (ini.settingsIn header) =
      (optionIn? header key).bind (ini.text? header) := by
  cases hKey : optionIn? header key with
  | none =>
      rw [Option.bind_none, Entries.last?_eq_none_iff]
      intro hMember
      simp only [settingsIn, List.map_map, List.mem_map]
        at hMember
      rcases hMember with ⟨entry, _, hEntry⟩
      have hOption :=
        (optionIn?_eq_some_iff header key entry.1).mpr
          hEntry.symm
      rw [hKey] at hOption
      contradiction
  | some option =>
      rw [optionIn?_eq_some_iff] at hKey
      have hRename : Function.Injective fun name =>
          header ++ "." ++ name := by
        intro first second hSame
        exact (String.append_right_inj _).mp hSame
      have hLast :=
        Entries.last?_rename hRename
          (fun lines => String.ofList (valueOf lines))
          option (ini.optionsOf header).entries
      rw [hKey, Option.bind_some, settingsIn]
      refine hLast.trans ?_
      rw [Entries.last?_eq_value?
        (ini.optionsOf header).distinct option]
      rfl

/- The last setting of a key is what is defined for it. -/
theorem last?_settings
    (ini : Ini)
    (key : String) :
    Entries.last? key
        (ini.sections.keys.flatMap ini.settingsIn) =
      ini.defined? key := by
  rw [Entries.last?_flatMap]
  simp only [last?_settingsIn]
  rfl

/- Of a plain file only sections have options. -/
theorem Plain.mem_keys
    {ini : Ini}
    (h : Plain ini)
    {header option : String}
    (hSet : ini.text? header option ≠ none) :
    header ∈ ini.sections.keys := by
  rw [text?, ne_eq, Option.map_eq_none_iff] at hSet
  by_cases hDefault : header = defaultSection
  · subst header
    exact absurd (h.defaults option) hSet
  · rw [← Table.get?_ne_none_iff]
    intro hNone
    apply hSet
    rw [lines?, optionsOf, if_neg hDefault, hNone]
    rfl

/-
  A plain file defines nothing for a key if no section has the
  option that the key would be for.
-/
theorem Plain.defined?_eq_none_iff
    {ini : Ini}
    (h : Plain ini)
    (key : String) :
    ini.defined? key = none ↔
      ∀ header option, key = header ++ "." ++ option →
        ini.text? header option = none := by
  rw [defined?, lastIn?_eq_none_iff]
  constructor
  · intro hNone header option hKey
    by_contra hSet
    exact hSet (hNone header (h.mem_keys hSet) option hKey)
  · intro hNone header _
    exact hNone header

/- What is defined for a key is the value of some option. -/
theorem exists_of_defined?_eq_some
    {ini : Ini}
    {key text : String}
    (hDefined : ini.defined? key = some text) :
    ∃ header option, key = header ++ "." ++ option ∧
      ini.text? header option = some text := by
  rcases (lastIn?_eq_some_iff _ _ _ _).mp hDefined with
    ⟨_, header, _, option, _, hKey, hText, _⟩
  exact ⟨header, option, hKey, hText⟩

end Ini

end Keyspaces
