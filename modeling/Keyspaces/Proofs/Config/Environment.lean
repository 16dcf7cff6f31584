import Keyspaces.Config.Environment
import Keyspaces.Proofs.Config.Layers

/-
  The configuration of a process over all its sources: files,
  the variable, values and named values, each of which comes
  before those in front of it.

  Main declarations:
    * `Config.ofTable`
    * `Environment.Sources`
    * `Config.KeepsOrder`
    * `Config.Overturned`
    * `Config.Layered`
    * `Config.layered_create`
-/

------------------------------------------------------------
-- Configurations under Text Keys
------------------------------------------------------------

namespace Keyspaces

namespace Config

/- Texts are equal as values if they are the same. -/
theorem text_beq_text (s t : String) :
    (Value.text s == Value.text t) = (s == t) := by
  change Value.equal (.text s) (.text t) = _
  rw [Value.equal]

/- The configuration with the entries of a table. -/
def ofTable (table : Table String Value) : Config :=
  ⟨textEntries table.entries, by
    apply List.Pairwise.map _ _ table.distinct
    intro first second hDistinct
    rwa [text_beq_text]⟩

/- Entries under text keys are found by their texts. -/
theorem contains_textEntries
    (key : String)
    (entries : List (String × Value)) :
    Entries.contains (.text key) (textEntries entries) =
      Entries.contains key entries := by
  unfold Entries.contains textEntries
  rw [List.any_map]
  simp only [Function.comp_def, text_beq_text]

/- Replacing under a text key replaces under its text. -/
theorem replace_textEntries
    (key : String)
    (value : Value)
    (entries : List (String × Value)) :
    Entries.replace (.text key) value (textEntries entries) =
      textEntries (Entries.replace key value entries) := by
  unfold Entries.replace textEntries
  rw [List.map_map, List.map_map]
  apply List.map_congr_left
  intro entry _
  simp only [Function.comp_apply, text_beq_text]
  split <;> rfl

/- Storing under a text key stores in the table. -/
theorem insert_ofTable
    (table : Table String Value)
    (key : String)
    (value : Value) :
    (ofTable table).values.insert (.text key) value =
      (ofTable (table.insert key value)).values := by
  have hEntries : ∀ other,
      (ofTable other).values.entries =
        textEntries other.entries :=
    fun _ => rfl
  apply Table.eq_of_entries
  rw [Table.entries_insert, hEntries, hEntries,
    Table.entries_insert, contains_textEntries]
  split
  case isTrue => exact replace_textEntries key value _
  case isFalse =>
    unfold textEntries
    rw [List.map_append]
    rfl

/- Storing entries under text keys stores them in the table. -/
theorem merge_ofTable
    (table : Table String Value)
    (entries : List (String × Value)) :
    (ofTable table).merge entries =
      ofTable (table.merge entries) := by
  induction entries generalizing table with
  | nil => rfl
  | cons entry entries ih =>
      have hRest := ih (table.insert entry.1 entry.2)
      unfold merge at hRest
      rw [← insert_ofTable] at hRest
      exact hRest

/- A text key is read as in the table. -/
theorem value?_ofTable
    (table : Table String Value)
    (key : String) :
    (ofTable table).value? key = table.get? key := by
  unfold value? Table.get? ofTable textEntries
  rw [List.find?_map, Option.map_map]
  simp only [Function.comp_def, text_beq_text]

/- The keys are the texts that are keys of the table. -/
theorem keys_ofTable (table : Table String Value) :
    (ofTable table).values.keys =
      table.keys.map Value.text := by
  simp [ofTable, textEntries, Table.keys, Function.comp_def]

end Config

end Keyspaces

------------------------------------------------------------
-- What the Sources Say
------------------------------------------------------------

namespace Keyspaces

namespace Text

/- A text is cut at a separator that does not come before. -/
theorem cut?_append
    {separator : Char}
    {first : List Char}
    (hFirst : separator ∉ first)
    (rest : List Char) :
    cut? separator (first ++ separator :: rest) =
      some (first, rest) := by
  induction first with
  | nil => simp [cut?]
  | cons c first ih =>
      rw [List.mem_cons, not_or] at hFirst
      have hNot : c ≠ separator := Ne.symm hFirst.1
      simp [cut?, hNot, ih hFirst.2]

end Text

namespace Environment

/-
  A token of the variable sets an option: the key is what is
  in front of its first equality sign.
-/
def Sets
    (token : String)
    (option : String × String) : Prop :=
  token = option.1 ++ "=" ++ option.2 ∧
    '=' ∉ option.1.toList

/-
  What the sources of a configuration say: each of the files
  as it is read alone, least important first, and the options
  that the variable sets in order. A file that is not there
  says nothing.
-/
structure Sources
    (environment : Environment)
    (layers : List Ini)
    (assigned : List (String × String)) : Prop where
  files :
    List.Forall₂
      (fun path layer =>
        Ini.empty.readFile environment.files path = .ok layer)
      environment.paths layers
  plain : ∀ layer ∈ layers, layer.Plain
  tokens :
    ∃ tokens,
      ShellWords.split (environment.optionLine.getD "") =
          .ok tokens ∧
        List.Forall₂ Sets tokens assigned

/- A token is taken for the option that it sets. -/
theorem option_eq_ok
    {token : String}
    {assigned : String × String}
    (hSets : Sets token assigned) :
    option token = .ok assigned := by
  rcases assigned with ⟨key, value⟩
  rcases hSets with ⟨rfl, hKey⟩
  have hToken :
      (key ++ "=" ++ value).toList =
        key.toList ++ '=' :: value.toList := by
    simp
  unfold option
  rw [hToken, Text.cut?_append hKey]
  simp only [String.ofList_toList]

/- Tokens are taken for the options that they set. -/
theorem options_eq_ok
    {tokens : List String}
    {assigned : List (String × String)}
    (hSets : List.Forall₂ Sets tokens assigned) :
    options tokens = .ok assigned := by
  induction hSets with
  | nil => rfl
  | cons hToken _ ih =>
      unfold options
      rw [option_eq_ok hToken, ih]
      rfl

/- The last value among texts is the last text. -/
theorem last?_textValues
    (key : String)
    (entries : List (String × String)) :
    Entries.last? key (textValues entries) =
      (Entries.last? key entries).map Value.text :=
  Entries.last?_map Value.text key entries

variable {environment : Environment}
variable {layers : List Ini}
variable {assigned : List (String × String)}

/- The files are read, and say what they say when merged. -/
theorem Sources.exists_fileSettings
    (h : Sources environment layers assigned) :
    ∃ entries, environment.fileSettings = .ok entries ∧
      ∀ key, Entries.last? key entries =
        (Ini.stacked? layers key).map Value.text := by
  rcases Ini.stacks_readFiles h.files with
    ⟨ini, hRead, hStacks⟩
  have hSettings :=
    Ini.settings_of_plain hStacks.ordinary
      (hStacks.plain h.plain)
  refine
    ⟨textValues (ini.sections.keys.flatMap ini.settingsIn), ?_,
      fun key => ?_⟩
  · unfold fileSettings
    rw [hRead]
    simp only [bind, Except.bind, hSettings]
  · rw [last?_textValues, Ini.last?_settings,
      hStacks.defined?_eq]

/- The variable says what its tokens set. -/
theorem Sources.variableSettings_eq
    (h : Sources environment layers assigned) :
    environment.variableSettings =
      .ok (textValues assigned) := by
  rcases h.tokens with ⟨tokens, hSplit, hSets⟩
  unfold variableSettings
  rw [hSplit]
  simp only [bind, Except.bind, options_eq_ok hSets]

end Environment

end Keyspaces

------------------------------------------------------------
-- Configurations over All Sources
------------------------------------------------------------

namespace Keyspaces

namespace Config

open Environment

/-
  The value of a key that the order of all sources prescribes:
  that of the most important source which defines the key.
-/
def prescribed?
    (layers : List Ini)
    (assigned : List (String × String))
    (values named : List (String × Value))
    (key : String) : Option Value :=
  (Entries.last? key named).or
    ((Entries.last? key values).or
      (((Entries.last? key assigned).or
        (Ini.prescribed? layers key)).map Value.text))

/-
  A configuration keeps to the order of its sources when each
  key has the value that the order prescribes for it.
-/
def KeepsOrder
    (layers : List Ini)
    (assigned : List (String × String))
    (values named : List (String × Value))
    (conf : Config) : Prop :=
  ∀ key, conf.value? key =
    prescribed? layers assigned values named key

/-
  The order of the sources is overturned at a key: only files
  define the key, and it is overturned among these.
-/
structure Overturned
    (layers : List Ini)
    (assigned : List (String × String))
    (values named : List (String × Value))
    (key : String) : Prop where
  named : key ∉ named.map Prod.fst
  values : key ∉ values.map Prod.fst
  assigned : key ∉ assigned.map Prod.fst
  files : Ini.Overturned layers key

/-
  A configuration is layered over its sources. Each key has
  the value of the most important source, where files count as
  one and say what they say when merged. That is what the
  order prescribes for all keys but the overturned ones, and
  no key is overturned that all files have in one section. The
  keys are those which some source defines.
-/
structure Layered
    (layers : List Ini)
    (assigned : List (String × String))
    (values named : List (String × Value))
    (conf : Config) : Prop where
  value :
    ∀ key, conf.value? key =
      (Entries.last? key named).or
        ((Entries.last? key values).or
          (((Entries.last? key assigned).or
            (Ini.stacked? layers key)).map Value.text))
  prescribed_iff :
    ∀ key,
      conf.value? key =
          prescribed? layers assigned values named key ↔
        ¬ Overturned layers assigned values named key
  unsplit :
    ∀ key place,
      (∀ layer ∈ layers, ∀ header option,
        key = header ++ "." ++ option →
          layer.text? header option ≠ none →
            header = place) →
        conf.value? key =
          prescribed? layers assigned values named key
  keys :
    ∀ key, key ∈ conf.values.keys ↔
      ∃ name, key = .text name ∧
        prescribed? layers assigned values named name ≠ none

variable {environment : Environment}
variable {layers : List Ini}
variable {assigned : List (String × String)}

/-
  If the files can be read, what is made of an environment is
  decided by its variable.
-/
theorem create_of_fileSettings
    {entries : List (String × Value)}
    (hFiles : environment.fileSettings = .ok entries)
    (values named : List (String × Value)) :
    create (some environment) values named =
      environment.variableSettings.map fun given =>
        ofTable
          ((((Table.empty.merge entries).merge given).merge
            values).merge named) := by
  have hEntries :
      ofList entries = ofTable (Table.empty.merge entries) :=
    merge_ofTable Table.empty entries
  unfold create load
  dsimp only
  rw [hFiles]
  cases environment.variableSettings with
  | error failure => rfl
  | ok given =>
      simp only [bind, Except.bind, hEntries, merge_ofTable,
        Except.map]

/-
  A configuration can be made of its sources, and all of its
  keys are texts.
-/
theorem exists_create
    (h : Sources environment layers assigned)
    (values named : List (String × Value)) :
    ∃ table,
      create (some environment) values named =
          .ok (ofTable table) ∧
        ∀ key, table.get? key =
          (Entries.last? key named).or
            ((Entries.last? key values).or
              (((Entries.last? key assigned).or
                (Ini.stacked? layers key)).map Value.text)) := by
  rcases h.exists_fileSettings with ⟨entries, hFiles, hLast⟩
  refine
    ⟨(((Table.empty.merge entries).merge
      (textValues assigned)).merge values).merge named, ?_,
      fun key => ?_⟩
  · rw [create_of_fileSettings hFiles, h.variableSettings_eq]
    rfl
  · simp only [Table.get?_merge_eq_last?, Table.get?_empty,
      hLast, last?_textValues, Option.or_none, Option.map_or]

/-
  Two values of files make a difference to a key exactly when
  they differ and no other source defines the key.
-/
theorem or_eq_or_iff
    (name value : Option Value)
    (option first second : Option String) :
    name.or (value.or ((option.or first).map Value.text)) =
        name.or
          (value.or ((option.or second).map Value.text)) ↔
      ¬ (name = none ∧ value = none ∧ option = none ∧
        first ≠ second) := by
  have hText : Function.Injective Value.text := by
    intro s t hSame
    exact Value.text.inj hSame
  cases name with
  | some found => simp
  | none =>
      cases value with
      | some found => simp
      | none =>
          cases option with
          | some found => simp
          | none => simp [(Option.map_injective hText).eq_iff]

/- No source but the files defines an overturned key. -/
theorem overturned_iff
    (hPlain : ∀ layer ∈ layers, layer.Plain)
    (values named : List (String × Value))
    (key : String) :
    Overturned layers assigned values named key ↔
      Entries.last? key named = none ∧
        Entries.last? key values = none ∧
        Entries.last? key assigned = none ∧
        Ini.stacked? layers key ≠
          Ini.prescribed? layers key := by
  rw [Ini.stacked?_ne_prescribed?_iff hPlain]
  simp only [Entries.last?_eq_none_iff]
  constructor
  · rintro ⟨hNamed, hValues, hAssigned, hFiles⟩
    exact ⟨hNamed, hValues, hAssigned, hFiles⟩
  · rintro ⟨hNamed, hValues, hAssigned, hFiles⟩
    exact ⟨hNamed, hValues, hAssigned, hFiles⟩

/- A configuration can be made of its sources, and is layered. -/
theorem layered_create
    (h : Sources environment layers assigned)
    (values named : List (String × Value)) :
    ∃ conf, create (some environment) values named = .ok conf ∧
      Layered layers assigned values named conf := by
  rcases exists_create h values named with
    ⟨table, hCreate, hTable⟩
  have hValue := fun key =>
    (value?_ofTable table key).trans (hTable key)
  refine ⟨ofTable table, hCreate, ?_⟩
  constructor
  case value => exact hValue
  case prescribed_iff =>
    intro key
    rw [hValue, overturned_iff h.plain, prescribed?]
    exact or_eq_or_iff _ _ _ _ _
  case unsplit =>
    intro key place hUnsplit
    rw [hValue, prescribed?,
      Ini.stacked?_eq_prescribed?_of_unsplit h.plain hUnsplit]
  case keys =>
    have hNone : ∀ name, table.get? name ≠ none ↔
        prescribed? layers assigned values named name ≠
          none := by
      intro name
      rw [hTable, prescribed?]
      simp only [ne_eq, Option.or_eq_none_iff,
        Option.map_eq_none_iff,
        Ini.stacked?_eq_none_iff h.plain,
        Ini.prescribed?_eq_none_iff]
    intro key
    rw [keys_ofTable, List.mem_map]
    constructor
    · rintro ⟨name, hName, rfl⟩
      rw [← Table.get?_ne_none_iff, hNone] at hName
      exact ⟨name, rfl, hName⟩
    · rintro ⟨name, rfl, hName⟩
      rw [← hNone, Table.get?_ne_none_iff] at hName
      exact ⟨name, hName, rfl⟩

end Config

end Keyspaces

------------------------------------------------------------
-- Two Files That Split a Key Differently
------------------------------------------------------------

namespace Keyspaces

namespace Config

open Environment

namespace Sample

/- The content of a file in ASCII. -/
def content (text : String) : List UInt8 :=
  text.toList.map fun c => UInt8.ofNat c.toNat

/-
  The file in the home directory has a value in one section,
  and that in the working directory, which is more important,
  has another in a section that came earlier.
-/
def files : FileTree :=
  FileTree.empty.writeAll
    [("home/.cassres.ini", content "[a]\n[a.b]\nc = low\n"),
      ("cassres.ini", content "[a]\nb.c = high\n")]

/- The environment with these files and a variable. -/
def environment (line : Option String) : Environment :=
  ⟨files, "home", line⟩

/- What the file in the home directory says. -/
def low : Ini :=
  ⟨Table.empty,
    Table.ofList
      [("a", Table.empty),
        ("a.b", Table.ofList [("c", ["low".toList])])]⟩

/- What the file in the working directory says. -/
def high : Ini :=
  ⟨Table.empty,
    Table.ofList
      [("a", Table.ofList [("b.c", ["high".toList])])]⟩

/- The files in order, of which two are not there. -/
def layers : List Ini :=
  [low, Ini.empty, Ini.empty, high]

/- No value of the files holds a reference. -/
theorem plain : ∀ layer ∈ layers, layer.Plain := by
  intro layer hLayer
  simp only [layers, List.mem_cons, List.not_mem_nil,
    or_false] at hLayer
  rcases hLayer with rfl | rfl | rfl | rfl
  · exact .of_sections (by decide)
  · exact .of_sections (by decide)
  · exact .of_sections (by decide)
  · exact .of_sections (by decide)

/- The files say what is given for each of them. -/
theorem files_eq :
    List.Forall₂
      (fun path layer =>
        Ini.empty.readFile files path = .ok layer)
      ["home/.cassres.ini", "home/cassres.ini",
        "./.cassres.ini", "./cassres.ini"]
      layers :=
  .cons rfl (.cons rfl (.cons rfl (.cons rfl .nil)))

/- The variable sets two options, one of them in quotes. -/
theorem sources :
    Sources (environment (some "x=1 'y=2 z'")) layers
      [("x", "1"), ("y", "2 z")] where
  files := files_eq
  plain := plain
  tokens :=
    ⟨["x=1", "y=2 z"], rfl,
      .cons ⟨by decide, by decide⟩
        (.cons ⟨by decide, by decide⟩ .nil)⟩

/- The variable may be missing. -/
theorem sources_of_none :
    Sources (environment none) layers [] where
  files := files_eq
  plain := plain
  tokens := ⟨[], rfl, .nil⟩

end Sample

/- A configuration is made of the sample and a value. -/
theorem layered_sample :
    Sources (Sample.environment (some "x=1 'y=2 z'"))
        Sample.layers [("x", "1"), ("y", "2 z")] ∧
      ∃ conf,
        create (some (Sample.environment (some "x=1 'y=2 z'")))
            [("x", .int 2)] [] =
          .ok conf ∧
        Layered Sample.layers [("x", "1"), ("y", "2 z")]
          [("x", .int 2)] [] conf :=
  ⟨Sample.sources, layered_create Sample.sources _ _⟩

/- The less important file of the sample decides on a key. -/
theorem not_keepsOrder_sample :
    Sources (Sample.environment none) Sample.layers [] ∧
      ∃ conf,
        create (some (Sample.environment none)) [] [] =
          .ok conf ∧
        ¬ KeepsOrder Sample.layers [] [] [] conf := by
  refine ⟨Sample.sources_of_none, _, rfl, ?_⟩
  intro hKeeps
  have hPrescribed :
      prescribed? Sample.layers [] [] [] "a.b.c" =
        some (.text "high") :=
    rfl
  have hValue :=
    (hKeeps "a.b.c").trans hPrescribed
  have hHeld := Value.text.inj (Option.some.inj hValue)
  contradiction

end Config

end Keyspaces
