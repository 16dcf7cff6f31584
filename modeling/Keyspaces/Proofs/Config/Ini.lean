import Keyspaces.Config.Ini
import Keyspaces.Proofs.Outcome
import Keyspaces.Proofs.Table

/-
  Reading a configuration file on top of others. It goes as
  reading the file alone goes, and what comes of it is what
  the file alone says, over what was known before.

  Main declarations:
    * `Ini.Over`
    * `Ini.Reader.Alongside`
    * `Ini.Reader.Alongside.readLines`
    * `Ini.over_readFile`
-/

------------------------------------------------------------
-- Sections and Their Options
------------------------------------------------------------

namespace Keyspaces

namespace Ini

/- The options that are set under the name of a section. -/
def optionsOf
    (ini : Ini)
    (name : String) : Options :=
  if name = defaultSection then
    ini.defaults
  else
    (ini.sections.get? name).getD Table.empty

/- The lines of the value of an option of a section. -/
def lines?
    (ini : Ini)
    (header option : String) : Option (List (List Char)) :=
  (ini.optionsOf header).get? option

/- Options can be set under the name of a section. -/
def Present
    (ini : Ini)
    (name : String) : Prop :=
  name = defaultSection ∨ name ∈ ini.sections.keys

/- Changing options keeps the sections. -/
theorem keys_modify
    (ini : Ini)
    (name : String)
    (change : Options → Options) :
    (ini.modify name change).sections.keys =
      ini.sections.keys := by
  unfold modify
  split
  · rfl
  · split
    case h_1 options hOptions =>
      apply Table.keys_insert_of_mem
      rw [← Table.get?_ne_none_iff, hOptions]
      simp
    case h_2 => rfl

/- Changing the options of a section changes no other one. -/
theorem optionsOf_modify
    (ini : Ini)
    {name : String}
    (change : Options → Options)
    (other : String)
    (hPresent : ini.Present name) :
    (ini.modify name change).optionsOf other =
      if other = name then change (ini.optionsOf name)
      else ini.optionsOf other := by
  by_cases hDefault : name = defaultSection
  · by_cases hOther : other = name
    · subst other
      simp [modify, optionsOf, hDefault]
    · have hNot : other ≠ defaultSection := hDefault ▸ hOther
      simp [modify, optionsOf, hDefault, hNot]
  · have hSome : ini.sections.get? name ≠ none := by
      rw [Table.get?_ne_none_iff]
      exact hPresent.resolve_left hDefault
    rcases Option.ne_none_iff_exists'.mp hSome with
      ⟨options, hOptions⟩
    by_cases hOther : other = name
    · subst other
      simp [modify, optionsOf, hDefault, hOptions]
    · simp [modify, optionsOf, hDefault, hOptions, hOther,
        Table.get?_insert]

/- Changing options keeps what is present. -/
theorem present_modify
    (ini : Ini)
    (name : String)
    (change : Options → Options)
    (other : String) :
    (ini.modify name change).Present other ↔
      ini.Present other := by
  unfold Present
  rw [keys_modify]

/- A line that is added to an option leaves all options set. -/
theorem get?_appendLine_ne_none
    (name : String)
    (line : List Char)
    {options : Options}
    {other : String}
    (hSet : options.get? other ≠ none) :
    (appendLine name line options).get? other ≠ none := by
  unfold appendLine
  split
  case h_1 =>
    rw [Table.get?_insert]
    split
    case isTrue => exact Option.some_ne_none _
    case isFalse => exact hSet
  case h_2 => exact hSet

/- A section that is added has no options. -/
theorem optionsOf_addSection
    (ini : Ini)
    (name other : String) :
    (ini.addSection name).optionsOf other =
      ini.optionsOf other := by
  unfold addSection
  split
  case isTrue => rfl
  case isFalse hNew =>
    simp only [Bool.or_eq_true, decide_eq_true_eq, not_or,
      Bool.not_eq_true, Table.contains_eq_false_iff] at hNew
    by_cases hOther : other = name
    · subst other
      simp [optionsOf, hNew.1, hNew.2]
    · simp [optionsOf, Table.get?_insert, hOther]

/- A section that is present is not added again. -/
theorem addSection_of_present
    (ini : Ini)
    {name : String}
    (hPresent : ini.Present name) :
    ini.addSection name = ini := by
  rw [addSection, if_pos]
  simpa [Present, Table.contains_iff_mem_keys] using hPresent

/- A section that is added comes last. -/
theorem keys_addSection_of_not_present
    (ini : Ini)
    {name : String}
    (hNew : ¬ ini.Present name) :
    (ini.addSection name).sections.keys =
      ini.sections.keys ++ [name] := by
  have hNot : ¬ (name = defaultSection ||
      ini.sections.contains name) = true := by
    simpa [Present, Table.contains_iff_mem_keys] using hNew
  rw [addSection, if_neg hNot]
  exact Table.keys_insert_of_not_mem _ _ fun hMember =>
    hNew (.inr hMember)

/- A section is present once it was added. -/
theorem present_addSection
    (ini : Ini)
    (name : String) : (ini.addSection name).Present name := by
  by_cases hPresent : ini.Present name
  · rwa [addSection_of_present ini hPresent]
  · right
    rw [keys_addSection_of_not_present ini hPresent]
    simp

end Ini

end Keyspaces

------------------------------------------------------------
-- One File over Others
------------------------------------------------------------

namespace Keyspaces

namespace Ini

/-
  What is known is what a file alone says over what was known
  before. The sections of the file that are new come behind
  those before, and the file decides on the options it sets.
-/
structure Over (lower upper ini : Ini) : Prop where
  names :
    ini.sections.keys =
      lower.sections.keys ++
        upper.sections.keys.filter fun name =>
          name ∉ lower.sections.keys
  lines :
    ∀ header option,
      ini.lines? header option =
        (upper.lines? header option).or
          (lower.lines? header option)
  ordinary : defaultSection ∉ ini.sections.keys

namespace Over

variable {lower upper ini : Ini}
variable {header option : String}

/- A file says nothing before it is read. -/
theorem start
    (hOrdinary : defaultSection ∉ lower.sections.keys) :
    Over lower empty lower := by
  constructor
  case names => simp [empty, Table.empty, Table.keys]
  case lines =>
    intro header option
    have hNone : empty.lines? header option = none := by
      unfold lines? optionsOf
      split <;> rfl
    rw [hNone, Option.none_or]
  case ordinary => exact hOrdinary

/- A section is present if the file or those before have it. -/
theorem present_iff
    (h : Over lower upper ini)
    (name : String) :
    ini.Present name ↔
      upper.Present name ∨ name ∈ lower.sections.keys := by
  unfold Present
  rw [h.names]
  simp only [List.mem_append, List.mem_filter,
    decide_eq_true_eq]
  tauto

/- A section is added to the file and to what is known. -/
theorem addSection
    (h : Over lower upper ini)
    (name : String) :
    Over lower (upper.addSection name)
      (ini.addSection name) := by
  have hLines : ∀ header option,
      (ini.addSection name).lines? header option =
        ((upper.addSection name).lines? header option).or
          (lower.lines? header option) := by
    intro header option
    simp only [lines?, optionsOf_addSection]
    exact h.lines header option
  by_cases hUpper : upper.Present name
  · have hPresent : ini.Present name :=
      (h.present_iff name).mpr (.inl hUpper)
    rw [addSection_of_present upper hUpper,
      addSection_of_present ini hPresent]
    exact h
  · have hUpperNames :=
      keys_addSection_of_not_present upper hUpper
    by_cases hLower : name ∈ lower.sections.keys
    · have hPresent : ini.Present name :=
        (h.present_iff name).mpr (.inr hLower)
      rw [addSection_of_present ini hPresent] at hLines ⊢
      refine ⟨?_, hLines, h.ordinary⟩
      rw [h.names, hUpperNames]
      simp [hLower]
    · have hPresent : ¬ ini.Present name := by
        rw [h.present_iff]
        exact not_or.mpr ⟨hUpper, hLower⟩
      have hNames :=
        keys_addSection_of_not_present ini hPresent
      refine ⟨?_, hLines, ?_⟩
      · rw [hNames, hUpperNames, h.names]
        simp [hLower]
      · rw [hNames]
        simpa [h.ordinary, eq_comm] using
          (not_or.mp hPresent).1

/-
  A change of the options of a section of the file is one to
  what is known if it takes what the file says along.
-/
theorem modify
    (h : Over lower upper ini)
    (hPresent : upper.Present header)
    (change : Options → Options)
    (hChange :
      ∀ option,
        (change (ini.optionsOf header)).get? option =
          ((change (upper.optionsOf header)).get? option).or
            (lower.lines? header option)) :
    Over lower (upper.modify header change)
      (ini.modify header change) := by
  have hKnown : ini.Present header :=
    (h.present_iff header).mpr (.inl hPresent)
  constructor
  case names =>
    rw [keys_modify, keys_modify]
    exact h.names
  case lines =>
    intro other option
    unfold lines?
    rw [optionsOf_modify ini change other hKnown,
      optionsOf_modify upper change other hPresent]
    by_cases hOther : other = header
    · subst other
      rw [if_pos rfl, if_pos rfl]
      exact hChange option
    · rw [if_neg hOther, if_neg hOther]
      exact h.lines other option
  case ordinary =>
    rw [keys_modify]
    exact h.ordinary

/- An option that the file sets is set in what is known. -/
theorem setOption
    (h : Over lower upper ini)
    (hPresent : upper.Present header)
    (option : String)
    (lines : List (List Char)) :
    Over lower
      (upper.modify header fun options =>
        options.insert option lines)
      (ini.modify header fun options =>
        options.insert option lines) := by
  apply h.modify hPresent
  intro other
  rw [Table.get?_insert, Table.get?_insert]
  split
  case isTrue => rfl
  case isFalse => exact h.lines header other

/- A line goes on with a value that the file has set. -/
theorem appendLine
    (h : Over lower upper ini)
    (hPresent : upper.Present header)
    (hSet : upper.lines? header option ≠ none)
    (line : List Char) :
    Over lower
      (upper.modify header (Ini.appendLine option line))
      (ini.modify header (Ini.appendLine option line)) := by
  rcases Option.ne_none_iff_exists'.mp hSet with
    ⟨lines, hLines⟩
  -- The option is the file's own, so the line does not go on
  -- with what a less important file says.
  have hKnown : ini.lines? header option = some lines := by
    rw [h.lines, hLines, Option.some_or]
  apply h.modify hPresent
  intro other
  unfold lines? at hLines hKnown
  simp only [Ini.appendLine, hLines, hKnown,
    Table.get?_insert]
  split
  case isTrue => rfl
  case isFalse => exact h.lines header other

end Over

end Ini

end Keyspaces

------------------------------------------------------------
-- Reading Alone and on Top
------------------------------------------------------------

namespace Keyspaces

namespace Ini

namespace Reader

/- The reader at the same place who knows something else. -/
def knowing
    (reader : Reader)
    (ini : Ini) : Reader :=
  { reader with ini := ini }

@[simp]
theorem header_knowing (reader : Reader) (ini : Ini) :
    (reader.knowing ini).header = reader.header :=
  rfl

@[simp]
theorem indent_knowing (reader : Reader) (ini : Ini) :
    (reader.knowing ini).indent = reader.indent :=
  rfl

@[simp]
theorem open?_knowing (reader : Reader) (ini : Ini) :
    (reader.knowing ini).open? = reader.open? :=
  rfl

@[simp]
theorem seenSections_knowing (reader : Reader) (ini : Ini) :
    (reader.knowing ini).seenSections = reader.seenSections :=
  rfl

@[simp]
theorem seenOptions_knowing (reader : Reader) (ini : Ini) :
    (reader.knowing ini).seenOptions = reader.seenOptions :=
  rfl

/-
  A reader of a file alone goes alongside one who knows what
  the file has said so far over what was known before. The
  section and the option that lines can go on with are set.
-/
structure Alongside
    (lower : Ini)
    (reader : Reader)
    (ini : Ini) : Prop where
  merged : Over lower reader.ini ini
  present :
    ∀ header, reader.header = some header →
      reader.ini.Present header
  set :
    ∀ header option, reader.header = some header →
      reader.option = some option →
        reader.ini.lines? header option ≠ none

/- One reader is at the same place as another, and knows more. -/
def Follows
    (lower : Ini)
    (alone onTop : Reader) : Prop :=
  ∃ ini, onTop = alone.knowing ini ∧ Alongside lower alone ini

/- A value can go on in the current section and option. -/
theorem open?_eq_some
    {reader : Reader}
    {header option : String}
    (hOpen : reader.open? = some (header, option)) :
    reader.header = some header ∧
      reader.option = some option := by
  unfold open? at hOpen
  split at hOpen
  case h_2 => contradiction
  case h_1 foundHeader foundOption hHeader hOption =>
    split at hOpen
    case isTrue => contradiction
    case isFalse =>
      cases hOpen
      exact ⟨hHeader, hOption⟩

namespace Alongside

variable {lower ini : Ini}
variable {reader : Reader}

/- Where a reader stands in the file does not matter. -/
theorem noteMalformed
    (h : Alongside lower reader ini)
    (line : Line) :
    Alongside lower (reader.noteMalformed line) ini :=
  ⟨h.merged, h.present, h.set⟩

/- Both readers go on with a value. -/
theorem continueValue
    (h : Alongside lower reader ini)
    {header option : String}
    (hOpen : reader.open? = some (header, option))
    (line : List Char) :
    Follows lower
      (reader.continueValue header option line)
      ((reader.knowing ini).continueValue header option line) := by
  rcases open?_eq_some hOpen with ⟨hHeader, hOption⟩
  have hPresent := h.present header hHeader
  have hSet := h.set header option hHeader hOption
  refine ⟨_, rfl, ?_⟩
  constructor
  case merged => exact h.merged.appendLine hPresent hSet line
  case present =>
    intro other hOther
    exact (present_modify _ _ _ _).mpr (h.present other hOther)
  case set =>
    intro other otherOption hOther hOtherOption
    have hOtherSet :=
      h.set other otherOption hOther hOtherOption
    cases hHeader.symm.trans hOther
    unfold lines?
    dsimp only [Reader.continueValue]
    rw [optionsOf_modify _ _ _ hPresent, if_pos rfl]
    exact get?_appendLine_ne_none option line hOtherSet

/- Both readers start a section. -/
theorem startSection
    (h : Alongside lower reader ini)
    (path : String)
    (line : Line)
    (name : String) :
    Outcome.Matches (Follows lower)
      (reader.startSection path line name)
      ((reader.knowing ini).startSection path line name) := by
  unfold Reader.startSection
  rw [seenSections_knowing]
  split
  case isTrue => exact .error _
  case isFalse =>
    refine .ok ⟨_, rfl, ?_⟩
    constructor
    case merged => exact h.merged.addSection name
    case present =>
      intro header hHeader
      cases hHeader
      exact present_addSection reader.ini name
    case set =>
      intro header option _ hOption
      contradiction

/- Both readers set an option. -/
theorem setOption
    (h : Alongside lower reader ini)
    (path : String)
    (line : Line)
    {header : String}
    (hHeader : reader.header = some header)
    (name value : List Char) :
    Outcome.Matches (Follows lower)
      (reader.setOption path line header name value)
      ((reader.knowing ini).setOption path line header name
        value) := by
  have hPresent := h.present header hHeader
  unfold Reader.setOption
  dsimp only
  generalize
    String.ofList (Text.lowerChars (Text.trimRight name)) =
      option
  rw [seenOptions_knowing]
  split
  case isTrue => exact .error _
  case isFalse =>
    refine .ok ⟨_, rfl, ?_⟩
    constructor
    case merged => exact h.merged.setOption hPresent option _
    case present =>
      intro other hOther
      exact (present_modify _ _ _ _).mpr
        (h.present other hOther)
    case set =>
      intro other otherOption hOther hOption
      cases hHeader.symm.trans hOther
      cases hOption
      unfold lines?
      dsimp only
      rw [optionsOf_modify _ _ _ hPresent, if_pos rfl,
        Table.get?_insert_self]
      exact Option.some_ne_none _

/- Both readers read a line that is not a continuation. -/
theorem readStatement
    (h : Alongside lower reader ini)
    (path : String)
    (line : Line)
    (body : List Char) :
    Outcome.Matches (Follows lower)
      (reader.readStatement path line body)
      ((reader.knowing ini).readStatement path line body) := by
  unfold Reader.readStatement
  cases headerName? body with
  | some name => exact h.startSection path line name
  | none =>
      rw [header_knowing]
      cases hHeader : reader.header with
      | none => exact .error _
      | some header =>
          cases optionParts? body with
          | none =>
              exact .ok ⟨ini, rfl, h.noteMalformed line⟩
          | some parts =>
              rcases parts with ⟨name, value⟩
              cases hName : name.isEmpty with
              | true =>
                  simp only [hName, if_true]
                  exact (h.noteMalformed line).setOption path
                    line hHeader name value
              | false =>
                  simp only [hName, Bool.false_eq_true,
                    if_false]
                  exact h.setOption path line hHeader name
                    value

/- Both readers read a line. -/
theorem readLine
    (h : Alongside lower reader ini)
    (path : String)
    (line : Line) :
    Outcome.Matches (Follows lower)
      (reader.readLine path line)
      ((reader.knowing ini).readLine path line) := by
  unfold Reader.readLine
  dsimp only
  rw [open?_knowing, indent_knowing]
  generalize Text.trimChars line.chars = body
  generalize (line.chars.takeWhile Text.isBlank).length =
    indent
  have hMoved :
      Alongside lower { reader with indent := indent } ini :=
    ⟨h.merged, h.present, h.set⟩
  by_cases hRemark : isRemark body = true
  · rw [if_pos hRemark, if_pos hRemark]
    exact .ok ⟨ini, rfl, h⟩
  · rw [if_neg hRemark, if_neg hRemark]
    by_cases hEmpty : body.isEmpty = true
    · rw [if_pos hEmpty, if_pos hEmpty]
      cases hOpen : reader.open? with
      | none => exact .ok ⟨ini, rfl, h⟩
      | some place => exact .ok (h.continueValue hOpen [])
    · rw [if_neg hEmpty, if_neg hEmpty]
      cases hOpen : reader.open? with
      | none => exact hMoved.readStatement path line body
      | some place =>
          cases decide (reader.indent < indent) with
          | true => exact .ok (h.continueValue hOpen body)
          | false =>
              exact hMoved.readStatement path line body

/- Both readers read a file to its end, or to the same fault. -/
theorem readLines
    (h : Alongside lower reader ini)
    (path : String)
    (lines : List Line) :
    Outcome.Matches (Follows lower)
      (reader.readLines path lines)
      ((reader.knowing ini).readLines path lines) := by
  induction lines generalizing reader ini with
  | nil => exact .ok ⟨ini, rfl, h⟩
  | cons line lines ih =>
      unfold Reader.readLines
      have hLine := h.readLine path line
      generalize reader.readLine path line = alone at hLine ⊢
      generalize (reader.knowing ini).readLine path line =
        onTop at hLine ⊢
      cases hLine with
      | error fault => exact .error fault
      | ok hFollows =>
          rcases hFollows with ⟨next, rfl, hNext⟩
          exact ih hNext

end Alongside

end Reader

------------------------------------------------------------
-- Whole Files
------------------------------------------------------------

variable {lower : Ini}

/- The content of a file is read on top as it is read alone. -/
theorem over_readContent
    (hOrdinary : defaultSection ∉ lower.sections.keys)
    (path : String)
    (bytes : List UInt8) :
    Outcome.Matches (Over lower)
      (empty.readContent path bytes)
      (lower.readContent path bytes) := by
  have hStart :
      Reader.Alongside lower (Reader.start empty) lower := by
    refine ⟨Over.start hOrdinary, ?_, ?_⟩
    · intro header hHeader
      contradiction
    · intro header option hHeader
      contradiction
  have hLines :=
    hStart.readLines path (linesOf (contentOf bytes))
  have hOver :
      (Reader.start empty).knowing lower = Reader.start lower :=
    rfl
  rw [hOver] at hLines
  unfold readContent
  dsimp only
  generalize
    (Reader.start empty).readLines path
      (linesOf (contentOf bytes)) = alone at hLines ⊢
  generalize
    (Reader.start lower).readLines path
      (linesOf (contentOf bytes)) = onTop at hLines ⊢
  cases hLines with
  | error fault => exact .error _
  | @ok reader _ hFollows =>
      rcases hFollows with ⟨ini, rfl, hAlongside⟩
      dsimp only [Reader.knowing]
      cases (contentOf bytes).fault with
      | some fault => exact .error _
      | none =>
          dsimp only
          split
          case isTrue => exact .ok hAlongside.merged
          case isFalse => exact .error _

/- A file is read on top as it is read alone. -/
theorem over_readFile
    (hOrdinary : defaultSection ∉ lower.sections.keys)
    (tree : FileTree)
    (path : String) :
    Outcome.Matches (Over lower)
      (empty.readFile tree path)
      (lower.readFile tree path) := by
  unfold readFile
  cases tree.read (.text path) with
  | error failure => exact .ok (Over.start hOrdinary)
  | ok bytes => exact over_readContent hOrdinary path bytes

end Ini

end Keyspaces
