import Keyspaces.Proofs.Config.Settings

/-
  Configuration files that are read one on top of the other.
  They are merged section by section before the keys are made
  of sections and options. So a key takes its value from the
  last section that has it, even where a more important file
  gives it another value in a section that came earlier.

  Main declarations:
    * `Ini.Stacks`
    * `Ini.stacks_readFiles`
    * `Ini.stacked?`
    * `Ini.prescribed?`
    * `Ini.Overturned`
    * `Ini.stacked?_ne_prescribed?_iff`
    * `Ini.stacked?_eq_prescribed?_of_unsplit`
-/

------------------------------------------------------------
-- Stacks of Files
------------------------------------------------------------

namespace Keyspaces

namespace Ini

/-
  The sections of files, least important file first, in the
  order in which they come for the first time.
-/
def sectionNames (layers : List Ini) : List String :=
  (layers.flatMap fun layer => layer.sections.keys).eraseDups

/-
  What is known is what files say one on top of the other: for
  each option, what the most important file says that sets it.
-/
structure Stacks
    (layers : List Ini)
    (ini : Ini) : Prop where
  names : ini.sections.keys = sectionNames layers
  lines :
    ∀ header option,
      ini.lines? header option =
        layers.reverse.findSome? fun layer =>
          layer.lines? header option
  ordinary : defaultSection ∉ ini.sections.keys

/- Names that come once are all kept. -/
theorem eraseDups_of_nodup
    {names : List String}
    (hNodup : names.Nodup) : names.eraseDups = names := by
  induction names with
  | nil => rfl
  | cons name names ih =>
      rw [List.nodup_cons] at hNodup
      have hFilter :
          names.filter (fun other => !other == name) =
            names := by
        apply List.filter_eq_self.mpr
        intro other hOther
        have hNot : other ≠ name := by
          rintro rfl
          exact hNodup.1 hOther
        simpa using hNot
      rw [List.eraseDups_cons, hFilter, ih hNodup.2]

namespace Stacks

variable {layers : List Ini}
variable {lower upper ini : Ini}

/- Nothing is known before any file is read. -/
theorem nil : Stacks [] empty := by
  constructor
  case names => rfl
  case lines =>
    intro header option
    unfold lines? optionsOf
    split <;> rfl
  case ordinary => exact List.not_mem_nil

/- A file comes on top of those before it. -/
theorem snoc
    (h : Stacks layers lower)
    (hOver : Over lower upper ini) :
    Stacks (layers ++ [upper]) ini := by
  constructor
  case names =>
    have hNew :
        upper.sections.keys.removeAll
            (layers.flatMap fun layer =>
              layer.sections.keys) =
          upper.sections.keys.filter fun name =>
            name ∉ lower.sections.keys := by
      rw [h.names, sectionNames]
      generalize
        (layers.flatMap fun layer => layer.sections.keys) =
          names
      apply List.filter_congr
      intro name _
      simp
    rw [hOver.names, sectionNames, List.flatMap_append,
      List.eraseDups_append, List.flatMap_singleton, hNew,
      eraseDups_of_nodup (upper.sections.nodup_keys.filter _),
      h.names]
    rfl
  case lines =>
    intro header option
    rw [hOver.lines, h.lines, List.reverse_append,
      List.findSome?_append]
    simp
  case ordinary => exact hOver.ordinary

/- Files that can be read alone can be read in a row. -/
theorem readFiles
    (h : Stacks layers lower)
    {tree : FileTree}
    {paths : List String}
    {more : List Ini}
    (hMore :
      List.Forall₂
        (fun path layer =>
          empty.readFile tree path = .ok layer)
        paths more) :
    ∃ ini, lower.readFiles tree paths = .ok ini ∧
      Stacks (layers ++ more) ini := by
  induction hMore generalizing layers lower with
  | nil => exact ⟨lower, rfl, by rwa [List.append_nil]⟩
  | @cons path layer paths more hLayer _ ih =>
      have hOver := over_readFile h.ordinary tree path
      rw [hLayer] at hOver
      rcases hOver.exists_ok with ⟨next, hNext, hOver⟩
      rcases ih (h.snoc hOver) with ⟨ini, hIni, hStacks⟩
      rw [List.append_assoc] at hStacks
      refine ⟨ini, ?_, hStacks⟩
      rw [Ini.readFiles, hNext]
      exact hIni

/- What plain files say on top of each other is plain. -/
theorem plain
    (h : Stacks layers ini)
    (hPlain : ∀ layer ∈ layers, layer.Plain) : ini.Plain := by
  constructor
  case defaults =>
    intro option
    rw [h.lines, List.findSome?_eq_none_iff]
    intro layer hLayer
    exact (hPlain layer (List.mem_reverse.mp hLayer)).defaults
      option
  case values =>
    intro header option lines hLines
    rw [h.lines] at hLines
    rcases List.exists_of_findSome?_eq_some hLines with
      ⟨layer, hLayer, hOwn⟩
    exact (hPlain layer (List.mem_reverse.mp hLayer)).values
      header option lines hOwn

end Stacks

/- Files that can be read alone make a stack. -/
theorem stacks_readFiles
    {tree : FileTree}
    {paths : List String}
    {layers : List Ini}
    (hLayers :
      List.Forall₂
        (fun path layer =>
          empty.readFile tree path = .ok layer)
        paths layers) :
    ∃ ini, empty.readFiles tree paths = .ok ini ∧
      Stacks layers ini :=
  Stacks.nil.readFiles hLayers

end Ini

end Keyspaces

------------------------------------------------------------
-- Values of Keys
------------------------------------------------------------

namespace Keyspaces

namespace Ini

/-
  The value of an option of a section in the most important
  file that sets it.
-/
def stackedText?
    (layers : List Ini)
    (header option : String) : Option String :=
  layers.reverse.findSome? fun layer =>
    layer.text? header option

/-
  The value of a key once files are merged: that in the last
  of all sections with an option for which it is the key.
-/
def stacked?
    (layers : List Ini)
    (key : String) : Option String :=
  lastIn? (sectionNames layers) (stackedText? layers) key

/-
  The value of a key that the order of the files prescribes:
  that in the most important file which defines the key.
-/
def prescribed?
    (layers : List Ini)
    (key : String) : Option String :=
  layers.reverse.findSome? fun layer => layer.defined? key

variable {layers : List Ini}
variable {ini : Ini}
variable {key : String}

/- Of merged files the values are those of the stack. -/
theorem Stacks.text?_eq
    (h : Stacks layers ini)
    (header option : String) :
    ini.text? header option =
      stackedText? layers header option := by
  rw [text?, h.lines, List.map_findSome?]
  rfl

/- Merged files define what the stack has for a key. -/
theorem Stacks.defined?_eq
    (h : Stacks layers ini)
    (key : String) :
    ini.defined? key = stacked? layers key := by
  have hText : ini.text? = stackedText? layers := by
    funext header option
    exact h.text?_eq header option
  rw [defined?, stacked?, h.names, hText]

end Ini

end Keyspaces

------------------------------------------------------------
-- Overturned Keys
------------------------------------------------------------

namespace Keyspaces

namespace Ini

variable {layers : List Ini}
variable {key : String}

/-
  A key is overturned. The most important file that defines
  the key gives it some text. But the last of all sections of
  the merged files with an option for the key has another text
  there, which comes from a less important file, or from
  further up in the same one.
-/
inductive Overturned
    (layers : List Ini)
    (key : String) : Prop
| intro
    {below above : List Ini}
    {top : Ini}
    {text : String}
    {earlier later : List String}
    {header option other : String}
    (hLayers : layers = below ++ top :: above)
    (hAbove : ∀ layer ∈ above, layer.defined? key = none)
    (hTop : top.defined? key = some text)
    (hNames : sectionNames layers = earlier ++ header :: later)
    (hLater :
      ∀ name ∈ later, ∀ rest, key = name ++ "." ++ rest →
        stackedText? layers name rest = none)
    (hKey : key = header ++ "." ++ option)
    (hOther : stackedText? layers header option = some other)
    (hDiffers : other ≠ text)

/- A section has no text if it has none in any file. -/
theorem stackedText?_eq_none_iff
    (layers : List Ini)
    (header option : String) :
    stackedText? layers header option = none ↔
      ∀ layer ∈ layers, layer.text? header option = none := by
  rw [stackedText?, List.findSome?_eq_none_iff]
  simp only [List.mem_reverse]

/- No value is prescribed for keys that no file defines. -/
theorem prescribed?_eq_none_iff
    (layers : List Ini)
    (key : String) :
    prescribed? layers key = none ↔
      ∀ layer ∈ layers, layer.defined? key = none := by
  rw [prescribed?, List.findSome?_eq_none_iff]
  simp only [List.mem_reverse]

/- Merged files have no value for keys that no file defines. -/
theorem stacked?_eq_none_iff
    (hPlain : ∀ layer ∈ layers, layer.Plain)
    (key : String) :
    stacked? layers key = none ↔
      ∀ layer ∈ layers, layer.defined? key = none := by
  rw [stacked?, lastIn?_eq_none_iff]
  simp only [stackedText?_eq_none_iff]
  constructor
  · intro hNone layer hLayer
    rw [(hPlain layer hLayer).defined?_eq_none_iff]
    intro header option hKey
    by_contra hSet
    have hMember : header ∈ sectionNames layers := by
      rw [sectionNames, List.mem_eraseDups, List.mem_flatMap]
      exact
        ⟨layer, hLayer, (hPlain layer hLayer).mem_keys hSet⟩
    exact hSet (hNone header hMember option hKey layer hLayer)
  · intro hNone header _ option hKey layer hLayer
    exact
      ((hPlain layer hLayer).defined?_eq_none_iff key).mp
        (hNone layer hLayer) header option hKey

/-
  Merged files have the value for a key that the order of the
  files prescribes, unless the key is overturned.
-/
theorem stacked?_ne_prescribed?_iff
    (hPlain : ∀ layer ∈ layers, layer.Plain)
    (key : String) :
    stacked? layers key ≠ prescribed? layers key ↔
      Overturned layers key := by
  constructor
  · intro hDiffers
    have hNone :=
      (stacked?_eq_none_iff hPlain key).trans
        (prescribed?_eq_none_iff layers key).symm
    cases hPrescribed : prescribed? layers key with
    | none =>
        rw [hPrescribed, hNone.mpr hPrescribed] at hDiffers
        contradiction
    | some text =>
        cases hStacked : stacked? layers key with
        | none =>
            rw [hNone, hPrescribed] at hStacked
            contradiction
        | some other =>
            rcases
                (findSome?_reverse_eq_some_iff _ _ _).mp
                  hPrescribed with
              ⟨below, top, above, hLayers, hTop, hAbove⟩
            rcases
                (lastIn?_eq_some_iff _ _ _ _).mp hStacked with
              ⟨earlier, header, later, option, hNames, hKey,
                hOther, hLater⟩
            have hNot : other ≠ text := by
              rintro rfl
              exact hDiffers (hStacked.trans hPrescribed.symm)
            exact .intro hLayers hAbove hTop hNames hLater hKey
              hOther hNot
  · intro hOverturned
    cases hOverturned with
    | @intro below above top text earlier later header option
        other hLayers hAbove hTop hNames hLater hKey hOther
        hDiffers =>
        have hPrescribed :
            prescribed? layers key = some text :=
          (findSome?_reverse_eq_some_iff _ _ _).mpr
            ⟨below, top, above, hLayers, hTop, hAbove⟩
        have hStacked : stacked? layers key = some other :=
          (lastIn?_eq_some_iff _ _ _ _).mpr
            ⟨earlier, header, later, option, hNames, hKey,
              hOther, hLater⟩
        rw [hPrescribed, hStacked]
        intro hSame
        exact hDiffers (Option.some.inj hSame)

/-
  A key is not overturned if all files that define it do so in
  the same section.
-/
theorem stacked?_eq_prescribed?_of_unsplit
    (hPlain : ∀ layer ∈ layers, layer.Plain)
    {place : String}
    (hUnsplit :
      ∀ layer ∈ layers, ∀ header option,
        key = header ++ "." ++ option →
          layer.text? header option ≠ none →
            header = place) :
    stacked? layers key = prescribed? layers key := by
  by_contra hDiffers
  have hOverturned :=
    (stacked?_ne_prescribed?_iff hPlain key).mp hDiffers
  cases hOverturned with
  | @intro below above top text earlier later header option
      other hLayers hAbove hTop hNames hLater hKey hOther
      hDiffers =>
      rcases exists_of_defined?_eq_some hTop with
        ⟨topHeader, topOption, hTopKey, hTopText⟩
      have hTopMember : top ∈ layers := by
        rw [hLayers]
        simp
      have hTopHeader : topHeader = place :=
        hUnsplit top hTopMember topHeader topOption hTopKey
          (by simp [hTopText])
      have hHeader : header = place := by
        rcases List.exists_of_findSome?_eq_some hOther with
          ⟨layer, hLayer, hText⟩
        exact hUnsplit layer (List.mem_reverse.mp hLayer) header
          option hKey (by simp [hText])
      -- The same section has the same option for the key, so
      -- the most important file decides on it as well.
      have hOption : topOption = option := by
        rw [hTopHeader, ← hHeader, hKey] at hTopKey
        exact ((String.append_right_inj _).mp hTopKey).symm
      have hStackedText :
          stackedText? layers header option = some text := by
        rw [stackedText?, findSome?_reverse_eq_some_iff]
        refine ⟨below, top, above, hLayers, ?_, ?_⟩
        · rwa [hHeader, ← hTopHeader, ← hOption]
        · intro layer hLayer
          have hMember : layer ∈ layers := by
            rw [hLayers]
            simp [hLayer]
          exact
            ((hPlain layer hMember).defined?_eq_none_iff key).mp
              (hAbove layer hLayer) header option hKey
      rw [hOther] at hStackedText
      exact hDiffers (Option.some.inj hStackedText)

end Ini

end Keyspaces
