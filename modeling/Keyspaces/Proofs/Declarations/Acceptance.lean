import Keyspaces.Proofs.Declarations.Meaning
import Keyspaces.Proofs.Text.Strip

/-
  Which documents are accepted: the well-formed ones, and some
  in which the name of a parameter is blank. All others are
  refused as faults in the configuration.

  Main declarations:
    * `Declarations.WellFormed`
    * `Declarations.failsAs_ofElement`
    * `Declarations.IsExact`
    * `Declarations.judged_ofElement`
-/

------------------------------------------------------------
-- Refusals
------------------------------------------------------------

namespace Keyspaces

namespace Declarations

open Outcome

/- A resource is refused for what its element says. -/
theorem failsAs_declare
    (declarations : Declarations)
    (element : Xml.Element) :
    FailsAs (· = .configuration)
      (declare declarations element) := by
  unfold declare
  split
  case h_1 => exact .error rfl
  case h_2 => exact .error rfl
  case h_3 =>
    split
    case isTrue => exact .error rfl
    case isFalse => exact .ok _

/- A parameter is refused for the lack of a name. -/
theorem failsAs_addParameter
    (name : String)
    (reference : Reference)
    (parameter : Xml.Element) :
    FailsAs (· = .configuration)
      (addParameter name reference parameter) := by
  unfold addParameter
  split
  case h_1 => exact .error rfl
  case h_2 => exact .ok _

/- A block is refused for its name or one of its parameters. -/
theorem failsAs_addParameters
    (declarations : Declarations)
    (block : Xml.Element) :
    FailsAs (· = .configuration)
      (addParameters declarations block) := by
  unfold addParameters
  dsimp only
  split
  case h_1 => exact .error rfl
  case h_2 name reference _ =>
    apply FailsAs.map
    exact .foldlM (failsAs_addParameter name) _ reference

/- A document is refused for what it says. -/
theorem failsAs_ofElement (root : Xml.Element) :
    FailsAs (· = .configuration) (ofElement root) := by
  apply FailsAs.bind (.foldlM failsAs_declare _ _)
  intro declared _
  exact .foldlM failsAs_addParameters _ declared

end Declarations

end Keyspaces

------------------------------------------------------------
-- Well-Formed Documents
------------------------------------------------------------

namespace Keyspaces

namespace Declarations

/- An attribute of an element is there and is not empty. -/
def HasFilled
    (element : Xml.Element)
    (name : String) : Prop :=
  ∃ value, element.attribute? name = some value ∧ value ≠ ""

/- A parameter has a name that is more than blanks. -/
def IsNamed (parameter : Xml.Element) : Prop :=
  ∃ name,
    parameter.childText? "name" = some name ∧
      Text.trim name ≠ ""

/-
  A document is well formed if its resources have names and
  factories, no two of them have one name, each block is one
  of a resource, and each parameter in a block has a name.
-/
structure WellFormed (root : Xml.Element) : Prop where
  name :
    ∀ element ∈ root.named resourceTag,
      HasFilled element "name"
  factory :
    ∀ element ∈ root.named resourceTag,
      HasFilled element "factory"
  distinct :
    ((root.named resourceTag).map (·.attribute? "name")).Nodup
  block :
    ∀ block ∈ root.named parametersTag,
      ∃ element ∈ root.named resourceTag,
        ∃ name,
          element.attribute? "name" = some name ∧
            block.attribute? "name" = some name
  parameter :
    ∀ block ∈ root.named parametersTag,
      ∀ parameter ∈ block.named parameterTag,
        IsNamed parameter

/- The name of a parameter is there, but all of it is blank. -/
def IsBlankNamed (parameter : Xml.Element) : Prop :=
  ∃ name,
    parameter.childText? "name" = some name ∧ name ≠ "" ∧
      Text.trim name = ""

/- Some parameter in a block has a blank name. -/
def HasBlankName (root : Xml.Element) : Prop :=
  ∃ block ∈ root.named parametersTag,
    ∃ parameter ∈ block.named parameterTag,
      IsBlankNamed parameter

/- A text that is not empty is left when empty ones are not. -/
theorem filter_isEmpty_ne_none_iff (text : Option String) :
    text.filter (fun value => !value.isEmpty) ≠ none ↔
      ∃ value, text = some value ∧ value ≠ "" := by
  cases text with
  | none => simp
  | some value => simp [Option.filter]

theorem isResource_iff (element : Xml.Element) :
    IsResource element ↔
      HasFilled element "name" ∧
        HasFilled element "factory" := by
  rw [IsResource, filled?, filled?,
    filter_isEmpty_ne_none_iff, filter_isEmpty_ne_none_iff]
  rfl

/- A parameter has a name, unless all of it is blank. -/
theorem isNamed_iff (parameter : Xml.Element) :
    IsNamed parameter ↔
      IsParameter parameter ∧ ¬ IsBlankNamed parameter := by
  rw [IsParameter, filter_isEmpty_ne_none_iff]
  constructor
  · rintro ⟨name, hName, hFilled⟩
    refine ⟨⟨name, hName, ?_⟩, ?_⟩
    · rintro rfl
      exact hFilled rfl
    · rintro ⟨other, hOther, _, hBlank⟩
      rw [hName] at hOther
      cases hOther
      exact hFilled hBlank
  · rintro ⟨⟨name, hName, hSome⟩, hNot⟩
    refine ⟨name, hName, ?_⟩
    intro hBlank
    exact hNot ⟨name, hName, hSome, hBlank⟩

/- The names of resources differ as their attributes do. -/
theorem nodup_nameOf_iff
    {elements : List Xml.Element}
    (hResources :
      ∀ element ∈ elements, IsResource element) :
    (elements.map nameOf).Nodup ↔
      (elements.map (·.attribute? "name")).Nodup := by
  have hNames :
      elements.map (·.attribute? "name") =
        (elements.map nameOf).map some := by
    rw [List.map_map]
    apply List.map_congr_left
    intro element hElement
    exact (hResources element hElement).attribute?_name
  rw [hNames]
  exact (List.nodup_map_iff fun _ _ => Option.some.inj).symm

/- Accepted documents are well formed but for blank names. -/
theorem wellFormed_iff (root : Xml.Element) :
    WellFormed root ↔
      Accepted root ∧ ¬ HasBlankName root := by
  constructor
  · intro h
    have hResource :
        ∀ element ∈ root.named resourceTag,
          IsResource element := by
      intro element hElement
      exact
        (isResource_iff element).mpr
          ⟨h.name element hElement, h.factory element hElement⟩
    constructor
    · constructor
      case resource => exact hResource
      case distinct =>
        exact (nodup_nameOf_iff hResource).mpr h.distinct
      case block =>
        intro block hBlock
        obtain ⟨element, hElement, name, hName, hSame⟩ :=
          h.block block hBlock
        refine ⟨element, hElement, ?_⟩
        rw [hSame, nameOf, hName]
        rfl
      case parameter =>
        intro block hBlock parameter hParameter
        have hNamed :=
          h.parameter block hBlock parameter hParameter
        exact ((isNamed_iff parameter).mp hNamed).1
    · rintro ⟨block, hBlock, parameter, hParameter, hBlank⟩
      have hNamed :=
        h.parameter block hBlock parameter hParameter
      exact ((isNamed_iff parameter).mp hNamed).2 hBlank
  · rintro ⟨hAccepted, hNone⟩
    constructor
    case name =>
      intro element hElement
      exact
        ((isResource_iff element).mp
          (hAccepted.resource element hElement)).1
    case factory =>
      intro element hElement
      exact
        ((isResource_iff element).mp
          (hAccepted.resource element hElement)).2
    case distinct =>
      exact
        (nodup_nameOf_iff hAccepted.resource).mp
          hAccepted.distinct
    case block =>
      intro block hBlock
      obtain ⟨element, hElement, hName⟩ :=
        hAccepted.block block hBlock
      have hOwn :=
        (hAccepted.resource element hElement).attribute?_name
      exact ⟨element, hElement, _, hOwn, hName⟩
    case parameter =>
      intro block hBlock parameter hParameter
      refine (isNamed_iff parameter).mpr ⟨?_, ?_⟩
      · exact
          hAccepted.parameter block hBlock parameter hParameter
      · intro hBlank
        exact
          hNone ⟨block, hBlock, parameter, hParameter, hBlank⟩

end Declarations

end Keyspaces

------------------------------------------------------------
-- Exactness
------------------------------------------------------------

namespace Keyspaces

namespace Declarations

variable {root : Xml.Element}

/- A document is accepted in the sense of its elements. -/
theorem exists_ofElement_iff (root : Xml.Element) :
    (∃ declarations, ofElement root = .ok declarations) ↔
      Accepted root := by
  constructor
  · rintro ⟨declarations, hDeclared⟩
    exact ((ofElement_eq_ok_iff _ _).mp hDeclared).1
  · exact Accepted.exists_ofElement

/- What is not accepted is a fault in the configuration. -/
theorem exists_error_of_not_accepted
    (hNot : ¬ Accepted root) :
    ∃ failure,
      ofElement root = .error failure ∧
        failure.kind = .configuration := by
  cases hRoot : ofElement root with
  | ok declarations =>
      exact
        absurd
          ((exists_ofElement_iff root).mp ⟨_, hRoot⟩) hNot
  | error failure =>
      exact ⟨failure, rfl, failsAs_ofElement root _ hRoot⟩

/-
  The attributes that blocks add to the references: their
  names are trimmed and satisfy a condition.
-/
def Adds
    (condition : String → Prop)
    (root : Xml.Element)
    (declarations : Declarations) : Prop :=
  ∀ element ∈ root.named resourceTag,
    ∃ entries,
      declarations.get? (nameOf element) =
          some ((ownReference element).extend entries) ∧
        ∀ entry ∈ entries,
          Text.trim entry.1 = entry.1 ∧ condition entry.1

/- The names of parameters are what blocks add. -/
theorem adds_of_ofElement
    {condition : String → Prop}
    {declarations : Declarations}
    (h : ofElement root = .ok declarations)
    (hKeys :
      ∀ block ∈ root.named parametersTag,
        ∀ parameter ∈ block.named parameterTag,
          condition (keyOf parameter)) :
    Adds condition root declarations := by
  intro element hElement
  refine ⟨_, get?_ofElement h hElement, ?_⟩
  intro entry hEntry
  obtain ⟨parameter, hParameter, rfl⟩ :=
    List.mem_map.mp hEntry
  obtain ⟨block, hBlock, hMember⟩ :=
    List.mem_flatMap.mp hParameter
  have hFound := (List.mem_filter.mp hBlock).1
  exact
    ⟨Text.trim_trim _, hKeys block hFound parameter hMember⟩

/-
  A document is treated exactly: it is accepted if it is well
  formed, refused as a fault in the configuration otherwise,
  and its blocks add attributes with trimmed names that are
  not empty.
-/
structure IsExact (root : Xml.Element) : Prop where
  accepted :
    (∃ declarations, ofElement root = .ok declarations) ↔
      WellFormed root
  refused :
    ¬ WellFormed root →
      ∃ failure,
        ofElement root = .error failure ∧
          failure.kind = .configuration
  added :
    ∀ declarations,
      ofElement root = .ok declarations →
        Adds (· ≠ "") root declarations

/-
  A document departs if it satisfies the conditions under
  which documents are accepted, but the name of a parameter in
  it is blank.
-/
def Departs (root : Xml.Element) : Prop :=
  Accepted root ∧ HasBlankName root

/- A document is treated exactly unless it departs. -/
theorem isExact_iff_not_departs (root : Xml.Element) :
    IsExact root ↔ ¬ Departs root := by
  constructor
  · rintro hExact ⟨hAccepted, hBlank⟩
    have hWellFormed :=
      hExact.accepted.mp hAccepted.exists_ofElement
    exact ((wellFormed_iff root).mp hWellFormed).2 hBlank
  · intro hNot
    have hSame : Accepted root ↔ WellFormed root := by
      rw [wellFormed_iff]
      constructor
      · intro hAccepted
        exact ⟨hAccepted, fun hBlank => hNot ⟨hAccepted, hBlank⟩⟩
      · exact And.left
    constructor
    case accepted => rw [exists_ofElement_iff, hSame]
    case refused =>
      rw [← hSame]
      exact exists_error_of_not_accepted
    case added =>
      intro declarations hDeclared
      have hAccepted :=
        (exists_ofElement_iff root).mp ⟨_, hDeclared⟩
      apply adds_of_ofElement hDeclared
      intro block hBlock parameter hParameter
      obtain ⟨name, hName, hFilled⟩ :=
        (hSame.mp hAccepted).parameter block hBlock parameter
          hParameter
      rwa [keyOf, hName]

/-
  What becomes of a document. It is accepted if it is well
  formed but for blank names, and refused as a fault in the
  configuration otherwise. The names that blocks add are
  trimmed. It is treated exactly unless it departs.
-/
structure Judged (root : Xml.Element) : Prop where
  accepted :
    (∃ declarations, ofElement root = .ok declarations) ↔
      WellFormed root ∨ Departs root
  refused :
    ¬ (WellFormed root ∨ Departs root) →
      ∃ failure,
        ofElement root = .error failure ∧
          failure.kind = .configuration
  added :
    ∀ declarations,
      ofElement root = .ok declarations →
        Adds (fun _ => True) root declarations
  exact_iff : IsExact root ↔ ¬ Departs root

/- This becomes of every document. -/
theorem judged_ofElement (root : Xml.Element) :
    Judged root := by
  have hEither :
      Accepted root ↔ WellFormed root ∨ Departs root := by
    rw [wellFormed_iff, Departs]
    tauto
  constructor
  case accepted => rw [exists_ofElement_iff, hEither]
  case refused =>
    rw [← hEither]
    exact exists_error_of_not_accepted
  case added =>
    intro declarations hDeclared
    exact adds_of_ofElement hDeclared fun _ _ _ _ => trivial
  case exact_iff => exact isExact_iff_not_departs root

namespace Sample

/- A parameter whose name is a single blank. -/
def blankNamed : Xml.Element :=
  .node "Context" [] ""
    [.node resourceTag [("name", "r"), ("factory", "f")] "" [],
      .node parametersTag [("name", "r")] ""
        [.node parameterTag [] "" [.node "name" [] " " []]]]

end Sample

/- A parameter with a blank name is accepted. -/
theorem not_isExact_blankName :
    ¬ IsExact Sample.blankNamed := by
  rw [isExact_iff_not_departs, not_not]
  constructor
  · exact (exists_ofElement_iff _).mp ⟨_, rfl⟩
  · exact
      ⟨_, List.mem_cons_self, _, List.mem_cons_self, " ", rfl,
        by decide, by decide⟩

end Declarations

end Keyspaces
