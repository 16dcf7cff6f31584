import Keyspaces.Declarations
import Keyspaces.Proofs.Outcome
import Keyspaces.Proofs.Reference
import Keyspaces.Proofs.Table
import Keyspaces.Proofs.Xml.Element

/-
  Which documents declare something, and what they declare:
  each resource in its place, with the attributes of its
  element before its parameters.

  Main declarations:
    * `Declarations.Accepted`
    * `Declarations.ofElement_eq_ok_iff`
    * `Declarations.get?_declared`
-/

------------------------------------------------------------
-- Resources
------------------------------------------------------------

namespace Keyspaces

namespace Declarations

/- The name of an element, which is empty without one. -/
def nameOf (element : Xml.Element) : String :=
  (element.attribute? "name").getD ""

/- An element has a name and a factory. -/
def IsResource (element : Xml.Element) : Prop :=
  filled? element "name" ≠ none ∧
    filled? element "factory" ≠ none

/- The reference of an element without parameters. -/
def ownReference (element : Xml.Element) : Reference :=
  referenceOf element ((element.attribute? "factory").getD "")

/- What is filled is there. -/
theorem attribute?_of_filled?
    {element : Xml.Element}
    {name value : String}
    (h : filled? element name = some value) :
    element.attribute? name = some value :=
  (Option.filter_eq_some_iff.mp h).1

/- A resource has a name. -/
theorem IsResource.attribute?_name
    {element : Xml.Element}
    (h : IsResource element) :
    element.attribute? "name" = some (nameOf element) := by
  rcases Option.ne_none_iff_exists'.mp h.1 with ⟨name, hName⟩
  rw [nameOf, attribute?_of_filled? hName]
  rfl

/- A resource has the factory of its element. -/
theorem IsResource.factory_ownReference
    {element : Xml.Element}
    (h : IsResource element) :
    (ownReference element).factory =
      element.attribute? "factory" := by
  rcases Option.ne_none_iff_exists'.mp h.2 with
    ⟨factory, hFactory⟩
  rw [ownReference, referenceOf,
    attribute?_of_filled? hFactory]
  rfl

/- A resource is declared if its name is not declared yet. -/
theorem declare_eq_ok_iff
    (declarations next : Declarations)
    (element : Xml.Element) :
    declare declarations element = .ok next ↔
      IsResource element ∧
        nameOf element ∉ declarations.keys ∧
          next =
            declarations.insert (nameOf element)
              (ownReference element) := by
  unfold declare IsResource nameOf ownReference
  cases hName : filled? element "name" with
  | none => simp
  | some name =>
      cases hFactory : filled? element "factory" with
      | none => simp
      | some factory =>
          rw [attribute?_of_filled? hName,
            attribute?_of_filled? hFactory]
          simp only [Option.getD_some, ne_eq, reduceCtorEq,
            not_false_eq_true, and_self, true_and,
            ← Table.contains_iff_mem_keys]
          by_cases hKnown :
              declarations.contains name = true
          · simp [hKnown]
          · simp [hKnown, eq_comm]

/- Resources are declared in order if their names differ. -/
theorem foldlM_declare_eq_ok_iff
    (elements : List Xml.Element)
    (declarations next : Declarations) :
    elements.foldlM declare declarations = .ok next ↔
      (∀ element ∈ elements, IsResource element) ∧
        (declarations.keys ++ elements.map nameOf).Nodup ∧
          next.entries =
            declarations.entries ++
              elements.map fun element =>
                (nameOf element, ownReference element) := by
  induction elements generalizing declarations with
  | nil =>
      have hNodup := declarations.nodup_keys
      simp only [List.foldlM_nil, pure, Except.pure,
        Except.ok.injEq, List.map_nil, List.append_nil,
        List.not_mem_nil, false_implies, implies_true,
        hNodup, true_and]
      constructor
      · rintro rfl
        rfl
      · intro h
        exact (Table.eq_of_entries h).symm
  | cons element elements ih =>
      rw [List.foldlM_cons, Outcome.bind_eq_ok_iff]
      simp only [declare_eq_ok_iff, ih, List.map_cons,
        List.forall_mem_cons]
      constructor
      · rintro ⟨first, ⟨hResource, hNew, rfl⟩, hRest,
          hNodup, hEntries⟩
        rw [Table.keys] at hNodup
        rw [Table.entries_insert_of_not_mem _ _ hNew]
          at hNodup hEntries
        simp only [List.map_append, List.map_cons,
          List.map_nil, List.append_assoc,
          List.singleton_append] at hNodup hEntries
        exact ⟨⟨hResource, hRest⟩, hNodup, hEntries⟩
      · rintro ⟨⟨hResource, hRest⟩, hNodup, hEntries⟩
        have hNew : nameOf element ∉ declarations.keys := by
          intro hMember
          rw [List.nodup_append] at hNodup
          exact
            hNodup.2.2 _ hMember _ List.mem_cons_self rfl
        refine ⟨_, ⟨hResource, hNew, rfl⟩, hRest, ?_⟩
        rw [Table.keys,
          Table.entries_insert_of_not_mem _ _ hNew]
        simp only [List.map_append, List.map_cons,
          List.map_nil, List.append_assoc,
          List.singleton_append]
        exact ⟨hNodup, hEntries⟩

end Declarations

end Keyspaces

------------------------------------------------------------
-- Parameters
------------------------------------------------------------

namespace Keyspaces

/- A reference with more attributes behind its own. -/
def Reference.extend
    (reference : Reference)
    (entries : List (String × Value)) : Reference :=
  { reference with
    attributes := reference.attributes ++ entries }

namespace Declarations

/- A parameter has a name that is not empty. -/
def IsParameter (parameter : Xml.Element) : Prop :=
  (parameter.childText? "name").filter
      (fun name => !name.isEmpty) ≠ none

/- The trimmed name of a parameter. -/
def keyOf (parameter : Xml.Element) : String :=
  Text.trim ((parameter.childText? "name").getD "")

/- The value of a parameter. -/
def contentOf (parameter : Xml.Element) : Value :=
  ((parameter.childText? "value").map Value.text).getD .null

/- What a parameter adds to a reference. -/
def entryOf (parameter : Xml.Element) : String × Value :=
  (keyOf parameter, contentOf parameter)

/- A parameter is added behind the attributes. -/
theorem addParameter_eq_ok_iff
    (name : String)
    (reference next : Reference)
    (parameter : Xml.Element) :
    addParameter name reference parameter = .ok next ↔
      IsParameter parameter ∧
        next = reference.extend [entryOf parameter] := by
  unfold addParameter IsParameter entryOf keyOf contentOf
  cases hName :
      (parameter.childText? "name").filter
        fun name => !name.isEmpty with
  | none => simp
  | some key =>
      rw [(Option.filter_eq_some_iff.mp hName).1]
      simp [Reference.append, Reference.extend, eq_comm]

/- Parameters are added in order. -/
theorem foldlM_addParameter_eq_ok_iff
    (name : String)
    (reference next : Reference)
    (parameters : List Xml.Element) :
    parameters.foldlM (addParameter name) reference =
        .ok next ↔
      (∀ parameter ∈ parameters, IsParameter parameter) ∧
        next = reference.extend (parameters.map entryOf) := by
  induction parameters generalizing reference with
  | nil =>
      simp [Reference.extend, pure, Except.pure, eq_comm]
  | cons parameter parameters ih =>
      rw [List.foldlM_cons, Outcome.bind_eq_ok_iff]
      simp [addParameter_eq_ok_iff, ih, Reference.extend,
        and_assoc]

/- A block is one of the resource with a name. -/
def namesResource
    (name : String)
    (block : Xml.Element) : Bool :=
  block.attribute? "name" == some name

/- The parameters that blocks have for a name, in order. -/
def givenBy
    (name : String)
    (blocks : List Xml.Element) : List Xml.Element :=
  (blocks.filter (namesResource name)).flatMap
    fun block => block.named parameterTag

/- The blocks add their parameters to each reference. -/
def withParameters
    (declarations : Declarations)
    (blocks : List Xml.Element) : Declarations where
  entries :=
    declarations.entries.map fun entry =>
      (entry.1,
        entry.2.extend ((givenBy entry.1 blocks).map entryOf))
  distinct := by
    rw [Entries.distinct_iff_map_fst, List.map_map]
    exact
      (Entries.distinct_iff_map_fst _).mp
        declarations.distinct

theorem entries_withParameters
    (declarations : Declarations)
    (blocks : List Xml.Element) :
    (declarations.withParameters blocks).entries =
      declarations.entries.map fun entry =>
        (entry.1,
          entry.2.extend
            ((givenBy entry.1 blocks).map entryOf)) :=
  rfl

/- Adding parameters declares nothing. -/
theorem keys_withParameters
    (declarations : Declarations)
    (blocks : List Xml.Element) :
    (declarations.withParameters blocks).keys =
      declarations.keys := by
  rw [Table.keys, withParameters, List.map_map]
  rfl

theorem withParameters_nil (declarations : Declarations) :
    declarations.withParameters [] = declarations := by
  apply Table.eq_of_entries
  simp [withParameters, givenBy, Reference.extend]

/- Blocks in a row add their parameters in this order. -/
theorem withParameters_cons
    (declarations : Declarations)
    (block : Xml.Element)
    (blocks : List Xml.Element) :
    declarations.withParameters (block :: blocks) =
      (declarations.withParameters [block]).withParameters
        blocks := by
  apply Table.eq_of_entries
  simp only [withParameters, List.map_map]
  apply List.map_congr_left
  intro entry _
  simp only [Function.comp_apply, Reference.extend, givenBy,
    List.append_assoc, ← List.map_append,
    ← List.flatMap_append, ← List.filter_append,
    List.singleton_append]

/- A block can be added if its resource is declared. -/
def IsBlock
    (declarations : Declarations)
    (block : Xml.Element) : Prop :=
  (∃ name ∈ declarations.keys,
      block.attribute? "name" = some name) ∧
    ∀ parameter ∈ block.named parameterTag,
      IsParameter parameter

/- A block adds its parameters to a declared reference. -/
theorem addParameters_eq_ok_iff
    (declarations next : Declarations)
    (block : Xml.Element) :
    addParameters declarations block = .ok next ↔
      IsBlock declarations block ∧
        next = declarations.withParameters [block] := by
  unfold addParameters IsBlock
  cases hName : block.attribute? "name" with
  | none => simp
  | some name =>
      dsimp only [Option.bind_some]
      cases hReference : declarations.get? name with
      | none =>
          have hUnknown : name ∉ declarations.keys := by
            rw [← Table.get?_ne_none_iff, hReference]
            simp
          simp [hUnknown]
      | some reference =>
          have hKnown : name ∈ declarations.keys := by
            rw [← Table.get?_ne_none_iff, hReference]
            simp
          have hAdded :
              declarations.insert name
                  (reference.extend
                    ((block.named parameterTag).map
                      entryOf)) =
                declarations.withParameters [block] := by
            apply Table.eq_of_entries
            rw [Table.entries_insert_of_get? _
              (fun old =>
                old.extend
                  ((block.named parameterTag).map entryOf))
              hReference]
            apply List.map_congr_left
            intro entry _
            by_cases hEntry : entry.1 = name
            · simp [givenBy, namesResource, hName, hEntry]
            · have hOther : name ≠ entry.1 := Ne.symm hEntry
              simp [givenBy, namesResource, hName, hEntry,
                hOther, Reference.extend]
          dsimp only [Option.map_some]
          rw [Outcome.map_eq_ok_iff, ← hAdded]
          simp only [foldlM_addParameter_eq_ok_iff,
            Option.some.injEq, exists_eq_right', hKnown,
            true_and]
          constructor
          · rintro ⟨changed, ⟨hParameters, rfl⟩, rfl⟩
            exact ⟨hParameters, rfl⟩
          · rintro ⟨hParameters, rfl⟩
            exact ⟨_, ⟨hParameters, rfl⟩, rfl⟩

/- Blocks add their parameters in order. -/
theorem foldlM_addParameters_eq_ok_iff
    (blocks : List Xml.Element)
    (declarations next : Declarations) :
    blocks.foldlM addParameters declarations = .ok next ↔
      (∀ block ∈ blocks, IsBlock declarations block) ∧
        next = declarations.withParameters blocks := by
  induction blocks generalizing declarations with
  | nil =>
      simp [withParameters_nil, pure, Except.pure, eq_comm]
  | cons block blocks ih =>
      have hBlock : ∀ other,
          IsBlock (declarations.withParameters [block]) other ↔
            IsBlock declarations other := by
        intro other
        rw [IsBlock, keys_withParameters]
        rfl
      rw [List.foldlM_cons, Outcome.bind_eq_ok_iff,
        withParameters_cons]
      simp only [addParameters_eq_ok_iff, ih,
        List.forall_mem_cons]
      constructor
      · rintro ⟨first, ⟨hFirst, rfl⟩, hRest, hNext⟩
        simp only [hBlock] at hRest
        exact ⟨⟨hFirst, hRest⟩, hNext⟩
      · rintro ⟨⟨hFirst, hRest⟩, hNext⟩
        refine ⟨_, ⟨hFirst, rfl⟩, ?_, hNext⟩
        simpa only [hBlock] using hRest

end Declarations

end Keyspaces

------------------------------------------------------------
-- Documents
------------------------------------------------------------

namespace Keyspaces

namespace Declarations

/-
  A document is accepted if its resources have different names
  and factories, and its blocks are of these resources and
  their parameters have names.
-/
structure Accepted (root : Xml.Element) : Prop where
  resource :
    ∀ element ∈ root.named resourceTag, IsResource element
  distinct :
    ((root.named resourceTag).map nameOf).Nodup
  block :
    ∀ block ∈ root.named parametersTag,
      ∃ element ∈ root.named resourceTag,
        block.attribute? "name" = some (nameOf element)
  parameter :
    ∀ block ∈ root.named parametersTag,
      ∀ parameter ∈ block.named parameterTag,
        IsParameter parameter

/- What an element declares, with its parameters. -/
def declaredBy
    (root element : Xml.Element) : String × Reference :=
  (nameOf element,
    (ownReference element).extend
      ((givenBy (nameOf element)
        (root.named parametersTag)).map entryOf))

/- Accepted documents declare each resource in its place. -/
theorem ofElement_eq_ok_iff
    (root : Xml.Element)
    (declarations : Declarations) :
    ofElement root = .ok declarations ↔
      Accepted root ∧
        declarations.entries =
          (root.named resourceTag).map (declaredBy root) := by
  rw [ofElement, Outcome.bind_eq_ok_iff]
  simp only [foldlM_declare_eq_ok_iff,
    foldlM_addParameters_eq_ok_iff]
  have hOwnKeys :
      ((root.named resourceTag).map fun element =>
          (nameOf element, ownReference element)).map
            Prod.fst =
        (root.named resourceTag).map nameOf := by
    rw [List.map_map]
    rfl
  constructor
  · rintro ⟨declared, ⟨hResources, hNodup, hDeclared⟩,
      hBlocks, rfl⟩
    have hEntries :
        declared.entries =
          (root.named resourceTag).map fun element =>
            (nameOf element, ownReference element) :=
      hDeclared
    have hKeys :
        declared.keys =
          (root.named resourceTag).map nameOf := by
      rw [Table.keys, hEntries, hOwnKeys]
    constructor
    · constructor
      case resource => exact hResources
      case distinct => exact hNodup
      case block =>
        intro block hBlock
        rcases (hBlocks block hBlock).1 with
          ⟨name, hName, hAttribute⟩
        rw [hKeys, List.mem_map] at hName
        rcases hName with ⟨element, hElement, rfl⟩
        exact ⟨element, hElement, hAttribute⟩
      case parameter =>
        intro block hBlock
        exact (hBlocks block hBlock).2
    · rw [entries_withParameters, hEntries, List.map_map]
      rfl
  · rintro ⟨hAccepted, hEntries⟩
    let declared : Declarations :=
      { entries :=
          (root.named resourceTag).map fun element =>
            (nameOf element, ownReference element)
        distinct := by
          rw [Entries.distinct_iff_nodup, hOwnKeys]
          exact hAccepted.distinct }
    have hKeys :
        declared.keys =
          (root.named resourceTag).map nameOf :=
      hOwnKeys
    refine
      ⟨declared,
        ⟨hAccepted.resource, hAccepted.distinct, rfl⟩, ?_, ?_⟩
    · intro block hBlock
      rcases hAccepted.block block hBlock with
        ⟨element, hElement, hName⟩
      refine
        ⟨⟨nameOf element, ?_, hName⟩,
          hAccepted.parameter block hBlock⟩
      rw [hKeys]
      exact List.mem_map_of_mem hElement
    · apply Table.eq_of_entries
      rw [hEntries, entries_withParameters, List.map_map]
      rfl

/- What an accepted document declares has different names. -/
theorem Accepted.distinct_declaredBy
    {root : Xml.Element}
    (h : Accepted root) :
    Entries.Distinct
      ((root.named resourceTag).map (declaredBy root)) := by
  rw [Entries.distinct_iff_nodup, List.map_map]
  exact h.distinct

/- An accepted document declares something. -/
theorem Accepted.exists_ofElement
    {root : Xml.Element}
    (h : Accepted root) :
    ∃ declarations, ofElement root = .ok declarations :=
  ⟨⟨_, h.distinct_declaredBy⟩,
    (ofElement_eq_ok_iff root _).mpr ⟨h, rfl⟩⟩

variable {root : Xml.Element}
variable {declarations : Declarations}

/- The names are those of the resources in order. -/
theorem keys_ofElement
    (h : ofElement root = .ok declarations) :
    declarations.keys =
      (root.named resourceTag).map nameOf := by
  rw [Table.keys, ((ofElement_eq_ok_iff _ _).mp h).2,
    List.map_map]
  rfl

/- What a resource declares is found under its name. -/
theorem get?_ofElement
    (h : ofElement root = .ok declarations)
    {element : Xml.Element}
    (hElement : element ∈ root.named resourceTag) :
    declarations.get? (nameOf element) =
      some (declaredBy root element).2 := by
  rw [← Table.mem_entries_iff,
    ((ofElement_eq_ok_iff _ _).mp h).2]
  exact List.mem_map_of_mem hElement

/- What is found is declared by a resource. -/
theorem exists_of_get?_ofElement
    (h : ofElement root = .ok declarations)
    {name : String}
    {reference : Reference}
    (hFound : declarations.get? name = some reference) :
    ∃ element ∈ root.named resourceTag,
      declaredBy root element = (name, reference) := by
  rw [← Table.mem_entries_iff,
    ((ofElement_eq_ok_iff _ _).mp h).2] at hFound
  exact List.mem_map.mp hFound

end Declarations

end Keyspaces

------------------------------------------------------------
-- What Is Found
------------------------------------------------------------

namespace Keyspaces

namespace Declarations

/- An element is a block of the resource with a name. -/
def isBlockOf
    (name : String)
    (element : Xml.Element) : Bool :=
  element.tag == parametersTag && namesResource name element

/-
  The parameters in the blocks of a resource, each once and in
  document order.
-/
def parametersOf
    (root : Xml.Element)
    (name : String) : List Xml.Element :=
  root.within (isBlockOf name) parameterTag false

/- The value of an attribute of the element of a resource. -/
def ownContent?
    (element : Xml.Element)
    (key : String) : Option Value :=
  if key ∈ reservedNames then none
  else (element.attribute? key).map .text

/-
  What a resource is said to have under a key: the attribute
  of its element, or else the value of its first parameter
  with this name.
-/
def content?
    (root element : Xml.Element)
    (key : String) : Option Value :=
  (ownContent? element key).or
    (((parametersOf root (nameOf element)).find? fun parameter =>
      keyOf parameter == key).map contentOf)

/- Parameters in nested blocks do not come first again. -/
theorem find?_givenBy
    (root : Xml.Element)
    (name : String)
    (fits : Xml.Element → Bool) :
    (givenBy name (root.named parametersTag)).find? fits =
      (parametersOf root name).find? fits := by
  have hCollected :
      givenBy name (root.named parametersTag) =
        Xml.Element.collected (isBlockOf name) parameterTag
          [root] := by
    rw [givenBy, Xml.Element.named_eq_namedIn,
      Xml.Element.namedIn, List.filter_filter]
    unfold Xml.Element.collected isBlockOf
    simp only [Bool.and_comm]
  rw [hCollected, Xml.Element.find?_collected, parametersOf,
    Xml.Element.withinAll, Xml.Element.withinAll,
    List.append_nil]

/- The attributes of an element are those not reserved. -/
theorem find?_ownAttributes
    (element : Xml.Element)
    (key : String) :
    (ownAttributes element).find? (fun entry => entry.1 == key) =
      (ownContent? element key).map (Prod.mk key) := by
  rcases element with ⟨tag, attributes, text, children⟩
  unfold ownAttributes ownContent? Xml.Element.attribute?
    Xml.Element.attributes
  dsimp only
  induction attributes with
  | nil => simp
  | cons entry entries ih =>
      rcases entry with ⟨name, value⟩
      by_cases hKey : name = key
      · subst name
        by_cases hReserved : key ∈ reservedNames
        · simpa [hReserved] using ih
        · simp [hReserved]
      · have hOther : (key == name) = false := by
          simpa using Ne.symm hKey
        by_cases hReserved : name ∈ reservedNames
        · simpa [hReserved, List.lookup_cons, hOther] using ih
        · simpa [hReserved, List.lookup_cons, hKey, hOther]
            using ih

/- A declared reference has what its resource is said to. -/
theorem get?_declaredBy
    (root element : Xml.Element)
    (key : String) :
    (declaredBy root element).2.get? key =
      (content? root element key).map (Prod.mk key) := by
  have hGiven :
      (((givenBy (nameOf element)
          (root.named parametersTag)).map entryOf).find?
            fun entry => entry.1 == key) =
        (((parametersOf root (nameOf element)).find?
          fun parameter => keyOf parameter == key).map
            contentOf).map (Prod.mk key) := by
    rw [List.find?_map, find?_givenBy, Option.map_map]
    change
      Option.map entryOf
          (List.find? (fun parameter => keyOf parameter == key)
            _) = _
    cases hFirst :
        (parametersOf root (nameOf element)).find? fun parameter =>
          keyOf parameter == key with
    | none => rfl
    | some parameter =>
        have hKey := List.find?_some hFirst
        rw [beq_iff_eq] at hKey
        simp [entryOf, hKey]
  have hAttributes :
      (declaredBy root element).2.attributes =
        ownAttributes element ++
          (givenBy (nameOf element)
            (root.named parametersTag)).map entryOf :=
    rfl
  rw [Reference.get?, hAttributes, List.find?_append,
    find?_ownAttributes, hGiven, content?, Option.map_or]

end Declarations

end Keyspaces
