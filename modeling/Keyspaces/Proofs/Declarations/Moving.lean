import Keyspaces.Proofs.Declarations.Meaning
import Keyspaces.Resource

/-
  Attributes of a resource may be moved from its element to
  parameters in blocks of the resource, wherever these are put
  in the document. What is read of its reference is the same.

  Main declarations:
    * `Declarations.Moves`
    * `Declarations.Means`
    * `Declarations.means_ofElement`
-/

------------------------------------------------------------
-- What Is Read of a Reference
------------------------------------------------------------

namespace Keyspaces

namespace Resource

variable {reference other : Reference}

/- Rows are read from what is found. -/
theorem readRows_congr
    (h : ∀ name, reference.content? name = other.content? name)
    (rows : List Row) :
    readRows reference rows = readRows other rows := by
  induction rows with
  | nil => rfl
  | cons row rows ih =>
      simp only [readRows, readRow, h, ih]

/- References in which the same is found are read alike. -/
theorem ofReference_congr
    (h : ∀ key, reference.get? key = other.get? key)
    (conf : Config) :
    ofReference conf reference = ofReference conf other := by
  have hContent : ∀ name,
      reference.content? name = other.content? name := by
    intro name
    rw [Reference.content?, h name]
    rfl
  have hRows := readRows_congr hContent
  have hRequired : ∀ name,
      required reference name = required other name := by
    intro name
    simp only [required, trimmedContent, hContent]
  have hRow : ∀ row,
      readRow reference row = readRow other row := by
    intro row
    rw [readRow, hContent]
    rfl
  have hOptions : optionsOf reference = optionsOf other := by
    simp only [optionsOf, readGated, readRetry, hRows, hRow]
  simp only [ofReference, hRequired, hOptions]

end Resource

end Keyspaces

------------------------------------------------------------
-- Lists with Additions
------------------------------------------------------------

namespace Keyspaces

/-
  A list is another one in which items became others that are
  related to them, and to which new items were added.
-/
inductive Merged {α : Type}
    (New : α → Prop)
    (Kept : α → α → Prop) : List α → List α → Prop
| nil : Merged New Kept [] []
| keep
    {first second : α}
    {before after : List α}
    (hKept : Kept first second)
    (hRest : Merged New Kept before after) :
    Merged New Kept (first :: before) (second :: after)
| add
    {item : α}
    {before after : List α}
    (hNew : New item)
    (hRest : Merged New Kept before after) :
    Merged New Kept before (item :: after)

namespace Merged

variable {α β : Type}
variable {New : α → Prop}
variable {Kept : α → α → Prop}
variable {before after : List α}

/- Only new items are added to nothing. -/
theorem of_new
    (hNew : ∀ item ∈ after, New item) :
    Merged New Kept [] after := by
  induction after with
  | nil => exact .nil
  | cons item after ih =>
      rw [List.forall_mem_cons] at hNew
      exact .add hNew.1 (ih hNew.2)

theorem append
    {others laterOthers : List α}
    (hFirst : Merged New Kept before after)
    (hSecond : Merged New Kept others laterOthers) :
    Merged New Kept (before ++ others)
      (after ++ laterOthers) := by
  induction hFirst with
  | nil => exact hSecond
  | keep hKept _ ih => exact .keep hKept ih
  | add hNew _ ih => exact .add hNew ih

/- An item is new or was another one. -/
theorem exists_before
    (h : Merged New Kept before after)
    {item : α}
    (hItem : item ∈ after) :
    New item ∨ ∃ old ∈ before, Kept old item := by
  induction h with
  | nil => contradiction
  | @keep first second _ _ hKept _ ih =>
      rcases List.mem_cons.mp hItem with rfl | hItem
      · exact Or.inr ⟨first, List.mem_cons_self, hKept⟩
      · rcases ih hItem with hNew | ⟨old, hOld, hSame⟩
        · exact Or.inl hNew
        · exact
            Or.inr ⟨old, List.mem_cons_of_mem _ hOld, hSame⟩
  | add hNew _ ih =>
      rcases List.mem_cons.mp hItem with rfl | hItem
      · exact Or.inl hNew
      · exact ih hItem

/- Each item became another one. -/
theorem exists_after
    (h : Merged New Kept before after)
    {item : α}
    (hItem : item ∈ before) :
    ∃ next ∈ after, Kept item next := by
  induction h with
  | nil => contradiction
  | @keep first second _ _ hKept _ ih =>
      rcases List.mem_cons.mp hItem with rfl | hItem
      · exact ⟨second, List.mem_cons_self, hKept⟩
      · rcases ih hItem with ⟨next, hNext, hSame⟩
        exact ⟨next, List.mem_cons_of_mem _ hNext, hSame⟩
  | add _ _ ih =>
      rcases ih hItem with ⟨next, hNext, hSame⟩
      exact ⟨next, List.mem_cons_of_mem _ hNext, hSame⟩

/- Without new items a list is as long as the other. -/
theorem map_eq
    (h : Merged New Kept before after)
    (f : α → β)
    (hNew : ∀ item ∈ after, ¬ New item)
    (hKept : ∀ old item, Kept old item → f old = f item) :
    before.map f = after.map f := by
  induction h with
  | nil => rfl
  | keep hSame _ ih =>
      rw [List.forall_mem_cons] at hNew
      rw [List.map_cons, List.map_cons, hKept _ _ hSame,
        ih hNew.2]
  | add hAdded _ _ =>
      exact absurd hAdded (hNew _ List.mem_cons_self)

/- What does not fit a new item is found as before. -/
theorem find?_map_eq
    (h : Merged New Kept before after)
    (fits : α → Bool)
    (f : α → β)
    (hNew : ∀ item ∈ after, New item → fits item = false)
    (hKept :
      ∀ old item, Kept old item →
        fits old = fits item ∧ f old = f item) :
    (before.find? fits).map f = (after.find? fits).map f := by
  induction h with
  | nil => rfl
  | @keep first second _ _ hSame _ ih =>
      rw [List.forall_mem_cons] at hNew
      rcases hKept first second hSame with ⟨hFits, hValue⟩
      rw [List.find?_cons, List.find?_cons, ← hFits]
      cases fits first with
      | true => exact congrArg some hValue
      | false => exact ih hNew.2
  | add hAdded _ ih =>
      rw [List.forall_mem_cons] at hNew
      rw [List.find?_cons, hNew.1 hAdded]
      exact ih hNew.2

end Merged

end Keyspaces

------------------------------------------------------------
-- Moving Attributes
------------------------------------------------------------

namespace Keyspaces

namespace Declarations

/- A parameter gives a value under a key. -/
def Gives
    (parameter : Xml.Element)
    (entry : String × String) : Prop :=
  ∃ name,
    parameter.childText? "name" = some name ∧
      name ≠ "" ∧
        Text.trim name = entry.1 ∧
          parameter.childText? "value" = some entry.2

/- The tags of the elements that may be added. -/
def addedTags : List String :=
  [parametersTag, parameterTag]

/-
  An element that is added, or lies below one, declares no
  resource. If it is a block it is one of the resource with a
  name, and if it is a parameter it gives one of some entries.
-/
structure Added
    (name : String)
    (entries : List (String × String))
    (element : Xml.Element) : Prop where
  plain : element.tag ≠ resourceTag
  block :
    element.tag = parametersTag →
      element.attribute? "name" = some name
  parameter :
    element.tag = parameterTag →
      ∃ entry ∈ entries, Gives element entry

/- Some entry has a key. -/
def hasKey
    (entries : List (String × String))
    (key : String) : Bool :=
  entries.any fun entry => entry.1 == key

/-
  The attributes that an element is left with. The moved ones
  are missing from the element of the resource with a name.
-/
def remaining
    (name : String)
    (entries : List (String × String))
    (tag : String)
    (attributes : List (String × String)) :
    List (String × String) :=
  if tag == resourceTag &&
      attributes.lookup "name" == some name then
    attributes.filter fun attr => !hasKey entries attr.1
  else
    attributes

/-
  A forest becomes another one when attributes are taken from
  the element of the resource with a name, and when blocks of
  this resource or parameters are added anywhere.
-/
inductive Edits
    (name : String)
    (entries : List (String × String)) :
    List Xml.Element → List Xml.Element → Prop
| nil : Edits name entries [] []
| keep
    {tag text : String}
    {attributes : List (String × String)}
    {children below rest after : List Xml.Element}
    (hBelow : Edits name entries children below)
    (hRest : Edits name entries rest after) :
    Edits name entries
      (.node tag attributes text children :: rest)
      (.node tag (remaining name entries tag attributes) text
        below :: after)
| add
    {element : Xml.Element}
    {rest after : List Xml.Element}
    (hTag : element.tag ∈ addedTags)
    (hAdded :
      ∀ member ∈ element.family, Added name entries member)
    (hRest : Edits name entries rest after) :
    Edits name entries rest (element :: after)

/-
  Attributes of a resource are moved to parameters. They are
  not reserved, no other parameter of the resource has one of
  their names, and each of them is given by a parameter in one
  of its blocks.
-/
structure Moves
    (name : String)
    (entries : List (String × String))
    (root moved : Xml.Element) : Prop where
  edits : Edits name entries [root] [moved]
  own :
    ∀ element ∈ root.named resourceTag,
      element.attribute? "name" = some name →
        ∀ entry ∈ entries,
          entry.1 ∉ reservedNames ∧
            element.attribute? entry.1 = some entry.2
  alone :
    ∀ parameter ∈ parametersOf root name,
      ∀ entry ∈ entries, keyOf parameter ≠ entry.1
  given :
    ∀ entry ∈ entries,
      ∃ parameter ∈ parametersOf moved name,
        Gives parameter entry

/- An element that stays, with what may be missing from it. -/
structure Kept
    (name : String)
    (entries : List (String × String))
    (before after : Xml.Element) : Prop where
  tag : after.tag = before.tag
  attributes :
    after.attributes =
      remaining name entries before.tag before.attributes
  childText :
    ∀ tag ∉ addedTags,
      after.childText? tag = before.childText? tag

variable {name : String}
variable {entries : List (String × String)}
variable {before after : List Xml.Element}

/- Added elements hide no text. -/
theorem Edits.find?_tag
    (h : Edits name entries before after)
    {tag : String}
    (hTag : tag ∉ addedTags) :
    (after.find? fun child => child.tag == tag).map
        Xml.Element.text =
      (before.find? fun child => child.tag == tag).map
        Xml.Element.text := by
  induction h with
  | nil => rfl
  | keep _ _ _ ih =>
      rw [List.find?_cons, List.find?_cons]
      dsimp only [Xml.Element.tag]
      split
      · rfl
      · exact ih
  | @add element _ _ hAdded _ _ ih =>
      have hOther : (element.tag == tag) = false := by
        rw [beq_eq_false_iff_ne]
        rintro rfl
        exact hTag hAdded
      rw [List.find?_cons, hOther]
      exact ih

/- Whatever lies within elements of a sort is kept. -/
theorem Edits.merged_withinAll
    (h : Edits name entries before after)
    {sort : Xml.Element → Bool}
    (hSort :
      ∀ old element, Kept name entries old element →
        sort old = sort element)
    (tag : String)
    (inside : Bool) :
    Merged (Added name entries) (Kept name entries)
      (Xml.Element.withinAll sort tag inside before)
      (Xml.Element.withinAll sort tag inside after) := by
  induction h generalizing inside with
  | nil => exact .nil
  | @keep ownTag text attributes children below _ _ hBelow _
      ihBelow ihRest =>
      have hKept :
          Kept name entries
            (.node ownTag attributes text children)
            (.node ownTag
              (remaining name entries ownTag attributes) text
              below) := by
        constructor
        case tag => rfl
        case attributes => rfl
        case childText =>
          intro tag hTag
          exact hBelow.find?_tag hTag
      rw [Xml.Element.withinAll, Xml.Element.withinAll,
        Xml.Element.within_eq, Xml.Element.within_eq,
        ← hSort _ _ hKept]
      refine .append (.append ?_ (ihBelow _)) (ihRest _)
      rw [hKept.tag]
      cases (inside || sort _) && _ == tag with
      | true => exact .keep hKept .nil
      | false => exact .nil
  | @add element rest _ _ hAdded _ ih =>
      rw [Xml.Element.withinAll,
        ← List.nil_append
          (Xml.Element.withinAll sort tag inside rest)]
      refine .append (.of_new ?_) (ih _)
      intro member hMember
      have hFound :
          member ∈
            Xml.Element.withinAll sort tag inside
              [element] := by
        simpa [Xml.Element.withinAll] using hMember
      have hNamed :=
        Xml.Element.mem_namedIn_of_within hFound
      rw [← Xml.Element.named_eq_namedIn,
        Xml.Element.named, List.mem_filter] at hNamed
      exact hAdded member hNamed.1

end Declarations

end Keyspaces

------------------------------------------------------------
-- What Stays
------------------------------------------------------------

namespace Keyspaces

namespace Declarations

variable {name : String}
variable {entries : List (String × String)}
variable {root moved : Xml.Element}

/- Only attributes with other names are left out. -/
theorem lookup_filter
    (keep : String → Bool)
    (attributes : List (String × String))
    (key : String) :
    (attributes.filter fun attr => keep attr.1).lookup key =
      if keep key then attributes.lookup key else none := by
  induction attributes with
  | nil => simp
  | cons entry rest ih =>
      rcases entry with ⟨other, value⟩
      rw [List.filter_cons, List.lookup_cons]
      by_cases hOther : key = other
      · subst other
        cases hKeep : keep key with
        | true => simp
        | false => simpa [hKeep] using ih
      · have hNot : (key == other) = false := by
          simpa using hOther
        rw [hNot]
        split
        · rw [List.lookup_cons, hNot]
          exact ih
        · exact ih

namespace Kept

variable {before after : Xml.Element}

/- Attributes whose names no entry has as a key are kept. -/
theorem attribute?_of_hasKey_eq_false
    (h : Kept name entries before after)
    {key : String}
    (hKey : hasKey entries key = false) :
    after.attribute? key = before.attribute? key := by
  unfold Xml.Element.attribute?
  rw [h.attributes, remaining]
  split
  · rw [lookup_filter (fun other => !hasKey entries other),
      hKey]
    rfl
  · rfl

/- The resource is left without the attributes that move. -/
theorem attribute?_of_hasKey
    (h : Kept name entries before after)
    (hTag : before.tag = resourceTag)
    (hName : before.attribute? "name" = some name)
    {key : String}
    (hKey : hasKey entries key = true) :
    after.attribute? key = none := by
  have hResource :
      (before.tag == resourceTag &&
        before.attributes.lookup "name" == some name) =
          true := by
    rw [Xml.Element.attribute?] at hName
    simp [hTag, hName]
  unfold Xml.Element.attribute?
  rw [h.attributes, remaining, if_pos hResource,
    lookup_filter (fun other => !hasKey entries other), hKey]
  rfl

/- What makes a parameter is kept. -/
theorem isParameter_iff (h : Kept name entries before after) :
    IsParameter after ↔ IsParameter before := by
  rw [IsParameter, h.childText "name" (by decide)]
  rfl

theorem keyOf_eq (h : Kept name entries before after) :
    keyOf after = keyOf before := by
  rw [keyOf, h.childText "name" (by decide)]
  rfl

theorem contentOf_eq (h : Kept name entries before after) :
    contentOf after = contentOf before := by
  rw [contentOf, h.childText "value" (by decide)]
  rfl

end Kept

/- What a parameter gives is what it adds to a reference. -/
theorem Gives.entryOf_eq
    {parameter : Xml.Element}
    {entry : String × String}
    (h : Gives parameter entry) :
    entryOf parameter = (entry.1, .text entry.2) := by
  rcases h with ⟨name, hName, _, hKey, hValue⟩
  rw [entryOf, keyOf, contentOf, hName, hValue]
  dsimp only [Option.getD_some, Option.map_some]
  rw [hKey]

theorem Gives.isParameter
    {parameter : Xml.Element}
    {entry : String × String}
    (h : Gives parameter entry) : IsParameter parameter := by
  rcases h with ⟨name, hName, hFilled, _, _⟩
  simp [IsParameter, hName, hFilled]

/- No resource is added. -/
theorem not_added_of_mem
    (element : Xml.Element)
    (hElement : element ∈ root.named resourceTag) :
    ¬ Added name entries element := by
  intro hAdded
  have hTag := (List.mem_filter.mp hElement).2
  exact hAdded.plain (by simpa using hTag)

namespace Moves

variable (h : Moves name entries root moved)

include h

/- Elements with a tag are kept, others may be added. -/
theorem merged_named (tag : String) :
    Merged (Added name entries) (Kept name entries)
      (root.named tag) (moved.named tag) := by
  rw [Xml.Element.named_eq_namedIn,
    Xml.Element.named_eq_namedIn,
    ← Xml.Element.withinAll_true fun _ => false,
    ← Xml.Element.withinAll_true fun _ => false]
  exact h.edits.merged_withinAll (fun _ _ _ => rfl) tag true

variable
  (hDeclared :
    ∃ element ∈ root.named resourceTag,
      element.attribute? "name" = some name)

include hDeclared

/- No entry has the name of a reserved attribute. -/
theorem hasKey_reserved
    {key : String}
    (hKey : key ∈ reservedNames) :
    hasKey entries key = false := by
  rcases hDeclared with ⟨element, hElement, hName⟩
  unfold hasKey
  rw [List.any_eq_false]
  intro entry hEntry hSame
  rw [beq_iff_eq] at hSame
  have hOwn := h.own element hElement hName entry hEntry
  rw [hSame] at hOwn
  exact hOwn.1 hKey

/- Elements keep their reserved attributes. -/
theorem attribute?_reserved
    {before after : Xml.Element}
    (hKept : Kept name entries before after)
    {key : String}
    (hKey : key ∈ reservedNames) :
    after.attribute? key = before.attribute? key :=
  hKept.attribute?_of_hasKey_eq_false
    (h.hasKey_reserved hDeclared hKey)

theorem nameOf_eq
    {before after : Xml.Element}
    (hKept : Kept name entries before after) :
    nameOf after = nameOf before := by
  rw [nameOf, h.attribute?_reserved hDeclared hKept (by decide)]
  rfl

/- The parameters of a resource are kept as well. -/
theorem merged_parametersOf (resource : String) :
    Merged (Added name entries) (Kept name entries)
      (parametersOf root resource)
      (parametersOf moved resource) := by
  have hSort : ∀ before after,
      Kept name entries before after →
        isBlockOf resource before =
          isBlockOf resource after := by
    intro before after hKept
    rw [isBlockOf, isBlockOf, namesResource, namesResource,
      h.attribute?_reserved hDeclared hKept (by decide),
      hKept.tag]
  have hMerged :=
    h.edits.merged_withinAll hSort parameterTag false
  simpa [parametersOf, Xml.Element.withinAll] using hMerged

/- A parameter within a block is added or was within one. -/
omit hDeclared in
theorem added_or_kept_of_mem
    {block parameter : Xml.Element}
    (hBlock : block ∈ moved.named parametersTag)
    (hParameter : parameter ∈ block.named parameterTag) :
    Added name entries parameter ∨
      ∃ first ∈ root.named parametersTag,
        ∃ old ∈ first.named parameterTag,
          Kept name entries old parameter := by
  have hSort : ∀ before after,
      Kept name entries before after →
        (before.tag == parametersTag) =
          (after.tag == parametersTag) := by
    intro before after hKept
    rw [hKept.tag]
  have hMerged :=
    h.edits.merged_withinAll hSort parameterTag false
  have hWithin :=
    (Xml.Element.mem_within_iff moved parametersTag
      parameterTag parameter).mpr ⟨block, hBlock, hParameter⟩
  simp only [Xml.Element.withinAll, List.append_nil]
    at hMerged
  rcases hMerged.exists_before hWithin with
    hAdded | ⟨old, hOld, hKept⟩
  · exact Or.inl hAdded
  · rw [Xml.Element.mem_within_iff] at hOld
    rcases hOld with ⟨first, hFirst, hOld⟩
    exact Or.inr ⟨first, hFirst, old, hOld, hKept⟩

/- A document is still accepted when attributes are moved. -/
theorem accepted (hAccepted : Accepted root) :
    Accepted moved := by
  have hResources := h.merged_named resourceTag
  have hFilled : ∀ {before after key},
      Kept name entries before after → key ∈ reservedNames →
        filled? after key = filled? before key := by
    intro before after key hKept hKey
    rw [filled?, h.attribute?_reserved hDeclared hKept hKey]
    rfl
  constructor
  case resource =>
    intro element hElement
    rcases hResources.exists_before hElement with
      hAdded | ⟨old, hOld, hKept⟩
    · exact absurd hAdded (not_added_of_mem element hElement)
    · rw [IsResource, hFilled hKept (by decide),
        hFilled hKept (by decide)]
      exact hAccepted.resource old hOld
  case distinct =>
    rw [← hResources.map_eq nameOf not_added_of_mem
      fun old element hKept =>
        (h.nameOf_eq hDeclared hKept).symm]
    exact hAccepted.distinct
  case block =>
    intro block hBlock
    -- The block is added, or one of a resource that is kept.
    have hOld :
        ∃ element ∈ root.named resourceTag,
          block.attribute? "name" = some (nameOf element) := by
      rcases (h.merged_named parametersTag).exists_before
          hBlock with
        hAdded | ⟨old, hOld, hKept⟩
      · rcases hDeclared with ⟨element, hElement, hName⟩
        have hTag := (List.mem_filter.mp hBlock).2
        rw [hAdded.block (by simpa using hTag)]
        refine ⟨element, hElement, ?_⟩
        rw [nameOf, hName]
        rfl
      · rw [h.attribute?_reserved hDeclared hKept (by decide)]
        exact hAccepted.block old hOld
    rcases hOld with ⟨element, hElement, hName⟩
    rcases hResources.exists_after hElement with
      ⟨next, hNext, hKept⟩
    refine ⟨next, hNext, ?_⟩
    rw [h.nameOf_eq hDeclared hKept]
    exact hName
  case parameter =>
    intro block hBlock parameter hParameter
    rcases h.added_or_kept_of_mem hBlock hParameter with
      hAdded | ⟨first, hFirst, old, hOld, hKept⟩
    · have hTag := (List.mem_filter.mp hParameter).2
      rcases hAdded.parameter (by simpa using hTag) with
        ⟨entry, _, hGives⟩
      exact hGives.isParameter
    · rw [hKept.isParameter_iff]
      exact hAccepted.parameter first hFirst old hOld

end Moves

end Declarations

end Keyspaces

------------------------------------------------------------
-- What a Document Means
------------------------------------------------------------

namespace Keyspaces

namespace Declarations

variable {name : String}
variable {entries : List (String × String)}
variable {root moved : Xml.Element}

/- What is found within the blocks are parameters. -/
theorem tag_of_mem_parametersOf
    {parameter : Xml.Element}
    (h : parameter ∈ parametersOf root name) :
    parameter.tag = parameterTag := by
  have hWithin :
      parameter ∈
        Xml.Element.withinAll (isBlockOf name) parameterTag
          false [root] := by
    rw [Xml.Element.withinAll, Xml.Element.withinAll,
      List.append_nil]
    exact h
  have hNamed := Xml.Element.mem_namedIn_of_within hWithin
  simpa using (List.mem_filter.mp hNamed).2

/- A key that some entry has stands for the entry. -/
theorem exists_of_hasKey
    {key : String}
    (h : hasKey entries key = true) :
    ∃ value, (key, value) ∈ entries := by
  rcases List.any_eq_true.mp h with ⟨entry, hEntry, hSame⟩
  rw [beq_iff_eq] at hSame
  subst key
  exact ⟨entry.2, hEntry⟩

/- A key that no entry has is that of no entry. -/
theorem ne_of_hasKey_eq_false
    {key : String}
    (h : hasKey entries key = false)
    {entry : String × String}
    (hEntry : entry ∈ entries) : entry.1 ≠ key := by
  rw [hasKey, List.any_eq_false] at h
  simpa using h entry hEntry

namespace Moves

variable (h : Moves name entries root moved)
variable {element after : Xml.Element}
variable (hElement : element ∈ root.named resourceTag)
variable (hName : element.attribute? "name" = some name)
variable (hKept : Kept name entries element after)

include h hElement hName

/- The parameters with a name that was moved give its value. -/
theorem contentOf_of_mem
    {key value : String}
    (hEntry : (key, value) ∈ entries)
    {parameter : Xml.Element}
    (hMember : parameter ∈ parametersOf moved name)
    (hKeyOf : keyOf parameter = key) :
    contentOf parameter = .text value := by
  have hDeclared :
      ∃ element ∈ root.named resourceTag,
        element.attribute? "name" = some name :=
    ⟨element, hElement, hName⟩
  rcases (h.merged_parametersOf hDeclared
      name).exists_before hMember with
    hAdded | ⟨old, hOld, hStays⟩
  · have hTag := tag_of_mem_parametersOf hMember
    rcases hAdded.parameter hTag with
      ⟨entry, hOther, hGives⟩
    have hEntryOf := hGives.entryOf_eq
    have hEntryKey : entry.1 = key :=
      (congrArg Prod.fst hEntryOf).symm.trans hKeyOf
    have hValue :=
      (h.own element hElement hName entry hOther).2
    rw [hEntryKey,
      (h.own element hElement hName _ hEntry).2] at hValue
    cases hValue
    exact congrArg Prod.snd hEntryOf
  · have hOldKey : keyOf old = key :=
      hStays.keyOf_eq.symm.trans hKeyOf
    exact absurd hOldKey (h.alone old hOld _ hEntry)

include hKept

/- A moved attribute is found among the parameters. -/
theorem content?_of_hasKey
    {key : String}
    (hKey : hasKey entries key = true) :
    content? moved after key = content? root element key := by
  have hDeclared :
      ∃ element ∈ root.named resourceTag,
        element.attribute? "name" = some name :=
    ⟨element, hElement, hName⟩
  rcases exists_of_hasKey hKey with ⟨value, hEntry⟩
  rcases h.own element hElement hName _ hEntry with
    ⟨hFree, hOwn⟩
  have hSame : nameOf after = name := by
    rw [h.nameOf_eq hDeclared hKept, nameOf, hName]
    rfl
  have hTag : element.tag = resourceTag := by
    simpa using (List.mem_filter.mp hElement).2
  have hNone : ownContent? after key = none := by
    rw [ownContent?,
      hKept.attribute?_of_hasKey hTag hName hKey]
    simp
  have hSome :
      ownContent? element key = some (.text value) := by
    rw [ownContent?, if_neg hFree, hOwn]
    rfl
  -- The first parameter with the name is an added one.
  have hFirst :
      ∃ parameter,
        (parametersOf moved name).find?
            (fun parameter => keyOf parameter == key) =
          some parameter := by
    rcases h.given _ hEntry with
      ⟨parameter, hParameter, hGives⟩
    have hKeyOf : keyOf parameter = key :=
      congrArg Prod.fst hGives.entryOf_eq
    rw [← Option.isSome_iff_exists, List.find?_isSome]
    exact ⟨parameter, hParameter, by simpa using hKeyOf⟩
  rcases hFirst with ⟨parameter, hFirst⟩
  have hKeyOf : keyOf parameter = key := by
    simpa using List.find?_some hFirst
  have hContent :=
    h.contentOf_of_mem hElement hName hEntry
      (List.mem_of_find?_eq_some hFirst) hKeyOf
  rw [content?, content?, hNone, hSome, hSame, hFirst]
  simp [hContent]

/- Other attributes and parameters are found as before. -/
theorem content?_of_hasKey_eq_false
    {key : String}
    (hKey : hasKey entries key = false) :
    content? moved after key = content? root element key := by
  have hDeclared :
      ∃ element ∈ root.named resourceTag,
        element.attribute? "name" = some name :=
    ⟨element, hElement, hName⟩
  have hOwn :
      ownContent? after key = ownContent? element key := by
    rw [ownContent?, ownContent?,
      hKept.attribute?_of_hasKey_eq_false hKey]
  have hFirst :
      ((parametersOf root (nameOf element)).find?
          fun parameter => keyOf parameter == key).map
            contentOf =
        ((parametersOf moved (nameOf element)).find?
          fun parameter => keyOf parameter == key).map
            contentOf := by
    apply (h.merged_parametersOf hDeclared _).find?_map_eq
    case hNew =>
      intro parameter hMember hAdded
      have hTag := tag_of_mem_parametersOf hMember
      rcases hAdded.parameter hTag with
        ⟨entry, hEntry, hGives⟩
      have hKeyOf : keyOf parameter = entry.1 :=
        congrArg Prod.fst hGives.entryOf_eq
      rw [beq_eq_false_iff_ne, hKeyOf]
      exact ne_of_hasKey_eq_false hKey hEntry
    case hKept =>
      intro old parameter hStays
      rw [hStays.keyOf_eq, hStays.contentOf_eq]
      exact ⟨rfl, rfl⟩
  rw [content?, content?, hOwn, hFirst,
    h.nameOf_eq hDeclared hKept]

end Moves

/-
  What is declared are the resources in document order, and
  what their references have is what the document says they
  have. When attributes of a resource are moved to parameters,
  the document declares the same names, and what is read of
  the reference is the same, also when it fails.
-/
structure Means
    (root : Xml.Element)
    (declarations : Declarations) : Prop where
  names :
    declarations.keys.map some =
      (root.named resourceTag).map (·.attribute? "name")
  distinct : declarations.keys.Nodup
  contents :
    ∀ element ∈ root.named resourceTag,
      ∃ reference,
        declarations.get? (nameOf element) = some reference ∧
          reference.className = element.attribute? "type" ∧
            reference.factory = element.attribute? "factory" ∧
              ∀ key,
                reference.get? key =
                  (content? root element key).map
                    (Prod.mk key)
  moves :
    ∀ name reference entries moved,
      declarations.get? name = some reference →
        Moves name entries root moved →
          ∃ later changed,
            ofElement moved = .ok later ∧
              later.keys = declarations.keys ∧
                later.get? name = some changed ∧
                  ∀ conf,
                    Resource.parse conf changed.toValue =
                      Resource.parse conf reference.toValue

/- What is declared is what the document means. -/
theorem means_ofElement
    {declarations : Declarations}
    (h : ofElement root = .ok declarations) :
    Means root declarations := by
  have hAccepted := ((ofElement_eq_ok_iff _ _).mp h).1
  constructor
  case names =>
    rw [keys_ofElement h, List.map_map]
    apply List.map_congr_left
    intro element hElement
    have hResource := hAccepted.resource element hElement
    exact hResource.attribute?_name.symm
  case distinct => exact declarations.nodup_keys
  case contents =>
    intro element hElement
    have hResource := hAccepted.resource element hElement
    refine
      ⟨_, get?_ofElement h hElement, rfl,
        hResource.factory_ownReference, ?_⟩
    intro key
    exact get?_declaredBy root element key
  case moves =>
    intro name reference entries moved hFound hMoves
    rcases exists_of_get?_ofElement h hFound with
      ⟨element, hElement, hDeclares⟩
    cases hDeclares
    have hName :=
      (hAccepted.resource element hElement).attribute?_name
    have hDeclared :
        ∃ other ∈ root.named resourceTag,
          other.attribute? "name" = some (nameOf element) :=
      ⟨element, hElement, hName⟩
    rcases (hMoves.accepted hDeclared
        hAccepted).exists_ofElement with
      ⟨later, hLater⟩
    rcases (hMoves.merged_named resourceTag).exists_after
        hElement with
      ⟨after, hAfter, hKept⟩
    have hSame := hMoves.nameOf_eq hDeclared hKept
    have hAlike : ∀ key,
        (declaredBy moved after).2.get? key =
          (declaredBy root element).2.get? key := by
      intro key
      rw [get?_declaredBy, get?_declaredBy]
      cases hKey : hasKey entries key with
      | true =>
          rw [hMoves.content?_of_hasKey hElement hName hKept
            hKey]
      | false =>
          rw [hMoves.content?_of_hasKey_eq_false hElement hName
            hKept hKey]
    refine
      ⟨later, (declaredBy moved after).2, hLater, ?_, ?_, ?_⟩
    · rw [keys_ofElement hLater, keys_ofElement h]
      symm
      apply (hMoves.merged_named resourceTag).map_eq nameOf
      · exact not_added_of_mem
      · intro old next hStays
        exact (hMoves.nameOf_eq hDeclared hStays).symm
    · rw [← hSame]
      exact get?_ofElement hLater hAfter
    · intro conf
      exact Resource.ofReference_congr hAlike conf

end Declarations

end Keyspaces

namespace Keyspaces

namespace Declarations

namespace Sample

/- The element of a resource with some attributes. -/
def resource
    (attributes : List (String × String)) : Xml.Element :=
  .node resourceTag
    ([("name", "r"), ("factory", "f")] ++ attributes) "" []

/- A block of the resource. -/
def block (parameters : List Xml.Element) : Xml.Element :=
  .node parametersTag [("name", "r")] "" parameters

/- A parameter with a name and a value. -/
def parameter (name value : String) : Xml.Element :=
  .node parameterTag [] ""
    [.node "name" [] name [], .node "value" [] value []]

/- A resource with two attributes and a parameter. -/
def document : Xml.Element :=
  .node "Context" [] ""
    [resource [("hosts", "h"), ("keyspace", "k")],
      block [parameter "clusterName" "c"]]

/- One of the attributes is moved to a nested block. -/
def edited : Xml.Element :=
  .node "Context" [] ""
    [resource [("keyspace", "k")],
      block
        [block [parameter " hosts " "h"],
          parameter "clusterName" "c"]]

/- The parameter gives the attribute. -/
theorem gives :
    Gives (parameter " hosts " "h") ("hosts", "h") :=
  ⟨" hosts ", rfl, by decide, by decide, rfl⟩

/- The attribute may be moved there. -/
theorem moves :
    Moves "r" [("hosts", "h")] document edited := by
  constructor
  case edits =>
    have hAdded :
        ∀ member ∈ (block [parameter " hosts " "h"]).family,
          Added "r" [("hosts", "h")] member := by
      have hFamily :
          (block [parameter " hosts " "h"]).family =
            [block [parameter " hosts " "h"],
              parameter " hosts " "h",
              .node "name" [] " hosts " [],
              .node "value" [] "h" []] :=
        rfl
      simp only [hFamily, List.forall_mem_cons,
        List.not_mem_nil, false_implies, implies_true,
        and_true]
      have hOther : ∀ {tag : String},
          tag ≠ parameterTag → ∀ attributes text children,
            (Xml.Element.node tag attributes text
                children).tag = parameterTag →
              ∃ entry ∈ [("hosts", "h")],
                Gives (.node tag attributes text children)
                  entry :=
        fun hNot _ _ _ hTag => absurd hTag hNot
      refine ⟨?_, ?_, ?_, ?_⟩
      · exact
          ⟨by decide, fun _ => rfl, hOther (by decide) _ _ _⟩
      · refine ⟨by decide, by decide, fun _ => ?_⟩
        exact ⟨_, List.mem_cons_self, gives⟩
      · exact ⟨by decide, by decide, hOther (by decide) _ _ _⟩
      · exact ⟨by decide, by decide, hOther (by decide) _ _ _⟩
    have hParameter :
        Edits "r" [("hosts", "h")] [parameter "clusterName" "c"]
          [parameter "clusterName" "c"] :=
      .keep (.keep .nil (.keep .nil .nil)) .nil
    exact
      .keep
        (.keep .nil
          (.keep (.add (by decide) hAdded hParameter) .nil))
        .nil
  case own => decide
  case alone => decide
  case given =>
    have hParameters :
        parametersOf edited "r" =
          [parameter " hosts " "h",
            parameter "clusterName" "c"] :=
      rfl
    intro entry hEntry
    rw [List.mem_singleton.mp hEntry, hParameters]
    exact ⟨_, List.mem_cons_self, gives⟩

end Sample

/- The document means the same after the attribute moved. -/
theorem means_sample :
    ∃ declarations,
      ofElement Sample.document = .ok declarations ∧
        Means Sample.document declarations ∧
          Moves "r" [("hosts", "h")] Sample.document
            Sample.edited :=
  ⟨_, rfl, means_ofElement rfl, Sample.moves⟩

end Declarations

end Keyspaces
