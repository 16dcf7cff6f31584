import Keyspaces.Xml.Element
import Mathlib.Data.List.Basic

/-
  Elements below one another: those with a tag in document
  order, and those that lie within elements of some sort. When
  these are collected from each of the elements of the sort,
  some are found more than once, but the first that fits is
  the same.

  Main declarations:
    * `Xml.Element.forest_induction`
    * `Xml.Element.within`
    * `Xml.Element.find?_collected`
    * `Xml.Element.mem_collected_iff`
-/

------------------------------------------------------------
-- Forests
------------------------------------------------------------

namespace Keyspaces

namespace Xml

namespace Element

/- What holds below an element and besides it may be used. -/
theorem forest_induction
    {motive : List Element → Prop}
    (nil : motive [])
    (node :
      ∀ tag attributes text children rest,
        motive children → motive rest →
          motive (.node tag attributes text children :: rest))
    (forest : List Element) : motive forest := by
  match forest with
  | [] => exact nil
  | .node tag attributes text children :: rest =>
      exact
        node tag attributes text children rest
          (forest_induction nil node children)
          (forest_induction nil node rest)

/- The elements with a tag in a forest. -/
def namedIn
    (forest : List Element)
    (tag : String) : List Element :=
  (families forest).filter fun member => member.tag == tag

theorem named_eq_namedIn
    (element : Element)
    (tag : String) :
    element.named tag = namedIn [element] tag := by
  rw [named, namedIn, families, families, List.append_nil]

/- An element, those below it and those besides it. -/
theorem namedIn_cons
    (element : Element)
    (rest : List Element)
    (tag : String) :
    namedIn (element :: rest) tag =
      element.named tag ++ namedIn rest tag := by
  rw [namedIn, families, List.filter_append]
  rfl

/- An element is found before those below it. -/
theorem named_node
    (element : Element)
    (tag : String) :
    element.named tag =
      (if element.tag == tag then [element] else []) ++
        namedIn element.children tag := by
  rcases element with ⟨ownTag, attributes, text, children⟩
  rw [named, family, List.filter_cons]
  by_cases hTag : ownTag == tag
  · simp [Element.tag, Element.children, hTag, namedIn]
  · simp [Element.tag, Element.children, hTag, namedIn]

end Element

end Xml

end Keyspaces

------------------------------------------------------------
-- Elements Within Others
------------------------------------------------------------

namespace Keyspaces

namespace Xml

namespace Element

mutual

/-
  The elements with a tag that are or lie within an element of
  some sort, in document order. It is known whether the one
  from which they are searched lies within one.
-/
def within
    (sort : Element → Bool)
    (tag : String)
    (inside : Bool) : Element → List Element
| .node ownTag attributes text children =>
    let element := Element.node ownTag attributes text children
    let inside := inside || sort element
    (if inside && ownTag == tag then [element] else []) ++
      withinAll sort tag inside children

/- The elements within one of some sort in a forest. -/
def withinAll
    (sort : Element → Bool)
    (tag : String)
    (inside : Bool) : List Element → List Element
| [] => []
| element :: rest =>
    within sort tag inside element ++
      withinAll sort tag inside rest

end

/- What each element of a sort has within, in order. -/
def collected
    (sort : Element → Bool)
    (tag : String)
    (forest : List Element) : List Element :=
  ((families forest).filter sort).flatMap fun element =>
    element.named tag

/- From an element to those below it. -/
theorem within_eq
    (sort : Element → Bool)
    (tag : String)
    (inside : Bool)
    (element : Element) :
    within sort tag inside element =
      (if (inside || sort element) && element.tag == tag then
        [element] else []) ++
        withinAll sort tag (inside || sort element)
          element.children := by
  rcases element with ⟨ownTag, attributes, text, children⟩
  rfl

/- An element comes before those below and besides it. -/
theorem collected_cons
    (sort : Element → Bool)
    (tag : String)
    (element : Element)
    (rest : List Element) :
    collected sort tag (element :: rest) =
      (if sort element then element.named tag else []) ++
        (collected sort tag element.children ++
          collected sort tag rest) := by
  rcases element with ⟨ownTag, attributes, text, children⟩
  unfold collected
  rw [families, family, List.filter_append, List.filter_cons]
  dsimp only [Element.children]
  split
  · simp
  · simp

variable {sort : Element → Bool}
variable {tag : String}

/- Within an element of the sort everything is within one. -/
theorem withinAll_true
    (sort : Element → Bool)
    (tag : String)
    (forest : List Element) :
    withinAll sort tag true forest = namedIn forest tag := by
  induction forest using forest_induction with
  | nil => rfl
  | node ownTag attributes text children rest hBelow hRest =>
      rw [withinAll, within_eq, namedIn_cons, named_node,
        hRest]
      simp only [Bool.true_or, Bool.true_and]
      rw [Element.children, hBelow]

theorem within_of_sort
    {element : Element}
    (h : sort element = true)
    (inside : Bool) :
    within sort tag inside element = element.named tag := by
  rw [within_eq, named_node, h]
  simp only [Bool.or_true, Bool.true_and, withinAll_true]

/- Whatever is within is found below. -/
theorem mem_namedIn_of_within
    {inside : Bool}
    {forest : List Element}
    {member : Element}
    (h : member ∈ withinAll sort tag inside forest) :
    member ∈ namedIn forest tag := by
  induction forest using forest_induction generalizing inside
    with
  | nil => exact h
  | node ownTag attributes text children rest hBelow hRest =>
      rw [withinAll, within_eq, List.mem_append,
        List.mem_append] at h
      rw [namedIn_cons, named_node, List.mem_append,
        List.mem_append]
      rcases h with (hOwn | hChild) | hOther
      · split at hOwn
        case isTrue hTag =>
          rw [Bool.and_eq_true] at hTag
          rw [if_pos hTag.2]
          exact Or.inl (Or.inl hOwn)
        case isFalse => contradiction
      · exact Or.inl (Or.inr (hBelow hChild))
      · exact Or.inr (hRest hOther)

/- Whatever is collected is found below. -/
theorem mem_namedIn_of_collected
    {forest : List Element}
    {member : Element}
    (h : member ∈ collected sort tag forest) :
    member ∈ namedIn forest tag := by
  induction forest using forest_induction with
  | nil => exact h
  | node ownTag attributes text children rest hBelow hRest =>
      rw [collected_cons, List.mem_append,
        List.mem_append] at h
      rw [namedIn_cons, List.mem_append]
      rcases h with hOwn | hChild | hOther
      · split at hOwn
        · exact Or.inl hOwn
        · contradiction
      · rw [named_node, List.mem_append]
        exact Or.inl (Or.inr (hBelow hChild))
      · exact Or.inr (hRest hOther)

/- The first that fits is the same. -/
theorem find?_collected
    (fits : Element → Bool)
    (forest : List Element) :
    (collected sort tag forest).find? fits =
      (withinAll sort tag false forest).find? fits := by
  induction forest using forest_induction with
  | nil => rfl
  | node ownTag attributes text children rest hBelow hRest =>
      let element :=
        Element.node ownTag attributes text children
      change
        (collected sort tag (element :: rest)).find? fits =
          (withinAll sort tag false (element :: rest)).find?
            fits
      rw [collected_cons, withinAll, List.find?_append,
        List.find?_append, List.find?_append, hRest,
        ← Option.or_assoc]
      congr 1
      by_cases hSort : sort element = true
      · -- What is collected below was found already.
        rw [if_pos hSort, within_of_sort hSort]
        cases hFirst : (element.named tag).find? fits with
        | some first => rfl
        | none =>
            rw [Option.none_or, List.find?_eq_none]
            intro member hMember
            rw [List.find?_eq_none] at hFirst
            apply hFirst
            rw [named_node, List.mem_append]
            exact Or.inr (mem_namedIn_of_collected hMember)
      · rw [if_neg hSort, within_eq]
        simp only [Bool.not_eq_true] at hSort
        simp only [hSort, Bool.false_or, Bool.false_and,
          List.find?_nil, Option.none_or]
        exact hBelow

/- The same elements are found, some of them repeatedly. -/
theorem mem_collected_iff
    (forest : List Element)
    (member : Element) :
    member ∈ collected sort tag forest ↔
      member ∈ withinAll sort tag false forest := by
  classical
  have hFirst :
      (collected sort tag forest).find?
          (fun other => decide (other = member)) =
        (withinAll sort tag false forest).find?
          (fun other => decide (other = member)) :=
    find?_collected _ forest
  have hFound := congrArg Option.isSome hFirst
  rw [Bool.eq_iff_iff, List.find?_isSome,
    List.find?_isSome] at hFound
  simpa using hFound

/- To lie within an element with a tag is to be found there. -/
theorem mem_within_iff
    (root : Element)
    (outer inner : String)
    (member : Element) :
    member ∈
        within (fun element => element.tag == outer) inner false
          root ↔
      ∃ element ∈ root.named outer,
        member ∈ element.named inner := by
  have hFound :
      member ∈
          collected (fun element => element.tag == outer) inner
            [root] ↔
        member ∈
          withinAll (fun element => element.tag == outer) inner
            false [root] :=
    mem_collected_iff [root] member
  rw [collected, List.mem_flatMap, ← namedIn,
    ← named_eq_namedIn, withinAll, withinAll,
    List.append_nil] at hFound
  exact hFound.symm

end Element

end Xml

end Keyspaces
