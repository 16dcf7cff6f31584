import Keyspaces.Reference
import Mathlib.Data.List.Basic

/-
  What a reference carries under the name of an attribute, and
  the references that declarations make, whose contents are
  texts or missing.

  Main statements:
    * `Reference.content?_eq_some_iff`
    * `Reference.content?_eq_none_iff`
    * `Reference.Textual.carries`
-/

------------------------------------------------------------
-- What a Reference Carries
------------------------------------------------------------

namespace Keyspaces

namespace Reference

/-
  The first attribute with a name has a content, which is not
  `null`.
-/
def Carries
    (reference : Reference)
    (name : String)
    (content : Value) : Prop :=
  content ≠ .null ∧
    ∃ before after,
      reference.attributes =
          before ++ (name, content) :: after ∧
        ∀ entry ∈ before, entry.1 ≠ name

/- The first attribute with a name is preceded by others. -/
theorem get?_eq_some_iff
    (reference : Reference)
    (name : String)
    (entry : String × Value) :
    reference.get? name = some entry ↔
      entry.1 = name ∧
        ∃ before after,
          reference.attributes = before ++ entry :: after ∧
            ∀ other ∈ before, other.1 ≠ name := by
  simp only [get?, List.find?_eq_some_iff_append,
    beq_iff_eq, Bool.not_eq_true', beq_eq_false_iff_ne]

/- The content that is found is the one that is carried. -/
theorem content?_eq_some_iff
    (reference : Reference)
    (name : String)
    (content : Value) :
    reference.content? name = some content ↔
      reference.Carries name content := by
  have hGet :
      reference.content? name = some content ↔
        content ≠ .null ∧
          reference.get? name = some (name, content) := by
    unfold content?
    split
    case h_1 other hFound =>
      have hName :=
        ((get?_eq_some_iff reference name _).mp hFound).1
      simp only [hFound, Option.some.injEq, Prod.mk.injEq]
      constructor
      · intro h
        contradiction
      · rintro ⟨hContent, _, hNull⟩
        exact absurd hNull.symm hContent
    case h_2 found other hNull hFound =>
      have hName :=
        ((get?_eq_some_iff reference name _).mp hFound).1
      have hSame : found = name := hName
      subst found
      simp only [hFound, Option.some.injEq, Prod.mk.injEq,
        true_and]
      constructor
      · rintro rfl
        exact ⟨hNull, rfl⟩
      · intro h
        exact h.2
    case h_3 hMissing =>
      simp [hMissing]
  rw [hGet, get?_eq_some_iff]
  simp only [true_and, Carries]

/- What is carried under a name is unique. -/
theorem Carries.unique
    {reference : Reference}
    {name : String}
    {content other : Value}
    (hContent : reference.Carries name content)
    (hOther : reference.Carries name other) :
    content = other := by
  rw [← content?_eq_some_iff] at hContent hOther
  rw [hContent] at hOther
  exact Option.some.inj hOther

/- Nothing is found if nothing is carried. -/
theorem content?_eq_none_iff
    (reference : Reference)
    (name : String) :
    reference.content? name = none ↔
      ∀ content, ¬ reference.Carries name content := by
  rw [Option.eq_none_iff_forall_ne_some]
  exact forall_congr' fun content =>
    not_congr (content?_eq_some_iff reference name content)

------------------------------------------------------------
-- Textual References
------------------------------------------------------------

/- Every content is a text or `null`. -/
def Textual (reference : Reference) : Prop :=
  ∀ entry ∈ reference.attributes,
    entry.2 = .null ∨ ∃ s, entry.2 = .text s

/- What a textual reference carries is a text. -/
theorem Textual.carries
    {reference : Reference}
    {name : String}
    {content : Value}
    (hTextual : reference.Textual)
    (hCarries : reference.Carries name content) :
    ∃ s, content = .text s := by
  rcases hCarries with ⟨hContent, before, after, hSplit, _⟩
  have hEntry : (name, content) ∈ reference.attributes := by
    rw [hSplit]
    simp
  rcases hTextual _ hEntry with hNull | hText
  · exact absurd hNull hContent
  · exact hText

end Reference

end Keyspaces
