import Keyspaces.Declarations
import Keyspaces.Proofs.Outcome
import Keyspaces.Proofs.Reference
import Keyspaces.Proofs.Table

/-
  Declared references carry texts, or nothing where a
  parameter has no value.

  Main statements:
    * `Declarations.textual_of_ofSource`
-/

namespace Keyspaces

namespace Declarations

/- Every declared reference is textual. -/
def Textual (declarations : Declarations) : Prop :=
  ∀ name reference,
    declarations.get? name = some reference →
      reference.Textual

/- A textual reference may be declared. -/
theorem Textual.insert
    {declarations : Declarations}
    {name : String}
    {reference : Reference}
    (h : declarations.Textual)
    (hReference : reference.Textual) :
    Textual (Table.insert declarations name reference) := by
  intro key found hFound
  rw [Table.get?_insert] at hFound
  split at hFound
  · cases hFound
    exact hReference
  · exact h key found hFound

/- The attributes of an element are texts. -/
theorem textual_referenceOf
    (element : Xml.Element)
    (factory : String) :
    (referenceOf element factory).Textual := by
  intro entry hEntry
  rcases List.mem_map.mp hEntry with ⟨own, _, rfl⟩
  exact Or.inr ⟨own.2, rfl⟩

/- Declaring a resource keeps references textual. -/
theorem textual_of_declare
    {declarations next : Declarations}
    {element : Xml.Element}
    (h : declarations.Textual)
    (hNext : declare declarations element = .ok next) :
    next.Textual := by
  unfold declare at hNext
  split at hNext
  · contradiction
  · contradiction
  · split at hNext
    · contradiction
    · cases hNext
      exact h.insert (textual_referenceOf element _)

/- Adding a parameter keeps a reference textual. -/
theorem textual_of_addParameter
    {name : String}
    {reference next : Reference}
    {parameter : Xml.Element}
    (h : reference.Textual)
    (hNext :
      addParameter name reference parameter = .ok next) :
    next.Textual := by
  unfold addParameter at hNext
  split at hNext
  · contradiction
  · cases hNext
    intro entry hEntry
    rcases List.mem_append.mp hEntry with hOld | hNew
    · exact h entry hOld
    · rw [List.mem_singleton.mp hNew]
      cases parameter.childText? "value" with
      | none => exact Or.inl rfl
      | some text => exact Or.inr ⟨text, rfl⟩

/- Adding a block of parameters keeps references textual. -/
theorem textual_of_addParameters
    {declarations next : Declarations}
    {block : Xml.Element}
    (h : declarations.Textual)
    (hNext : addParameters declarations block = .ok next) :
    next.Textual := by
  unfold addParameters at hNext
  dsimp only at hNext
  split at hNext
  case h_1 => contradiction
  case h_2 name reference hDeclared =>
    rcases (Outcome.map_eq_ok_iff _ _ _).mp hNext with
      ⟨changed, hChanged, rfl⟩
    have hReference : reference.Textual := by
      rcases Option.bind_eq_some_iff.mp hDeclared with
        ⟨key, _, hKey⟩
      rcases Option.map_eq_some_iff.mp hKey with
        ⟨found, hFound, hSame⟩
      cases hSame
      exact h name reference hFound
    refine h.insert ?_
    exact
      Outcome.foldlM_keeps
        (fun _ _ _ hState hStep =>
          textual_of_addParameter hState hStep)
        hReference hChanged

/- The references that a document declares are textual. -/
theorem textual_of_ofElement
    {root : Xml.Element}
    {declarations : Declarations}
    (h : ofElement root = .ok declarations) :
    declarations.Textual := by
  rw [ofElement, Outcome.bind_eq_ok_iff] at h
  rcases h with ⟨declared, hDeclared, hRest⟩
  have hEmpty : Textual .empty := by
    intro name reference hFound
    contradiction
  have hFirst : declared.Textual :=
    Outcome.foldlM_keeps
      (fun _ _ _ hState hStep =>
        textual_of_declare hState hStep)
      hEmpty hDeclared
  exact
    Outcome.foldlM_keeps
      (fun _ _ _ hState hStep =>
        textual_of_addParameters hState hStep)
      hFirst hRest

/- The references that a source declares are textual. -/
theorem textual_of_ofSource
    {read : Value → Except Failure (List UInt8)}
    {source : Source}
    {declarations : Declarations}
    (h : ofSource read source = .ok declarations) :
    declarations.Textual := by
  rw [ofSource, Outcome.bind_eq_ok_iff] at h
  rcases h with ⟨root, _, hElement⟩
  exact textual_of_ofElement hElement

end Declarations

end Keyspaces
