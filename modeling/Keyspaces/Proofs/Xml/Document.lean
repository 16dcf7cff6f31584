import Keyspaces.Proofs.Xml.Prolog
import Keyspaces.Xml.Document

/-
  How the reading of a whole document fails. A document whose
  encoding is fixed is malformed if it cannot be read. Of the
  others those escape that name an encoding whose codec fails.

  Main statements:
    * `Xml.Document.failure_of_parse`
    * `Xml.Document.parse_of_escapes`
    * `Xml.Document.failsAs_parse_fixed`
-/

------------------------------------------------------------
-- Documents That Cannot Be Read
------------------------------------------------------------

namespace Keyspaces

namespace Xml

namespace Document

/-
  A document names an encoding whose codec fails, which is not
  reported as a fault of the document.
-/
def Escapes
    (bytes : List UInt8)
    (failure : Failure) : Prop :=
  ∃ name, Names bytes name ∧ Codec.Fails name failure

/- A document fails to be read as malformed, or it escapes. -/
theorem failure_of_parse
    {bytes : List UInt8}
    {fixed : Bool}
    {failure : Failure}
    (h : parse bytes fixed = .error failure) :
    failure.kind = .configuration ∨
      fixed = false ∧ Escapes bytes failure := by
  unfold parse at h
  cases hProlog : Prolog.read bytes fixed with
  | error found =>
      rw [hProlog] at h
      cases h
      exact Prolog.failure_of_read hProlog
  | ok found =>
      rw [hProlog] at h
      dsimp only [bind, Except.bind] at h
      split at h
      · cases h
      · cases h
        exact Or.inl rfl

/- A document that escapes is not read. -/
theorem parse_of_escapes
    {bytes : List UInt8}
    {failure : Failure}
    (h : Escapes bytes failure) :
    parse bytes false = .error failure := by
  rcases h with ⟨name, hNames, hFails⟩
  unfold parse
  rw [Prolog.read_of_names hNames hFails]
  rfl

/- A document with a fixed encoding can only be malformed. -/
theorem failsAs_parse_fixed (bytes : List UInt8) :
    Outcome.FailsAs (· = .configuration)
      (parse bytes true) := by
  intro failure h
  rcases failure_of_parse h with hKind | ⟨hFree, _⟩
  · exact hKind
  · contradiction

end Document

end Xml

end Keyspaces
