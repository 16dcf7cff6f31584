import Keyspaces.Host
import Keyspaces.Proofs.Setting

/-
  How texts of hosts are refused: for what they say, as faults
  in the configuration, when the default port is an integer.

  Main statements:
    * `Host.failsAs_parseAll`
-/

------------------------------------------------------------
-- Single Hosts
------------------------------------------------------------

namespace Keyspaces

namespace Host

open Outcome Setting

/- A text that spells no integer is a fault in the value. -/
theorem failsAs_toInteger (s : String) :
    FailsAs IsValueFault (Value.toInteger (.text s)) := by
  unfold Value.toInteger
  dsimp only
  unfold Value.ofReading
  split
  · exact .ok _
  · exact .error rfl
  · exact .error rfl

/- The port of a host is an integer or a text. -/
theorem failsAs_portNumber
    {port : Value}
    (hPort :
      (∃ n, port = .int n) ∨ ∃ s, port = .text s) :
    FailsAs IsValueFault (portNumber port) := by
  rcases hPort with ⟨n, rfl⟩ | ⟨s, rfl⟩
  · exact .ok _
  · exact .map _ (failsAs_toInteger s)

/- A host is refused for what its text says. -/
theorem failsAs_parseText
    (host : String)
    (defaultPort : Int) :
    FailsAs (· = .configuration)
      (parseText host (.int defaultPort)) := by
  unfold parseText
  rcases divide host.toList with ⟨address, port⟩
  dsimp only
  refine .bind (.mapError (failsAs_portNumber ?_) ?_) ?_
  · cases port with
    | none => exact Or.inl ⟨defaultPort, rfl⟩
    | some cs => exact Or.inr ⟨String.ofList cs, rfl⟩
  · intro failure hKind
    rw [namePortFault, hKind]
    rfl
  · rintro ⟨found, number⟩ _
    dsimp only
    split
    · exact .error rfl
    · split
      · exact .ok _
      · exact .error rfl

end Host

end Keyspaces

------------------------------------------------------------
-- Lists of Hosts
------------------------------------------------------------

namespace Keyspaces

namespace Host

open Outcome

/- Entries that are texts are refused for what they say. -/
theorem failsAs_parseEntries
    (defaultPort : Int)
    {entries : List Value}
    (hTexts : ∀ entry ∈ entries, ∃ s, entry = .text s) :
    FailsAs (· = .configuration)
      (parseEntries (.int defaultPort) entries) := by
  induction entries with
  | nil => exact .ok []
  | cons entry entries ih =>
      rcases hTexts entry List.mem_cons_self with ⟨s, rfl⟩
      have hRest := ih fun other hOther =>
        hTexts other (List.mem_cons_of_mem _ hOther)
      refine .bind (failsAs_parseText _ defaultPort) ?_
      intro host _
      refine .bind hRest ?_
      intro hosts _
      exact .ok _

/- A list of hosts is refused for what its text says. -/
theorem failsAs_parseAll
    (hosts : String)
    (defaultPort : Int) :
    FailsAs (· = .configuration)
      (parseAll (.text hosts) (.int defaultPort)) := by
  have hEntries :
      entriesOf (.text hosts) =
        .ok (Value.commaSeparated hosts) :=
    rfl
  have hTexts :
      ∀ entry ∈ Value.commaSeparated hosts,
        ∃ s, entry = .text s := by
    intro entry hEntry
    rcases List.mem_map.mp hEntry with ⟨part, _, hPart⟩
    exact ⟨_, hPart.symm⟩
  unfold parseAll
  rw [hEntries]
  split
  · exact .error rfl
  · refine .bind (.ok _) ?_
    intro entries hSame
    cases hSame
    split
    · exact failsAs_parseEntries defaultPort hTexts
    · exact .error rfl

end Host

end Keyspaces
