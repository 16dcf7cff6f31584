import Keyspaces.Configurator
import Keyspaces.Proofs.Table

/-
  What an option is after options were set in order: the value
  it was set to last, or what it was before.

  Main statements:
    * `Configurator.option_setAll_eq`
-/

namespace Keyspaces

namespace Configurator

/- Setting options leaves the hosts as they are. -/
@[simp]
theorem hosts_setAll
    (configurator : Configurator)
    (options : List (HostOption × Value)) :
    (configurator.setAll options).hosts =
      configurator.hosts := by
  induction options generalizing configurator with
  | nil => rfl
  | cons entry options ih =>
      exact ih (configurator.set entry.1 entry.2)

/- An option is what it was set to last, or as before. -/
theorem option_setAll_eq
    (configurator : Configurator)
    (options : List (HostOption × Value))
    (option : HostOption) :
    (configurator.setAll options).option option =
      (Entries.last? option options).getD
        (configurator.option option) := by
  induction options generalizing configurator with
  | nil => rfl
  | cons entry options ih =>
      have hRest := ih (configurator.set entry.1 entry.2)
      refine hRest.trans ?_
      rw [← List.singleton_append, Entries.last?_append]
      cases Entries.last? option options with
      | some value => rfl
      | none =>
          by_cases hOption : option = entry.1
          · simp [set, Entries.last?, Entries.value?, hOption]
          · have hOther : entry.1 ≠ option := Ne.symm hOption
            simp [set, Entries.last?, Entries.value?, hOption,
              hOther]

end Configurator

end Keyspaces
