import Keyspaces.Failure

/-
  Outcomes: what a computation that may fail answers, taken
  apart step by step, and the kind of its failures.

  Main statements:
    * `Outcome.bind_eq_ok_iff`
    * `Outcome.bind_eq_error_iff`
    * `Outcome.Matches`
    * `Outcome.FailsAs.bind`
-/

------------------------------------------------------------
-- Answers
------------------------------------------------------------

namespace Keyspaces

namespace Outcome

variable {α β : Type}

/- Steps in a row answer when each of them does. -/
theorem bind_eq_ok_iff
    (outcome : Except Failure α)
    (next : α → Except Failure β)
    (answer : β) :
    (outcome >>= next) = .ok answer ↔
      ∃ first, outcome = .ok first ∧
        next first = .ok answer := by
  cases outcome with
  | error failure => simp [bind, Except.bind]
  | ok first => simp [bind, Except.bind]

/- What an answer is mapped to is the answer. -/
theorem map_eq_ok_iff
    (change : α → β)
    (outcome : Except Failure α)
    (answer : β) :
    outcome.map change = .ok answer ↔
      ∃ first, outcome = .ok first ∧
        change first = answer := by
  cases outcome with
  | error failure => simp [Except.map]
  | ok first => simp [Except.map]

/- Changing the failures of a step keeps its answers. -/
theorem mapError_eq_ok_iff
    (change : Failure → Failure)
    (outcome : Except Failure α)
    (answer : α) :
    outcome.mapError change = .ok answer ↔
      outcome = .ok answer := by
  cases outcome with
  | error failure =>
      exact iff_of_false (fun h => nomatch h) (fun h => nomatch h)
  | ok first => exact Iff.rfl

/- What each step of a fold keeps, the fold keeps. -/
theorem foldlM_keeps
    {P : β → Prop}
    {step : β → α → Except Failure β}
    (hStep :
      ∀ state item next, P state →
        step state item = .ok next → P next)
    {items : List α}
    {state final : β}
    (hState : P state)
    (hFold : items.foldlM step state = .ok final) :
    P final := by
  induction items generalizing state with
  | nil =>
      cases hFold
      exact hState
  | cons item items ih =>
      rw [List.foldlM_cons, bind_eq_ok_iff] at hFold
      rcases hFold with ⟨next, hNext, hRest⟩
      exact ih (hStep state item next hState hNext) hRest

end Outcome

end Keyspaces

------------------------------------------------------------
-- Two Outcomes
------------------------------------------------------------

namespace Keyspaces

namespace Outcome

variable {ε α β : Type}

/-
  Two outcomes match when both fail for the same reason or
  both answer and the answers are related.
-/
inductive Matches
    (related : α → β → Prop) :
    Except ε α → Except ε β → Prop
| ok
    {first : α}
    {second : β}
    (hRelated : related first second) :
    Matches related (.ok first) (.ok second)
| error (failure : ε) :
    Matches related (.error failure) (.error failure)

/- When one of two outcomes that match answers, both do. -/
theorem Matches.exists_ok
    {related : α → β → Prop}
    {first : α}
    {outcome : Except ε β}
    (h : Matches related (.ok first) outcome) :
    ∃ second, outcome = .ok second ∧
      related first second := by
  cases h with
  | ok hRelated => exact ⟨_, rfl, hRelated⟩

end Outcome

end Keyspaces

------------------------------------------------------------
-- Kinds of Failures
------------------------------------------------------------

namespace Keyspaces

namespace Outcome

variable {α β : Type}

/- If there is a failure, it is of one of some kinds. -/
def FailsAs
    (kinds : Failure.Kind → Prop)
    (outcome : Except Failure α) : Prop :=
  ∀ failure, outcome = .error failure → kinds failure.kind

namespace FailsAs

variable {kinds : Failure.Kind → Prop}

theorem ok (answer : α) :
    FailsAs kinds (.ok answer : Except Failure α) := by
  intro failure h
  contradiction

theorem error
    {failure : Failure}
    (hKind : kinds failure.kind) :
    FailsAs kinds (.error failure : Except Failure α) := by
  intro other h
  cases h
  exact hKind

/- Steps in a row fail as each of them does. -/
theorem bind
    {outcome : Except Failure α}
    {next : α → Except Failure β}
    (hOutcome : FailsAs kinds outcome)
    (hNext :
      ∀ answer, outcome = .ok answer →
        FailsAs kinds (next answer)) :
    FailsAs kinds (outcome >>= next) := by
  cases outcome with
  | error failure =>
      exact error (hOutcome failure rfl)
  | ok answer => exact hNext answer rfl

theorem map
    {outcome : Except Failure α}
    (change : α → β)
    (hOutcome : FailsAs kinds outcome) :
    FailsAs kinds (outcome.map change) := by
  cases outcome with
  | error failure =>
      exact error (hOutcome failure rfl)
  | ok answer => exact ok (change answer)

/- Each failure is changed to one of the kinds. -/
theorem mapError
    {sources : Failure.Kind → Prop}
    {change : Failure → Failure}
    {outcome : Except Failure α}
    (hOutcome : FailsAs sources outcome)
    (hChange :
      ∀ failure, sources failure.kind →
        kinds (change failure).kind) :
    FailsAs kinds (outcome.mapError change) := by
  cases outcome with
  | error failure =>
      exact error (hChange failure (hOutcome failure rfl))
  | ok answer => exact ok answer

/- A fold fails as each of its steps does. -/
theorem foldlM
    {step : β → α → Except Failure β}
    (hStep :
      ∀ state item, FailsAs kinds (step state item))
    (items : List α)
    (state : β) :
    FailsAs kinds (items.foldlM step state) := by
  induction items generalizing state with
  | nil => exact ok state
  | cons item items ih =>
      rw [List.foldlM_cons]
      exact bind (hStep state item) fun next _ => ih next

end FailsAs

end Outcome

end Keyspaces
