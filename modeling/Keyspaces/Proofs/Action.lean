import Keyspaces.Application
import Mathlib.Order.Defs.Unbundled

/-
  How actions are performed: one after the other, with
  failures that end them, and what an action as a whole keeps
  when each of its parts keeps it.

  Main statements:
    * `Action.perform_bind`
    * `Action.perform_tryCatch`
    * `Action.Relates.bind`
-/

------------------------------------------------------------
-- Performing Actions
------------------------------------------------------------

namespace Keyspaces

namespace Action

variable {α β : Type}

theorem perform_pure
    (answer : α)
    (app : Application) :
    perform (pure answer : Action α) app =
      (.ok answer, app) :=
  rfl

@[simp]
theorem perform_get (app : Application) :
    perform (get : Action Application) app = (.ok app, app) :=
  rfl

@[simp]
theorem perform_modify
    (change : Application → Application)
    (app : Application) :
    perform (modify change : Action PUnit) app =
      (.ok (), change app) :=
  rfl

@[simp]
theorem perform_ofExcept
    (outcome : Except Failure α)
    (app : Application) :
    perform (ofExcept outcome) app = (outcome, app) := by
  cases outcome <;> rfl

/- What follows an action starts where the action ends. -/
theorem perform_bind
    (action : Action α)
    (next : α → Action β)
    (app : Application) :
    perform (action >>= next) app =
      match perform action app with
      | (.ok answer, after) => perform (next answer) after
      | (.error failure, after) => (.error failure, after) := by
  unfold perform
  simp only [ExceptT.run, bind, ExceptT.bind, ExceptT.mk,
    StateT.bind, StateT.run, ExceptT.bindCont]
  rcases action app with ⟨_ | _, _⟩ <;> rfl

/- A handler starts where the action fails. -/
theorem perform_tryCatch
    (action : Action α)
    (handler : Failure → Action α)
    (app : Application) :
    perform (tryCatch action handler) app =
      match perform action app with
      | (.ok answer, after) => (.ok answer, after)
      | (.error failure, after) =>
          perform (handler failure) after := by
  unfold perform
  simp only [tryCatch, tryCatchThe, MonadExceptOf.tryCatch,
    ExceptT.tryCatch, ExceptT.run, ExceptT.mk, StateT.run,
    bind, StateT.bind]
  rcases action app with ⟨_ | _, _⟩ <;> rfl

/- An action whose answer is dropped ends where it ended. -/
theorem perform_discard
    (action : Action α)
    (app : Application) :
    perform (discard action) app =
      match perform action app with
      | (.ok _, after) => (.ok (), after)
      | (.error failure, after) => (.error failure, after) := by
  have hDiscard :
      discard action = action >>= fun _ => pure PUnit.unit :=
    rfl
  rw [hDiscard, perform_bind]
  rcases perform action app with ⟨_ | _, _⟩ <;> rfl

/- What holds after an action does not need its answer. -/
theorem after_discard
    {motive : Application → Prop}
    {action : Action α}
    {app : Application}
    (hAction : motive (perform action app).2) :
    motive (perform (discard action) app).2 := by
  rw [perform_discard]
  cases hPerform : perform action app with
  | mk outcome after =>
      rw [hPerform] at hAction
      cases outcome <;> exact hAction

/- After an action that answers the rest is performed. -/
theorem perform_bind_of_ok
    {action : Action α}
    {app after : Application}
    {answer : α}
    (h : perform action app = (.ok answer, after))
    (next : α → Action β) :
    perform (action >>= next) app =
      perform (next answer) after := by
  rw [perform_bind, h]

end Action

end Keyspaces

------------------------------------------------------------
-- Calls
------------------------------------------------------------

namespace Keyspaces

/- An application that has logged one more event. -/
def Application.logged
    (app : Application)
    (event : Event) : Application :=
  { app with log := app.log ++ [event] }

namespace Action

@[simp]
theorem perform_write
    (event : Event)
    (app : Application) :
    perform (write event) app = (.ok (), app.logged event) :=
  rfl

/- A call fails when it is one of those that fail. -/
theorem perform_attempt
    (call : Call)
    (app : Application) :
    perform (attempt call) app =
      if app.fleet.faults.failing.contains call then
        (.error call.failure, app)
      else
        (.ok (), app) := by
  unfold attempt
  rw [perform_bind_of_ok (perform_get app)]
  split <;> rfl

/- An attempt to create a cluster counts when it fails. -/
theorem perform_createCluster
    (options : ClusterOptions)
    (app : Application) :
    perform (createCluster options) app =
      let counted := app.withFleet Fleet.countAttempt
      if app.fleet.faults.failing.contains
          (.create app.fleet.attempts) then
        (.error (Call.create app.fleet.attempts).failure,
          counted)
      else
        (.ok app.fleet.clusters.size,
          counted.withFleet (·.addCluster options)) := by
  unfold createCluster
  rw [perform_bind_of_ok (perform_get app),
    perform_bind_of_ok (perform_modify _ _),
    perform_bind, perform_attempt]
  by_cases hFails :
      app.fleet.faults.failing.contains
        (.create app.fleet.attempts) = true
  · simp only [hFails, if_true, Application.withFleet,
      Fleet.countAttempt]
  · simp only [hFails, Application.withFleet,
      Fleet.countAttempt]
    rfl

/- A cluster whose shutdown does not fail is shut down. -/
theorem perform_shutdownCluster
    {cluster : ClusterId}
    {app : Application}
    (hReturns :
      Call.shutdownCluster cluster ∉
        app.fleet.faults.failing) :
    perform (shutdownCluster cluster) app =
      (.ok (), app.withFleet (·.closeCluster cluster)) := by
  unfold shutdownCluster
  rw [perform_bind, perform_attempt]
  simp [hReturns]

/- One whose shutdown fails is left as it is. -/
theorem perform_shutdownCluster_of_fails
    {cluster : ClusterId}
    {app : Application}
    (hFails :
      Call.shutdownCluster cluster ∈
        app.fleet.faults.failing) :
    perform (shutdownCluster cluster) app =
      (.error (Call.shutdownCluster cluster).failure, app) := by
  unfold shutdownCluster
  rw [perform_bind, perform_attempt]
  simp [hFails]

end Action

end Keyspaces

------------------------------------------------------------
-- What Actions Keep
------------------------------------------------------------

namespace Keyspaces

namespace Action

variable {α β : Type}
variable {R : Application → Application → Prop}

/-
  Every application is related to what the action makes of
  it, whether the action answers or fails.
-/
def Relates
    (R : Application → Application → Prop)
    (action : Action α) : Prop :=
  ∀ app, R app (perform action app).2

namespace Relates

theorem modify
    {change : Application → Application}
    (hChange : ∀ app, R app (change app)) :
    Relates R (modify change : Action PUnit) :=
  hChange

theorem write
    {event : Event}
    (hLogged : ∀ app, R app (app.logged event)) :
    Relates R (write event) :=
  hLogged

variable [IsPreorder Application R]

theorem pure (answer : α) :
    Relates R (pure answer : Action α) :=
  fun app => refl_of R app

theorem throw (failure : Failure) :
    Relates R (throw failure : Action α) :=
  fun app => refl_of R app

theorem get : Relates R (get : Action Application) :=
  fun app => refl_of R app

theorem ofExcept (outcome : Except Failure α) :
    Relates R (ofExcept outcome) := by
  intro app
  rw [perform_ofExcept]
  exact refl_of R app

theorem attempt (call : Call) : Relates R (attempt call) := by
  intro app
  rw [perform_attempt]
  split <;> exact refl_of R app

/- Actions in a row keep what each of them keeps. -/
theorem bind
    {action : Action α}
    {next : α → Action β}
    (hAction : Relates R action)
    (hNext : ∀ answer, Relates R (next answer)) :
    Relates R (action >>= next) := by
  intro app
  have hFirst := hAction app
  rw [perform_bind]
  cases hPerform : perform action app with
  | mk outcome after =>
      rw [hPerform] at hFirst
      cases outcome with
      | error failure => exact hFirst
      | ok answer =>
          exact trans_of R hFirst (hNext answer after)

end Relates

end Action

end Keyspaces
