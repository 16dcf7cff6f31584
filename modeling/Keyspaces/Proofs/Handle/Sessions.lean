import Keyspaces.Proofs.Handle.Attachment
import Keyspaces.Proofs.Run

/-
  The sessions that a handle opens along a run. Of these at
  most one is open, which is the current one of the handle,
  and what the handle answers when a query is prepared was
  prepared on it. Sessions may be shut down from outside and
  calls may fail in between.

  Main declarations:
    * `Application.Attached.perform`
    * `Application.Attached.run`
    * `Handle.Attends`
    * `Handle.attends_run`
-/

------------------------------------------------------------
-- What Leaves Handles Alone
------------------------------------------------------------

namespace Keyspaces

namespace Registry

open Keyspaces.Action Application

/- Asking for a cluster leaves handles and sessions alone. -/
theorem Obtained.idle
    {app : Application}
    {id : RegistryId}
    {name : String}
    {configurator : Configurator}
    {outcome : Except Failure ClusterId × Application}
    (hObtained : Obtained app id name configurator outcome) :
    Idle app outcome.2 := by
  cases hObtained <;> exact .of_same rfl rfl rfl

theorem idle_getOrCreate
    (id : RegistryId)
    (name : String)
    (configurator : Configurator) :
    Relates Idle (getOrCreate id name configurator) :=
  fun app =>
    (obtained_getOrCreate app id name configurator).idle

/- A shutdown leaves handles and sessions alone. -/
theorem idle_shutdown
    (id : RegistryId)
    (name : Option String) :
    Relates Idle (shutdown id name) :=
  relates_shutdown
    (fun _ => .of_same rfl rfl rfl)
    (fun _ _ => .of_same rfl rfl rfl)
    (fun _ _ => .of_same rfl rfl rfl)

end Registry

namespace KeyspaceFactory

open Keyspaces.Action Application

/- Rolling back leaves handles and sessions alone. -/
theorem idle_rollBack
    (registry : RegistryId)
    (name : String)
    (cluster : ClusterId)
    (existing : Option ClusterId) :
    Relates Idle
      (rollBack registry name cluster existing) := by
  refine .bind (.bind .get fun app => .pure _) ?_
  intro registered
  split
  · exact Registry.idle_shutdown registry (some name)
  · exact .pure _

end KeyspaceFactory

namespace Context

open Keyspaces.Action Application

/- Binding a name leaves handles and sessions alone. -/
theorem idle_bind
    (id : ContextId)
    (name : String)
    (value : Value) :
    Relates Idle (bind id name value) := by
  intro app
  rw [perform_bind_eq]
  split
  · exact .refl app
  · exact .of_same rfl rfl rfl

/- Loading declarations leaves handles and sessions alone. -/
theorem idle_load
    (id : ContextId)
    (declared : Except Failure Declarations) :
    Relates Idle (load id declared) := by
  intro app
  refine keeps_load (P := Idle app) ?_ ?_ declared app (.refl app)
  · intro name value before h
    exact h.trans (idle_bind id name value before)
  · intro names before h
    exact h.trans (.of_same rfl rfl rfl)

/- Finding a factory leaves handles and sessions alone. -/
theorem Furnished.idle
    {importer : Importer}
    {id : ContextId}
    {name : String}
    {reference : Reference}
    {app : Application}
    {occurrences : List Occurrence}
    {outcome : Except Failure FactoryId × Application}
    (h :
      Furnished importer id name reference app occurrences
        outcome) :
    Idle app outcome.2 := by
  cases h with
  | made _ _ _ _ _ => exact .of_same rfl rfl rfl
  | _ => exact .refl app

end Context

namespace Holder

open Application

/- Another configuration leaves handles and sessions alone. -/
theorem idle_reconfigure
    (holder : Holder)
    (conf : Config)
    (app : Application) :
    Idle app (holder.reconfigure app conf) := by
  cases holder with
  | registry id => exact .of_same rfl rfl rfl
  | factory id =>
      rw [reconfigure]
      cases app.factories.get id <;> exact .of_same rfl rfl rfl
  | context id => exact .of_same rfl rfl rfl

end Holder

end Keyspaces

------------------------------------------------------------
-- Resolving and Looking Up
------------------------------------------------------------

namespace Keyspaces

namespace Application

variable {opened : HandleId → SessionId → Prop}

/-
  No more is opened while it is idle before a session is made
  and afterwards.
-/
theorem Attached.openedBetween
    {user : HandleId}
    {before first last after : Application}
    (h : Attached (openedAfter opened user first last) last)
    (hFirst :
      first.fleet.sessions.size =
        before.fleet.sessions.size)
    (hLast : Idle last after) :
    Attached (openedAfter opened user before after) after := by
  apply (h.of_idle hLast).congr
  intro id session
  unfold openedAfter Makes
  rw [hFirst, hLast.handles, hLast.sessionCount]

/- A handle is connected after it is made. -/
theorem Attached.connectNew
    {app after ready : Application}
    {keyspace : Option String}
    {cluster : ClusterId}
    {answer : Except Failure SessionId}
    (h : Attached opened app)
    (hIdle : Idle app after)
    (hConnect :
      (Handle.connect after.handles.size).perform
          (after.withHandle keyspace cluster) =
        (answer, ready)) :
    Attached
      (openedAfter opened app.handles.size app ready)
      ready := by
  have hNew := (h.of_idle hIdle).withHandle keyspace cluster
  have hReady :=
    Handle.attached_connect after.handles.size hNew
  rw [hConnect] at hReady
  rw [← hIdle.handles]
  exact hReady.openedBetween hIdle.sessionCount (.refl _)

end Application

namespace KeyspaceFactory

open Keyspaces.Action Application

variable {opened : HandleId → SessionId → Prop}

/- Resolving a reference keeps handles attached. -/
theorem Configured.attached
    {app : Application}
    {id : FactoryId}
    {factory : KeyspaceFactory}
    {reference : Reference}
    {name : Option String}
    {outcome : Except Failure HandleId × Application}
    (hConfigured :
      Configured app id factory reference name outcome)
    (h : Attached opened app) :
    Attached
      (openedAfter opened app.handles.size app outcome.2)
      outcome.2 := by
  have hObtained : ∀ {name configurator answer after},
      (Registry.getOrCreate factory.registry name
            configurator).perform app =
          (answer, after) →
        Idle app after := by
    intro name configurator answer after hPerform
    have hIdle :=
      Registry.idle_getOrCreate factory.registry name
        configurator app
    rwa [hPerform] at hIdle
  have hUndone :
      ∀ {cluster existing answer} {name : String}
        {failed undone : Application},
        (rollBack factory.registry name cluster
              existing).perform failed =
            (answer, undone) →
          Idle failed undone := by
    intro cluster existing answer name failed undone hPerform
    have hIdle :=
      idle_rollBack factory.registry name cluster existing
        failed
    rwa [hPerform] at hIdle
  cases hConfigured with
  | unread _ => exact h.unopened _ rfl
  | unavailable _ hObtain =>
      have hIdle := hObtained hObtain
      exact (h.of_idle hIdle).unopened _ hIdle.sessionCount
  | undecided _ hObtain _ =>
      have hIdle := hObtained hObtain
      exact
        ((h.of_idle hIdle).withHandle _ _).unopened _
          hIdle.sessionCount
  | unreachable _ hObtain _ _ hConnect hUndo =>
      have hReady := h.connectNew (hObtained hObtain) hConnect
      exact hReady.openedBetween rfl (hUndone hUndo)
  | stuck _ hObtain _ _ hConnect hUndo =>
      have hReady := h.connectNew (hObtained hObtain) hConnect
      exact hReady.openedBetween rfl (hUndone hUndo)
  | @resolved resource cluster after ready _ _ hObtain _
      hReady =>
      have hIdle := hObtained hObtain
      rcases hReady with ⟨_, rfl⟩ | ⟨_, session, hConnect⟩
      · let new :=
          after.withHandle (some resource.keyspaceName) cluster
        have hNew : Attached opened new :=
          (h.of_idle hIdle).withHandle _ _
        have hReady :
            Attached
              (openedAfter opened app.handles.size app new)
              new :=
          hNew.unopened _ hIdle.sessionCount
        exact hReady.openedBetween rfl (.of_same rfl rfl rfl)
      · have hReady := h.connectNew hIdle hConnect
        exact hReady.openedBetween rfl (.of_same rfl rfl rfl)

end KeyspaceFactory

namespace Factory

open Keyspaces.Action Application

variable {opened : HandleId → SessionId → Prop}

/- Resolving a value keeps handles attached. -/
theorem attached_resolve
    {app : Application}
    (id : FactoryId)
    (value : Value)
    (name : Option String)
    (context : Option ContextId)
    (h : Attached opened app) :
    Attached
      (openedAfter opened app.handles.size app
        ((resolve id value name context).perform app).2)
      ((resolve id value name context).perform app).2 := by
  have hAsked := asked_resolve app id value name context
  generalize (resolve id value name context).perform app =
    outcome at *
  cases hAsked with
  | keyspaces _ hAnswered =>
      cases hAnswered with
      | unfit _ => exact h.unopened _ rfl
      | known _ _ => exact h.unopened _ rfl
      | configured _ _ hConfigured =>
          exact hConfigured.attached h
  | @recorder recorder _ _ =>
      have hCounted : Idle app (counted app id recorder) :=
        .of_same rfl rfl rfl
      exact (h.of_idle hCounted).unopened _ rfl
  | inert _ => exact h.unopened _ rfl

end Factory

namespace Context

open Keyspaces.Action Application

variable {opened : HandleId → SessionId → Prop}

/- Looking a name up keeps handles attached. -/
theorem attached_lookup
    {app : Application}
    (importer : Importer)
    (id : ContextId)
    (name : String)
    (h : Attached opened app) :
    Attached
      (openedAfter opened app.handles.size app
        ((lookup importer id name).perform app).2)
      ((lookup importer id name).perform app).2 := by
  rcases answered_lookup importer id name app with
    ⟨occurrences, hAnswered⟩
  generalize (lookup importer id name).perform app = outcome
    at *
  cases hAnswered with
  | unbound _ => exact h.unopened _ rfl
  | plain _ _ => exact h.unopened _ rfl
  | unfurnished _ _ hFurnished =>
      have hIdle := hFurnished.idle
      exact (h.of_idle hIdle).unopened _ hIdle.sessionCount
  | @asked value _ _ factory _ _ _ hFurnished =>
      have hIdle := hFurnished.idle
      have hResolved :=
        Factory.attached_resolve factory value (some name)
          (some id) (h.of_idle hIdle)
      rw [hIdle.handles] at hResolved
      exact hResolved.openedBetween hIdle.sessionCount (.refl _)

end Context

end Keyspaces

------------------------------------------------------------
-- Steps and Runs
------------------------------------------------------------

namespace Keyspaces

open Application

namespace Operation

/-
  The handle that an operation may open a session for: the one
  that is used, or the next one that is made.
-/
def user? (app : Application) :
    Operation → Option HandleId
| .connect handle => some handle
| .execute handle _ _ _ => some handle
| .prepare handle _ => some handle
| .resolve _ _ _ _ => some app.handles.size
| .lookup _ _ => some app.handles.size
| _ => none

/-
  No shutdown of a session starts to fail, and no query gets
  to be without a statement.
-/
def SessionsReturn : Operation → Prop
| .setFaults faults => faults.SessionsReturn
| _ => True

/- Other operations leave sessions as they are, or close one. -/
theorem attached_of_user?_eq_none
    (importer : Importer)
    {operation : Operation}
    {app : Application}
    {opened : HandleId → SessionId → Prop}
    (hReturns : operation.SessionsReturn)
    (hUser : operation.user? app = none)
    (h : Attached opened app) :
    Attached opened (operation.perform importer app) := by
  cases operation with
  | getOrCreate registry name configurator =>
      exact
        Action.after_discard (motive := Attached opened)
          (h.of_idle
            (Registry.idle_getOrCreate registry name
              configurator app))
  | shutdownClusters registry name =>
      exact
        h.of_idle (Registry.idle_shutdown registry name app)
  | bind context name value =>
      exact h.of_idle (Context.idle_bind context name value app)
  | load context declared =>
      exact
        Action.after_discard (motive := Attached opened)
          (h.of_idle (Context.idle_load context declared app))
  | createHandle name cluster => exact h.withHandle name cluster
  | shutdownHandle handle => exact Handle.attached_shutdown handle h
  | closeSession session => exact h.of_idle (.closeSession app session)
  | setFaults faults => exact { h with returns := hReturns }
  | connect handle => contradiction
  | execute handle query arguments named => contradiction
  | prepare handle query => contradiction
  | resolve factory value name context => contradiction
  | lookup context name => contradiction
  | _ => exact h.of_idle (.of_same rfl rfl rfl)

/- An operation opens sessions for one handle only. -/
theorem attached_of_user?_eq_some
    (importer : Importer)
    {operation : Operation}
    {app : Application}
    {opened : HandleId → SessionId → Prop}
    {user : HandleId}
    (hUser : operation.user? app = some user)
    (h : Attached opened app) :
    Attached
      (openedAfter opened user app
        (operation.perform importer app))
      (operation.perform importer app) := by
  let motive := fun after =>
    Attached (openedAfter opened user app after) after
  cases operation with
  | connect handle =>
      cases hUser
      exact
        Action.after_discard (motive := motive)
          (Handle.attached_connect user h)
  | execute handle query arguments named =>
      cases hUser
      exact
        Action.after_discard (motive := motive)
          (Handle.attached_execute user query arguments named
            h)
  | prepare handle query =>
      cases hUser
      exact
        Action.after_discard (motive := motive)
          (Handle.attached_prepare user query h)
  | resolve factory value name context =>
      cases hUser
      exact
        Action.after_discard (motive := motive)
          (Factory.attached_resolve factory value name context
            h)
  | lookup context name =>
      cases hUser
      exact
        Action.after_discard (motive := motive)
          (Context.attached_lookup importer context name h)
  | _ => contradiction

/-
  A session was made by an operation for a handle that is
  there afterwards.
-/
def Opens
    (importer : Importer)
    (app : Application)
    (id : HandleId)
    (session : SessionId)
    (operation : Operation) : Prop :=
  operation.user? app = some id ∧
    id < (operation.perform importer app).handles.size ∧
      Makes app (operation.perform importer app) session

/- Operations keep handles attached to what was opened. -/
theorem attached_perform
    (importer : Importer)
    {operation : Operation}
    {app : Application}
    {opened : HandleId → SessionId → Prop}
    (hReturns : operation.SessionsReturn)
    (h : Attached opened app) :
    Attached
      (fun id session =>
        opened id session ∨
          operation.Opens importer app id session)
      (operation.perform importer app) := by
  cases hUser : operation.user? app with
  | none =>
      have hAfter :=
        attached_of_user?_eq_none importer hReturns hUser h
      apply hAfter.congr
      intro id session
      simp [Opens, hUser]
  | some user =>
      have hAfter :=
        attached_of_user?_eq_some importer hUser h
      apply hAfter.congr
      intro id session
      simp [openedAfter, Opens, hUser, eq_comm]

end Operation

namespace Step

/- A session was made by a step for a handle. -/
def Opens
    (app : Application)
    (id : HandleId)
    (session : SessionId) : Step → Prop
| .operation importer done =>
    done.Opens importer app id session
| .reconfigure _ _ => False

/- Sessions go on to return after a step. -/
def SessionsReturn : Step → Prop
| .operation _ done => done.SessionsReturn
| .reconfigure _ _ => True

/- Steps keep handles attached to what was opened. -/
theorem attached_perform
    {step : Step}
    {app : Application}
    {opened : HandleId → SessionId → Prop}
    (hReturns : step.SessionsReturn)
    (h : Attached opened app) :
    Attached
      (fun id session =>
        opened id session ∨ step.Opens app id session)
      (step.perform app) := by
  cases step with
  | operation importer done =>
      exact done.attached_perform importer hReturns h
  | reconfigure holder conf =>
      have hAfter :=
        h.of_idle (holder.idle_reconfigure conf app)
      apply hAfter.congr
      intro id session
      simp [Opens]

end Step

namespace Application

/- A session was made for a handle during some steps. -/
def Opened
    (app : Application)
    (id : HandleId)
    (session : SessionId) : List Step → Prop
| [] => False
| step :: steps =>
    step.Opens app id session ∨
      (step.perform app).Opened id session steps

/- Runs keep handles attached to what was opened. -/
theorem Attached.run
    {app : Application}
    {opened : HandleId → SessionId → Prop}
    {steps : List Step}
    (hReturns : ∀ step ∈ steps, step.SessionsReturn)
    (h : Attached opened app) :
    Attached
      (fun id session =>
        opened id session ∨ app.Opened id session steps)
      (app.run steps) := by
  induction steps generalizing opened app with
  | nil =>
      apply h.congr
      intro id session
      simp [Opened]
  | cons step steps ih =>
      have hFirst :=
        step.attached_perform
          (hReturns step List.mem_cons_self) h
      have hRest :=
        ih
          (fun other hOther =>
            hReturns other (List.mem_cons_of_mem _ hOther))
          hFirst
      apply hRest.congr
      intro id session
      exact or_assoc

end Application

end Keyspaces

------------------------------------------------------------
-- What Handles Answer
------------------------------------------------------------

namespace Keyspaces

namespace Handle

open Application

/-
  Of the sessions that a handle opened at most one is open,
  which is its current one, and the statements that it keeps
  were prepared on its current session. When a query is
  prepared, what is answered is a statement that was prepared
  for it on the session that is open and current then. It is
  answered unless the handle cannot be connected or preparing
  the query fails. No query was prepared twice on a session
  that the handle opened.
-/
structure Attends
    (id : HandleId)
    (opened : SessionId → Prop)
    (app : Application) : Prop where
  single :
    ∀ session other, opened session → opened other →
      app.fleet.isOpen session = true →
        app.fleet.isOpen other = true →
          session = other
  live :
    ∀ session, opened session →
      app.fleet.isOpen session = true →
        (app.handles.get id).session = some session
  own :
    ∀ session,
      (app.handles.get id).session = some session →
        opened session
  cached :
    ∀ query statement,
      (app.handles.get id).statements.get? query =
          some statement →
        (app.handles.get id).session =
            some statement.session ∧
          statement.query = query ∧
            app.fleet.HasPrepared statement
  answered :
    ∀ query answer after,
      (prepare id query).perform app = (.ok answer, after) →
        ∃ statement,
          answer = some statement ∧
            statement.query = query ∧
              after.fleet.HasPrepared statement ∧
                (after.handles.get id).session =
                    some statement.session ∧
                  after.fleet.isOpen statement.session = true
  answers :
    ∀ query,
      Call.connect (app.handles.get id).cluster ∉
          app.fleet.faults.failing →
        Call.prepare query ∉ app.fleet.faults.failing →
          ∃ answer after,
            (prepare id query).perform app =
              (.ok answer, after)
  once :
    ∀ session, opened session →
      (app.fleet.sessions.get session).prepared.Nodup

/- A handle attends to its sessions along every run. -/
theorem attends_run
    (conf : Config)
    {faults : Faults}
    {steps : List Step}
    (hFaults : faults.SessionsReturn)
    (hSteps : ∀ step ∈ steps, step.SessionsReturn)
    {id : HandleId}
    (hMade : id < ((start conf faults).run steps).handles.size) :
    Attends id
      (fun session =>
        (start conf faults).Opened id session steps)
      ((start conf faults).run steps) := by
  have hRun := (attached_start conf hFaults).run hSteps
  generalize hApp : (start conf faults).run steps = app at *
  constructor
  case single =>
    intro session other hOpened hOther hOpen hAlso
    have hSession :=
      hRun.live id session (Or.inr hOpened) hOpen
    have hSame := hRun.live id other (Or.inr hOther) hAlso
    exact Option.some.inj (hSession.symm.trans hSame)
  case live =>
    intro session hOpened hOpen
    exact hRun.live id session (Or.inr hOpened) hOpen
  case own =>
    intro session hSession
    exact
      (hRun.own id session hMade hSession).resolve_left
        not_false
  case cached => exact hRun.cached id
  case answered =>
    intro query answer after hPrepare
    exact answered_prepare hRun hPrepare
  case answers =>
    intro query hConnects hPrepares
    exact
      exists_prepare_eq_ok (hRun.returns.prepared query)
        hConnects hPrepares
  case once =>
    intro session _
    exact hRun.once session

namespace Sample

/-
  A handle gets a session, which is shut down, and the next
  one when a query is prepared again. Then connecting and
  preparing fail.
-/
def replacing : List Step :=
  [.operation ⟨[]⟩ (.createHandle (some "k") 0),
   .operation ⟨[]⟩ (.prepare 0 "q"),
   .operation ⟨[]⟩ (.closeSession 0),
   .operation ⟨[]⟩ (.prepare 0 "q"),
   .operation ⟨[]⟩
     (.setFaults ⟨[.connect 0, .prepare "p"], []⟩),
   .operation ⟨[]⟩ (.prepare 0 "p")]

end Sample

/- Two sessions are opened, of which the second is open. -/
theorem attends_sample :
    let app := (start .empty .none).run Sample.replacing
    let opened := fun session =>
      (start .empty .none).Opened 0 session Sample.replacing
    Attends 0 opened app ∧
      opened 0 ∧ opened 1 ∧
        app.fleet.isOpen 0 = false ∧
          app.fleet.isOpen 1 = true := by
  have hFaults : Faults.none.SessionsReturn := by
    constructor <;> simp [Faults.none]
  have hSteps :
      ∀ step ∈ Sample.replacing, step.SessionsReturn := by
    simp [Sample.replacing, Step.SessionsReturn,
      Operation.SessionsReturn]
    constructor <;> simp
  have hMade :
      0 < ((start .empty .none).run
        Sample.replacing).handles.size :=
    Nat.one_pos
  have hFirst :
      (start .empty .none).Opened 0 0 Sample.replacing :=
    .inr (.inl ⟨rfl, Nat.one_pos, Nat.le_refl 0, Nat.one_pos⟩)
  have hSecond :
      (start .empty .none).Opened 0 1 Sample.replacing :=
    .inr (.inr (.inr (.inl
      ⟨rfl, Nat.one_pos, Nat.le_refl 1, Nat.one_lt_two⟩)))
  exact
    ⟨attends_run .empty hFaults hSteps hMade, hFirst, hSecond,
      rfl, rfl⟩

end Handle

end Keyspaces
