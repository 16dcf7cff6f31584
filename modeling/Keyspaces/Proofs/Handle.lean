import Keyspaces.Handle
import Keyspaces.Proofs.History

/-
  What using a handle comes to, and what it leaves alone: the
  clusters, what is registered, the factories and contexts,
  and the name and cluster of every handle.

  Main statements:
    * `Handle.connected_connect`
    * `Handle.steady_execute`
    * `Handle.steady_prepare`
    * `Handle.steady_shutdown`
-/

------------------------------------------------------------
-- What Using a Handle Leaves Alone
------------------------------------------------------------

namespace Keyspaces

namespace Application

/-
  Apart from sessions, the statements prepared on them and
  events that are no part of the history, nothing changed.
-/
structure Steady (before after : Application) : Prop where
  conf : after.conf = before.conf
  clusters : after.fleet.clusters = before.fleet.clusters
  faults : after.fleet.faults = before.fleet.faults
  attempts : after.fleet.attempts = before.fleet.attempts
  registries : after.registries = before.registries
  factories : after.factories = before.factories
  contexts : after.contexts = before.contexts
  handleCount : after.handles.size = before.handles.size
  handleName :
    ∀ id,
      (after.handles.get id).name =
        (before.handles.get id).name
  handleCluster :
    ∀ id,
      (after.handles.get id).cluster =
        (before.handles.get id).cluster
  created :
    ∀ registry cluster name,
      after.Created registry cluster name ↔
        before.Created registry cluster name
  resolved :
    ∀ registry name handle,
      after.Resolved registry name handle ↔
        before.Resolved registry name handle

namespace Steady

theorem refl (app : Application) : Steady app app := by
  constructor <;> intros <;> rfl

theorem trans
    {first second third : Application}
    (hFirst : Steady first second)
    (hSecond : Steady second third) :
    Steady first third where
  conf := hSecond.conf.trans hFirst.conf
  clusters := hSecond.clusters.trans hFirst.clusters
  faults := hSecond.faults.trans hFirst.faults
  attempts := hSecond.attempts.trans hFirst.attempts
  registries := hSecond.registries.trans hFirst.registries
  factories := hSecond.factories.trans hFirst.factories
  contexts := hSecond.contexts.trans hFirst.contexts
  handleCount :=
    hSecond.handleCount.trans hFirst.handleCount
  handleName := fun id =>
    (hSecond.handleName id).trans (hFirst.handleName id)
  handleCluster := fun id =>
    (hSecond.handleCluster id).trans
      (hFirst.handleCluster id)
  created := fun registry cluster name =>
    (hSecond.created registry cluster name).trans
      (hFirst.created registry cluster name)
  resolved := fun registry name handle =>
    (hSecond.resolved registry name handle).trans
      (hFirst.resolved registry name handle)

instance : IsPreorder Application Steady where
  refl := refl
  trans _ _ _ := trans

/- A connection that is tried is no part of the history. -/
theorem logged_connecting
    (app : Application)
    (keyspace : Option String) :
    Steady app (app.logged (.connecting keyspace)) := by
  constructor
  case created =>
    intro registry cluster name
    simp [created_logged_iff]
  case resolved =>
    intro registry name handle
    simp [resolved_logged_iff]
  all_goals intros; rfl

/- Sessions may change. -/
theorem withSessions
    (app : Application)
    (sessions : Pool Session) :
    Steady app
      (app.withFleet ({ · with sessions := sessions })) := by
  constructor <;> intros <;> rfl

/- The session of a handle and its statements may change. -/
theorem setHandle
    (app : Application)
    (id : HandleId)
    (session : Option SessionId)
    (statements : Table String Statement) :
    Steady app
      (app.setHandle id
        { app.handles.get id with
          session := session
          statements := statements }) := by
  have hHandle : ∀ other,
      ((app.setHandle id
        { app.handles.get id with
          session := session
          statements := statements }).handles.get other).name =
          (app.handles.get other).name ∧
        ((app.setHandle id
          { app.handles.get id with
            session := session
            statements := statements }).handles.get
              other).cluster =
          (app.handles.get other).cluster := by
    intro other
    unfold Application.setHandle
    by_cases hOther : other = id
    · subst other
      simp
    · simp [Pool.get_set_of_ne, hOther]
  constructor
  case handleName => exact fun other => (hHandle other).1
  case handleCluster => exact fun other => (hHandle other).2
  all_goals intros; rfl

end Steady

end Application

end Keyspaces

------------------------------------------------------------
-- Calls to Sessions
------------------------------------------------------------

namespace Keyspaces

/- Only sessions changed. -/
def Application.SessionsOnly
    (before after : Application) : Prop :=
  ∃ sessions,
    after =
      before.withFleet ({ · with sessions := sessions })

namespace Application.SessionsOnly

theorem refl (app : Application) : SessionsOnly app app :=
  ⟨app.fleet.sessions, rfl⟩

theorem trans
    {first second third : Application}
    (hFirst : SessionsOnly first second)
    (hSecond : SessionsOnly second third) :
    SessionsOnly first third := by
  rcases hFirst with ⟨sessions, rfl⟩
  rcases hSecond with ⟨later, rfl⟩
  exact ⟨later, rfl⟩

instance : IsPreorder Application SessionsOnly where
  refl := refl
  trans _ _ _ := trans

theorem steady
    {before after : Application}
    (h : SessionsOnly before after) :
    Application.Steady before after := by
  rcases h with ⟨sessions, rfl⟩
  exact .withSessions before sessions

theorem handles
    {before after : Application}
    (h : SessionsOnly before after) :
    after.handles = before.handles := by
  rcases h with ⟨sessions, rfl⟩
  rfl

end Application.SessionsOnly

namespace Action

open Application

/- Executing a query changes sessions only. -/
theorem sessionsOnly_executeOn
    (session : SessionId)
    (query : String)
    (arguments : List Value)
    (named : List (String × Value)) :
    Relates SessionsOnly
      (executeOn session query arguments named) := by
  unfold executeOn
  refine .bind (.attempt _) ?_
  intro _
  refine .bind (.modify fun app => ⟨_, rfl⟩) ?_
  intro _
  exact .pure _

/- Preparing a query changes sessions only. -/
theorem sessionsOnly_prepareOn
    (session : SessionId)
    (query : String) :
    Relates SessionsOnly (prepareOn session query) := by
  unfold prepareOn
  refine .bind (.attempt _) ?_
  intro _
  refine .bind (.modify fun app => ⟨_, rfl⟩) ?_
  intro _
  refine .bind .get ?_
  intro app
  split <;> exact .pure _

/- Shutting a session down changes sessions only. -/
theorem sessionsOnly_shutdownSession
    (session : SessionId) :
    Relates SessionsOnly (shutdownSession session) := by
  unfold shutdownSession
  refine .bind (.attempt _) ?_
  intro _
  exact .modify fun app => ⟨_, rfl⟩

end Action

end Keyspaces

------------------------------------------------------------
-- Using Handles
------------------------------------------------------------

namespace Keyspaces

namespace Handle

open Keyspaces.Action Application

/- The application in which a handle got a new session. -/
def connectedAs
    (app : Application)
    (id : HandleId) : Application :=
  let handle := app.handles.get id
  (((app.logged (.connecting handle.name)).withFleet
    (·.addSession (.start handle.cluster handle.name))).setHandle
      id
      { handle with
        session := some app.fleet.sessions.size
        statements := .empty })

/-
  How connecting a handle ends: its session is still open, or
  the cluster cannot be connected with, or it gets a new
  session.
-/
inductive Connected
    (app : Application)
    (id : HandleId) :
    Except Failure SessionId × Application → Prop
| reused
    {session : SessionId}
    (hOpen :
      (app.handles.get id).openSession? app.fleet =
        some session) :
    Connected app id (.ok session, app)
| refused
    (hClosed :
      (app.handles.get id).openSession? app.fleet = none)
    (hFails :
      Call.connect (app.handles.get id).cluster ∈
        app.fleet.faults.failing) :
    Connected app id
      (.error
          (Call.connect (app.handles.get id).cluster).failure,
        app.logged (.connecting (app.handles.get id).name))
| opened
    (hClosed :
      (app.handles.get id).openSession? app.fleet = none)
    (hSucceeds :
      Call.connect (app.handles.get id).cluster ∉
        app.fleet.faults.failing) :
    Connected app id
      (.ok app.fleet.sessions.size, connectedAs app id)

/- Connecting a handle ends in one of these ways. -/
theorem connected_connect
    (app : Application)
    (id : HandleId) :
    Connected app id ((connect id).perform app) := by
  unfold connect
  rw [perform_bind_of_ok (perform_get app),
    perform_bind_of_ok (perform_get app)]
  cases hOpen :
      (app.handles.get id).openSession? app.fleet with
  | some session => exact .reused hOpen
  | none =>
      simp only []
      rw [perform_bind_of_ok (perform_write _ app),
        connectCluster, perform_bind, perform_bind,
        perform_attempt]
      by_cases hFails :
          Call.connect (app.handles.get id).cluster ∈
            app.fleet.faults.failing
      · have hContains :
            (app.logged (.connecting
              (app.handles.get
                id).name)).fleet.faults.failing.contains
              (.connect (app.handles.get id).cluster) =
                true :=
          List.contains_iff_mem.mpr hFails
        simp only [hContains, if_true]
        exact .refused hOpen hFails
      · have hContains :
            ¬ (app.logged (.connecting
              (app.handles.get
                id).name)).fleet.faults.failing.contains
              (.connect (app.handles.get id).cluster) =
                true :=
          fun h => hFails (List.contains_iff_mem.mp h)
        simp only [hContains]
        exact .opened hOpen hFails

/- Connecting a handle leaves the rest alone. -/
theorem steady_connect (id : HandleId) :
    Relates Steady (connect id) := by
  intro app
  have hConnected := connected_connect app id
  generalize (connect id).perform app = outcome at *
  cases hConnected with
  | reused _ => exact Steady.refl app
  | refused _ _ => exact Steady.logged_connecting app _
  | opened _ _ =>
      exact
        ((Steady.logged_connecting app _).trans
          (Steady.withSessions _ _)).trans
            (Steady.setHandle
              ((app.logged (.connecting
                (app.handles.get id).name)).withFleet _)
              id _ _)

/- Executing a query on a handle leaves the rest alone. -/
theorem steady_execute
    (id : HandleId)
    (query : String)
    (arguments : List Value)
    (named : List (String × Value)) :
    Relates Steady (execute id query arguments named) := by
  refine .bind (steady_connect id) ?_
  intro session app
  exact
    (sessionsOnly_executeOn session query arguments named
      app).steady

/- Preparing a query on a handle leaves the rest alone. -/
theorem steady_prepare
    (id : HandleId)
    (query : String) :
    Relates Steady (prepare id query) := by
  refine .bind (steady_connect id) ?_
  intro session app
  rw [perform_bind_of_ok (perform_get app)]
  dsimp only
  cases (app.handles.get id).statements.get? query with
  | some statement => exact Steady.refl app
  | none =>
      have hPrepared :=
        sessionsOnly_prepareOn session query app
      dsimp only
      rw [perform_bind]
      cases hPerform :
          (prepareOn session query).perform app with
      | mk outcome after =>
          rw [hPerform] at hPrepared
          have hHandles : after.handles = app.handles :=
            hPrepared.handles
          rcases outcome with failure | _ | statement
          · exact hPrepared.steady
          · exact hPrepared.steady
          · rw [← hHandles]
            exact
              hPrepared.steady.trans
                (Steady.setHandle after id _ _)

/- Shutting a handle down leaves the rest alone. -/
theorem steady_shutdown (id : HandleId) :
    Relates Steady (shutdown id) := by
  intro app
  rw [shutdown, perform_bind_of_ok (perform_get app),
    perform_bind_of_ok (perform_modify _ app)]
  have hForgotten := Steady.setHandle app id none .empty
  cases (app.handles.get id).session with
  | some session =>
      exact
        hForgotten.trans
          (sessionsOnly_shutdownSession session _).steady
  | none => exact hForgotten

end Handle

end Keyspaces
