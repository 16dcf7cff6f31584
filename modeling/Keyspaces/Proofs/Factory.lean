import Keyspaces.Factory
import Keyspaces.Proofs.Handle
import Keyspaces.Proofs.Registry

/-
  What resolving a reference through a factory of keyspaces
  comes to, as one outcome for each step that can fail and one
  for success.

  Main statements:
    * `KeyspaceFactory.rolledBack_rollBack`
    * `KeyspaceFactory.perform_rollBack`
    * `KeyspaceFactory.configured_configure`
    * `KeyspaceFactory.Configured.without_session`
    * `KeyspaceFactory.answered_resolve`
    * `Factory.asked_resolve`
    * `Factory.chooses_of_ofUsage`
    * `Factory.perform_create`
-/

------------------------------------------------------------
-- Intermediate Applications
------------------------------------------------------------

namespace Keyspaces

namespace Application

/- The application with a new handle on a cluster. -/
def withHandle
    (app : Application)
    (name : Option String)
    (cluster : ClusterId) : Application :=
  { app with
    handles := app.handles.add ⟨name, cluster, none, .empty⟩ }

/-
  The application in which a factory keeps what it resolved a
  reference to.
-/
def keeping
    (app : Application)
    (id : FactoryId)
    (factory : KeyspaceFactory)
    (resource : Resource)
    (resolution : Resolution)
    (label : String) : Application :=
  (app.logged
    (.keyspaceCreated factory.registry resource.clusterName
      resolution.handle label
      resource.configurator.record)).setFactory id
        (.keyspaces
          { factory with resolved := some resolution })

end Application

end Keyspaces

------------------------------------------------------------
-- Rolling Back
------------------------------------------------------------

namespace Keyspaces

/-
  The application in which a registry forgot a name, and is
  about to shut its cluster down.
-/
def Application.forgetting
    (app : Application)
    (id : RegistryId)
    (name : String) : Application :=
  (app.setRegistered id
    ((app.registries.get id).clusters.erase name)).logged
      (.clusterShutdown name)

namespace Application

/- A name that was forgotten stands for nothing. -/
theorem registered?_forgetting
    (app : Application)
    (id other : RegistryId)
    (name key : String) :
    (app.forgetting id name).registered? other key =
      if other = id ∧ key = name then none
      else app.registered? other key := by
  change
    (app.setRegistered id
      ((app.registries.get id).clusters.erase
        name)).registered? other key = _
  rw [registered?_setRegistered, Table.get?_erase]
  by_cases hOther : other = id
  · subst other
    by_cases hKey : key = name <;> simp [hKey, registered?]
  · simp [hOther]

end Application

namespace KeyspaceFactory

open Keyspaces.Action

/-
  How rolling back ends, whether or not the shutdown of the
  cluster fails: there is nothing to do, or the name is
  forgotten and the cluster shut down, or the name is
  forgotten and the cluster goes on.
-/
inductive RolledBack
    (app : Application)
    (registry : RegistryId)
    (name : String)
    (cluster : ClusterId)
    (existing : Option ClusterId) :
    Except Failure Unit × Application → Prop
| untouched
    (hNothing :
      ¬ (existing ≠ some cluster ∧
        app.registered? registry name = some cluster)) :
    RolledBack app registry name cluster existing
      (.ok (), app)
| released
    (hNew : existing ≠ some cluster)
    (hRegistered :
      app.registered? registry name = some cluster) :
    RolledBack app registry name cluster existing
      (.ok (),
        (app.forgetting registry name).withFleet
          (·.closeCluster cluster))
| abandoned
    {failure : Failure}
    (hNew : existing ≠ some cluster)
    (hRegistered :
      app.registered? registry name = some cluster) :
    RolledBack app registry name cluster existing
      (.error failure, app.forgetting registry name)

/-
  Rolling back shuts down the name of a cluster that was made
  for it and is still registered, and does nothing otherwise.
-/
theorem perform_rollBack_eq
    (app : Application)
    (registry : RegistryId)
    (name : String)
    (cluster : ClusterId)
    (existing : Option ClusterId) :
    (rollBack registry name cluster existing).perform app =
      if existing ≠ some cluster ∧
          app.registered? registry name = some cluster then
        (Registry.shutdown registry (some name)).perform app
      else
        (.ok (), app) := by
  have hGet :
      (Registry.get? registry name).perform app =
        (.ok (app.registered? registry name), app) :=
    rfl
  rw [rollBack, perform_bind_of_ok hGet]
  simp only [Bool.and_eq_true, bne_iff_ne, beq_iff_eq]
  split <;> rfl

/- Rolling back ends in one of these ways. -/
theorem rolledBack_rollBack
    (app : Application)
    (registry : RegistryId)
    (name : String)
    (cluster : ClusterId)
    (existing : Option ClusterId) :
    RolledBack app registry name cluster existing
      ((rollBack registry name cluster existing).perform
        app) := by
  rw [perform_rollBack_eq]
  by_cases hMade :
      existing ≠ some cluster ∧
        app.registered? registry name = some cluster
  · rw [if_pos hMade]
    rcases hMade with ⟨hNew, hRegistered⟩
    have hForgotten :
        (write (.clusterShutdown name)).perform
            (app.setRegistered registry
              ((app.registries.get registry).remaining
                (some name))) =
          (.ok (), app.forgetting registry name) :=
      rfl
    rw [Registry.shutdown,
      perform_bind_of_ok (perform_get app),
      perform_bind_of_ok (perform_modify _ app),
      Registry.selected_some hRegistered,
      Registry.shutdownAll, perform_bind_of_ok hForgotten]
    by_cases hFails :
        Call.shutdownCluster cluster ∈
          (app.forgetting registry name).fleet.faults.failing
    · rw [perform_bind,
        perform_shutdownCluster_of_fails hFails]
      exact .abandoned hNew hRegistered
    · rw [perform_bind_of_ok (perform_shutdownCluster hFails)]
      exact .released hNew hRegistered
  · rw [if_neg hMade]
    exact .untouched hMade

/- When no shutdown fails the name is released. -/
theorem perform_rollBack
    {app : Application}
    (hReturns : app.fleet.faults.ShutdownReturns)
    (registry : RegistryId)
    (name : String)
    (cluster : ClusterId)
    (existing : Option ClusterId) :
    (rollBack registry name cluster existing).perform app =
      if existing ≠ some cluster ∧
          app.registered? registry name = some cluster then
        (.ok (), app.released registry (some name))
      else
        (.ok (), app) := by
  rw [perform_rollBack_eq, Registry.perform_shutdown hReturns]

/-
  Connecting a handle fails as the connection does, once it is
  undone, or as undoing it does.
-/
theorem perform_connect
    (handle : HandleId)
    (undo : Action Unit)
    (app : Application) :
    (connect handle undo).perform app =
      match (Handle.connect handle).perform app with
      | (.ok _, ready) => (.ok (), ready)
      | (.error failure, failed) =>
          match undo.perform failed with
          | (.ok _, undone) => (.error failure, undone)
          | (.error undoFailure, undone) =>
              (.error undoFailure, undone) := by
  rw [connect, perform_tryCatch, perform_discard]
  cases (Handle.connect handle).perform app with
  | mk outcome after =>
      cases outcome with
      | ok session => rfl
      | error failure =>
          dsimp only
          rw [perform_bind]
          rcases undo.perform after with ⟨_ | _, _⟩ <;> rfl

end KeyspaceFactory

end Keyspaces

------------------------------------------------------------
-- Configuring
------------------------------------------------------------

namespace Keyspaces

namespace KeyspaceFactory

open Keyspaces.Action

/-
  How resolving a reference for the first time ends. In order:
  the reference cannot be read, no cluster is obtained, the
  setting that says whether to connect cannot be read, the
  cluster cannot be connected with and this is rolled back, or
  this cannot be rolled back either, or the handle is ready,
  without a session or with one.
-/
inductive Configured
    (app : Application)
    (id : FactoryId)
    (factory : KeyspaceFactory)
    (reference : Reference)
    (name : Option String) :
    Except Failure HandleId × Application → Prop
| unread
    {failure : Failure}
    (hResource :
      Resource.ofReference (factory.conf.getD app.conf)
          reference =
        .error failure) :
    Configured app id factory reference name
      (.error failure, app)
| unavailable
    {resource : Resource}
    {failure : Failure}
    {after : Application}
    (hResource :
      Resource.ofReference (factory.conf.getD app.conf)
          reference =
        .ok resource)
    (hObtain :
      (Registry.getOrCreate factory.registry
          resource.clusterName
          resource.configurator).perform app =
        (.error failure, after)) :
    Configured app id factory reference name
      (.error failure, after)
| undecided
    {resource : Resource}
    {cluster : ClusterId}
    {after : Application}
    {failure : Failure}
    (hResource :
      Resource.ofReference (factory.conf.getD app.conf)
          reference =
        .ok resource)
    (hObtain :
      (Registry.getOrCreate factory.registry
          resource.clusterName
          resource.configurator).perform app =
        (.ok cluster, after))
    (hConnects :
      (factory.conf.getD app.conf).read
          Setting.connectOnResolve =
        .error failure) :
    Configured app id factory reference name
      (.error failure,
        after.withHandle (some resource.keyspaceName) cluster)
| unreachable
    {resource : Resource}
    {cluster : ClusterId}
    {after failed undone : Application}
    {connects : Value}
    {failure : Failure}
    (hResource :
      Resource.ofReference (factory.conf.getD app.conf)
          reference =
        .ok resource)
    (hObtain :
      (Registry.getOrCreate factory.registry
          resource.clusterName
          resource.configurator).perform app =
        (.ok cluster, after))
    (hConnects :
      (factory.conf.getD app.conf).read
          Setting.connectOnResolve =
        .ok connects)
    (hTruthy : connects.isTruthy = true)
    (hConnect :
      (Handle.connect after.handles.size).perform
          (after.withHandle (some resource.keyspaceName)
            cluster) =
        (.error failure, failed))
    (hUndo :
      (rollBack factory.registry resource.clusterName cluster
          (app.registered? factory.registry
            resource.clusterName)).perform failed =
        (.ok (), undone)) :
    Configured app id factory reference name
      (.error failure, undone)
| stuck
    {resource : Resource}
    {cluster : ClusterId}
    {after failed undone : Application}
    {connects : Value}
    {failure undoFailure : Failure}
    (hResource :
      Resource.ofReference (factory.conf.getD app.conf)
          reference =
        .ok resource)
    (hObtain :
      (Registry.getOrCreate factory.registry
          resource.clusterName
          resource.configurator).perform app =
        (.ok cluster, after))
    (hConnects :
      (factory.conf.getD app.conf).read
          Setting.connectOnResolve =
        .ok connects)
    (hTruthy : connects.isTruthy = true)
    (hConnect :
      (Handle.connect after.handles.size).perform
          (after.withHandle (some resource.keyspaceName)
            cluster) =
        (.error failure, failed))
    (hUndo :
      (rollBack factory.registry resource.clusterName cluster
          (app.registered? factory.registry
            resource.clusterName)).perform failed =
        (.error undoFailure, undone)) :
    Configured app id factory reference name
      (.error undoFailure, undone)
| resolved
    {resource : Resource}
    {cluster : ClusterId}
    {after ready : Application}
    {connects : Value}
    (hResource :
      Resource.ofReference (factory.conf.getD app.conf)
          reference =
        .ok resource)
    (hObtain :
      (Registry.getOrCreate factory.registry
          resource.clusterName
          resource.configurator).perform app =
        (.ok cluster, after))
    (hConnects :
      (factory.conf.getD app.conf).read
          Setting.connectOnResolve =
        .ok connects)
    (hReady :
      connects.isTruthy = false ∧
          ready =
            after.withHandle (some resource.keyspaceName)
              cluster ∨
        connects.isTruthy = true ∧
          ∃ session,
            (Handle.connect after.handles.size).perform
                (after.withHandle
                  (some resource.keyspaceName) cluster) =
              (.ok session, ready)) :
    Configured app id factory reference name
      (.ok after.handles.size,
        ready.keeping id factory resource
          ⟨resource.configurator, cluster,
            after.handles.size⟩
          ((name.filter (!·.isEmpty)).getD
            resource.keyspaceName))

/- Resolving a reference for the first time ends like this. -/
theorem configured_configure
    (app : Application)
    (id : FactoryId)
    (factory : KeyspaceFactory)
    (reference : Reference)
    (name : Option String) :
    Configured app id factory reference name
      ((configure id factory reference name).perform app) := by
  rw [configure, perform_bind_of_ok (perform_get app)]
  dsimp only
  rw [perform_bind, perform_ofExcept]
  cases hResource :
      Resource.ofReference (factory.conf.getD app.conf)
        reference with
  | error failure => exact .unread hResource
  | ok resource =>
      dsimp only
      have hGet :
          (Registry.get? factory.registry
              resource.clusterName).perform app =
            (.ok (app.registered? factory.registry
              resource.clusterName), app) :=
        rfl
      rw [perform_bind_of_ok hGet, perform_bind]
      cases hObtain :
          (Registry.getOrCreate factory.registry
            resource.clusterName
            resource.configurator).perform app with
      | mk outcome after =>
          rcases outcome with failure | cluster
          · exact .unavailable hResource hObtain
          · have hCreate :
                (Handle.create (some resource.keyspaceName)
                    cluster).perform after =
                  (.ok after.handles.size,
                    after.withHandle
                      (some resource.keyspaceName) cluster) :=
              rfl
            dsimp only
            rw [perform_bind_of_ok hCreate, perform_bind,
              perform_ofExcept]
            cases hConnects :
                (factory.conf.getD app.conf).read
                  Setting.connectOnResolve with
            | error failure =>
                exact .undecided hResource hObtain hConnects
            | ok connects =>
                dsimp only
                cases hTruthy : connects.isTruthy with
                | false =>
                    exact
                      .resolved hResource hObtain hConnects
                        (Or.inl ⟨hTruthy, rfl⟩)
                | true =>
                    rw [if_pos rfl, perform_bind,
                      perform_connect]
                    cases hConnect :
                        (Handle.connect
                          after.handles.size).perform
                          (after.withHandle
                            (some resource.keyspaceName)
                            cluster) with
                    | mk outcome failed =>
                        rcases outcome with failure | session
                        · dsimp only
                          cases hUndo :
                              (rollBack factory.registry
                                resource.clusterName cluster
                                (app.registered?
                                  factory.registry
                                  resource.clusterName)).perform
                                    failed with
                          | mk outcome undone =>
                              rcases outcome with
                                undoFailure | _
                              · exact
                                  .stuck hResource hObtain
                                    hConnects hTruthy
                                    hConnect hUndo
                              · exact
                                  .unreachable hResource
                                    hObtain hConnects
                                    hTruthy hConnect hUndo
                        · exact
                            .resolved hResource hObtain
                              hConnects
                              (Or.inr
                                ⟨hTruthy, session, hConnect⟩)

/-
  A handle gets ready without or with a session, which leaves
  the rest alone.
-/
theorem steady_of_ready
    {after ready : Application}
    {keyspace : Option String}
    {cluster : ClusterId}
    {connects : Value}
    (hReady :
      connects.isTruthy = false ∧
          ready = after.withHandle keyspace cluster ∨
        connects.isTruthy = true ∧
          ∃ session,
            (Handle.connect after.handles.size).perform
                (after.withHandle keyspace cluster) =
              (.ok session, ready)) :
    Application.Steady
      (after.withHandle keyspace cluster) ready := by
  rcases hReady with ⟨_, rfl⟩ | ⟨_, session, hConnect⟩
  · exact .refl _
  · have hConnected :=
      Handle.steady_connect after.handles.size
        (after.withHandle keyspace cluster)
    rw [hConnect] at hConnected
    exact hConnected

/-
  Without a session to connect, resolving a reference for the
  first time only fails when the reference cannot be read or
  no cluster is obtained.
-/
theorem Configured.without_session
    {app : Application}
    {id : FactoryId}
    {factory : KeyspaceFactory}
    {reference : Reference}
    {name : Option String}
    {outcome : Except Failure HandleId × Application}
    {conf : Config}
    (hConfigured :
      Configured app id factory reference name outcome)
    (hConf : factory.conf = some conf)
    (hConnects :
      conf.read Setting.connectOnResolve =
        .ok (.bool false)) :
    (∃ failure,
        Resource.ofReference conf reference =
            .error failure ∧
          outcome = (.error failure, app)) ∨
      ∃ resource,
        Resource.ofReference conf reference = .ok resource ∧
          ((∃ failure after,
              (Registry.getOrCreate factory.registry
                  resource.clusterName
                  resource.configurator).perform app =
                (.error failure, after)) ∨
            ∃ cluster after resolution label,
              (Registry.getOrCreate factory.registry
                    resource.clusterName
                    resource.configurator).perform app =
                  (.ok cluster, after) ∧
                outcome =
                  (.ok after.handles.size,
                    (after.withHandle
                      (some resource.keyspaceName)
                        cluster).keeping id factory resource
                          resolution label)) := by
  have hSettings : factory.conf.getD app.conf = conf := by
    rw [hConf]
    rfl
  cases hConfigured with
  | unread hResource =>
      rw [hSettings] at hResource
      exact Or.inl ⟨_, hResource, rfl⟩
  | unavailable hResource hObtain =>
      rw [hSettings] at hResource
      exact
        Or.inr ⟨_, hResource, Or.inl ⟨_, _, hObtain⟩⟩
  | undecided _ _ hUndecided =>
      rw [hSettings, hConnects] at hUndecided
      contradiction
  | unreachable _ _ hDecided hTruthy _ _ =>
      rw [hSettings, hConnects] at hDecided
      cases hDecided
      contradiction
  | stuck _ _ hDecided hTruthy _ _ =>
      rw [hSettings, hConnects] at hDecided
      cases hDecided
      contradiction
  | resolved hResource hObtain hDecided hReady =>
      rw [hSettings] at hResource
      rw [hSettings, hConnects] at hDecided
      cases hDecided
      rcases hReady with ⟨_, rfl⟩ | ⟨hTruthy, _⟩
      · exact
          Or.inr
            ⟨_, hResource,
              Or.inr ⟨_, _, _, _, hObtain, rfl⟩⟩
      · contradiction

end KeyspaceFactory

end Keyspaces

------------------------------------------------------------
-- Resolving
------------------------------------------------------------

namespace Keyspaces

namespace KeyspaceFactory

open Keyspaces.Action

/-
  How resolving a value ends: it is no reference, and refused
  with its record, or there is a handle already, or the
  reference is resolved for the first time.
-/
inductive Answered
    (app : Application)
    (id : FactoryId)
    (factory : KeyspaceFactory)
    (value : Value)
    (name : Option String) :
    Except Failure HandleId × Application → Prop
| unfit
    (hValue : value.reference? = none) :
    Answered app id factory value name
      (.error (.showing value (.notReference value)), app)
| known
    {reference : Reference}
    {resolution : Resolution}
    (hValue : value.reference? = some reference)
    (hResolved : factory.resolved = some resolution) :
    Answered app id factory value name
      (.ok resolution.handle, app)
| configured
    {reference : Reference}
    {outcome : Except Failure HandleId × Application}
    (hValue : value.reference? = some reference)
    (hResolved : factory.resolved = none)
    (hConfigured :
      Configured app id factory reference name outcome) :
    Answered app id factory value name outcome

/- Resolving a value ends in one of these ways. -/
theorem answered_resolve
    (app : Application)
    (id : FactoryId)
    (factory : KeyspaceFactory)
    (value : Value)
    (name : Option String) :
    Answered app id factory value name
      ((resolve id factory value name).perform app) := by
  rw [resolve, perform_bind, perform_ofExcept,
    Resource.expectReference]
  cases hValue : value.reference? with
  | none => exact .unfit hValue
  | some reference =>
      dsimp only
      cases hResolved : factory.resolved with
      | some resolution => exact .known hValue hResolved
      | none =>
          exact
            .configured hValue hResolved
              (configured_configure app id factory reference
                name)

end KeyspaceFactory

namespace Factory

open Keyspaces.Action

/- A factory of keyspaces answers with the handle. -/
theorem perform_resolve_keyspaces
    {app : Application}
    {id : FactoryId}
    {factory : KeyspaceFactory}
    (hFactory : app.factories.get id = .keyspaces factory)
    (value : Value)
    (name : Option String)
    (context : Option ContextId) :
    (resolve id value name context).perform app =
      match (factory.resolve id value name).perform app with
      | (.ok handle, after) => (.ok (.handle handle), after)
      | (.error failure, after) =>
          (.error failure, after) := by
  rw [resolve, perform_bind_of_ok (perform_get app)]
  simp only [hFactory]
  rw [perform_bind]
  rcases (factory.resolve id value name).perform app with
    ⟨_ | _, _⟩ <;> rfl

/- A recorder that counted a call. -/
def counted
    (app : Application)
    (id : FactoryId)
    (recorder : Recorder) : Application :=
  app.setFactory id
    (.recorder { recorder with calls := recorder.calls + 1 })

/-
  How resolving a value through a factory ends: a factory of
  keyspaces answers or fails, a recorder counts the call, or
  the factory resolves nothing.
-/
inductive Asked
    (app : Application)
    (id : FactoryId)
    (value : Value)
    (name : Option String) :
    Except Failure Resolved × Application → Prop
| keyspaces
    {factory : KeyspaceFactory}
    {answer : Except Failure HandleId}
    {after : Application}
    (hFactory : app.factories.get id = .keyspaces factory)
    (hAnswered :
      KeyspaceFactory.Answered app id factory value name
        (answer, after)) :
    Asked app id value name (answer.map .handle, after)
| recorder
    {recorder : Recorder}
    {answer : Except Failure Recording}
    (hFactory : app.factories.get id = .recorder recorder) :
    Asked app id value name
      (answer.map .recording, counted app id recorder)
| inert
    {kindName : String}
    (hFactory : app.factories.get id = .inert kindName) :
    Asked app id value name
      (.error (.noMember kindName "resolve"), app)

/- Resolving through a factory ends in one of these ways. -/
theorem asked_resolve
    (app : Application)
    (id : FactoryId)
    (value : Value)
    (name : Option String)
    (context : Option ContextId) :
    Asked app id value name
      ((resolve id value name context).perform app) := by
  cases hFactory : app.factories.get id with
  | keyspaces factory =>
      have hAnswered :=
        KeyspaceFactory.answered_resolve app id factory value
          name
      rw [perform_resolve_keyspaces hFactory]
      rcases hPerform :
          (factory.resolve id value name).perform app with
        ⟨failure | handle, after⟩
      · rw [hPerform] at hAnswered
        exact .keyspaces hFactory hAnswered
      · rw [hPerform] at hAnswered
        exact .keyspaces hFactory hAnswered
  | recorder recorder =>
      have hCounted :
          ∃ answer,
            (recorder.resolve id value name context).perform
                app =
              (answer, counted app id recorder) := by
        rw [Recorder.resolve,
          perform_bind_of_ok (perform_modify _ app)]
        cases recorder.faults.lookup (recorder.calls + 1) <;>
          exact ⟨_, rfl⟩
      rcases hCounted with ⟨answer, hCounted⟩
      have hResolve :
          (resolve id value name context).perform app =
            (answer.map .recording,
              counted app id recorder) := by
        rw [resolve, perform_bind_of_ok (perform_get app)]
        simp only [hFactory]
        rw [perform_bind, hCounted]
        cases answer <;> rfl
      rw [hResolve]
      exact .recorder hFactory
  | inert kindName =>
      rw [resolve, perform_bind_of_ok (perform_get app)]
      simp only [hFactory]
      exact .inert hFactory

/- Only a factory of keyspaces answers with a handle. -/
theorem answered_of_resolve
    {app after : Application}
    {id : FactoryId}
    {value : Value}
    {name : Option String}
    {context : Option ContextId}
    {handle : HandleId}
    (hAnswer :
      (resolve id value name context).perform app =
        (.ok (.handle handle), after)) :
    ∃ factory,
      app.factories.get id = .keyspaces factory ∧
        KeyspaceFactory.Answered app id factory value name
          (.ok handle, after) := by
  have hAsked := asked_resolve app id value name context
  generalize hOutcome :
    (resolve id value name context).perform app = outcome
      at hAsked
  rw [hAnswer] at hOutcome
  cases hAsked with
  | @keyspaces factory answer _ hFactory hAnswered =>
      cases answer with
      | error failure => cases hOutcome
      | ok found =>
          cases hOutcome
          exact ⟨factory, hFactory, hAnswered⟩
  | @recorder _ answer _ => cases answer <;> cases hOutcome
  | inert _ => cases hOutcome

end Factory

end Keyspaces

------------------------------------------------------------
-- Making Factories
------------------------------------------------------------

namespace Keyspaces

/-
  The registry that factories made with some arguments use:
  the one that is given, or that of the process if there is
  none among them.
-/
inductive Argument.Chooses : List Argument → RegistryId → Prop
| given
    (registry : RegistryId)
    (rest : List Argument) :
    Chooses (.registry registry :: rest) registry
| skipped
    {registry : RegistryId}
    {rest : List Argument}
    (conf : Option Config)
    (hRest : Chooses rest registry) :
    Chooses (.conf conf :: rest) registry
| missing : Chooses [] Application.processRegistry

namespace Factory

open Keyspaces.Action

/- What a factory of keyspaces is made with. -/
theorem eq_create_of_ofUsage
    {recorders : Nat}
    {arguments : List Argument}
    {usage : Importable.Usage}
    {found : KeyspaceFactory}
    (h :
      ofUsage recorders arguments usage =
        .ok (.keyspaces found)) :
    found =
      KeyspaceFactory.create (Argument.registry? arguments)
        (Argument.conf? arguments) := by
  cases usage with
  | keyspaces =>
      cases h
      rfl
  | recorder faults => cases h
  | broken failure => cases h
  | object kindName signature =>
      unfold ofUsage at h
      dsimp only at h
      split at h <;> cases h
  | constant kindName => cases h

/- A factory that is made uses the registry that is chosen. -/
theorem chooses_create
    (arguments : List Argument)
    (conf : Option Config) :
    Argument.Chooses arguments
      (KeyspaceFactory.create (Argument.registry? arguments)
        conf).registry := by
  induction arguments with
  | nil => exact .missing
  | cons argument arguments ih =>
      cases argument with
      | registry id => exact .given id arguments
      | conf given => exact .skipped given ih

/-
  A factory of keyspaces that is made resolved nothing yet,
  and uses the registry that its arguments choose.
-/
theorem chooses_of_ofUsage
    {recorders : Nat}
    {arguments : List Argument}
    {usage : Importable.Usage}
    {found : KeyspaceFactory}
    (h :
      ofUsage recorders arguments usage =
        .ok (.keyspaces found)) :
    found.resolved = none ∧
      Argument.Chooses arguments found.registry := by
  rw [eq_create_of_ofUsage h]
  exact ⟨rfl, chooses_create arguments _⟩

/-
  Making a factory adds the one that there can be, or fails
  and changes nothing.
-/
theorem perform_create
    (usage : Importable.Usage)
    (arguments : List Argument)
    (app : Application) :
    (create usage arguments).perform app =
      match ofUsage
          (app.factories.toList.filter isRecorder).length
          arguments usage with
      | .ok factory =>
          (.ok app.factories.size,
            { app with
              factories := app.factories.add factory })
      | .error failure => (.error failure, app) := by
  rw [create, perform_bind_of_ok (perform_get app)]
  dsimp only
  rw [perform_bind, perform_ofExcept]
  cases ofUsage (app.factories.toList.filter isRecorder).length
      arguments usage <;> rfl

end Factory

end Keyspaces
