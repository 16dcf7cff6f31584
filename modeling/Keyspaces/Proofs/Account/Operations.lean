import Keyspaces.Proofs.Account.Changes

/-
  Every operation keeps the account of the clusters, whether
  it succeeds or fails, so it holds of every application that
  is reached.

  Main statements:
    * `KeyspaceFactory.Configured.accounted`
    * `Operation.accounted_perform`
    * `Application.Reachable.accounted`
-/

------------------------------------------------------------
-- Registries
------------------------------------------------------------

namespace Keyspaces

namespace Registry

open Application

variable {app : Application}
variable {id : RegistryId}
variable {name : String}
variable {configurator : Configurator}

/- Asking for a cluster keeps the account. -/
theorem Obtained.accounted
    {outcome : Except Failure ClusterId × Application}
    (hObtained : Obtained app id name configurator outcome)
    (h : app.Accounted)
    (hRegistry : id < app.registries.size) :
    outcome.2.Accounted := by
  cases hObtained with
  | reused hLive =>
      exact h.of_alike (alike_logged app rfl) h.returns
  | unmapped _ _ => exact h
  | refused _ _ _ =>
      refine h.of_alike ?_ h.returns
      constructor <;> intros <;> rfl
  | created hDead _ _ =>
      exact h.created configurator _ hRegistry hDead

theorem accounted_getOrCreate
    {outcome : Except Failure ClusterId × Application}
    (h : app.Accounted)
    (hRegistry : id < app.registries.size)
    (hOutcome :
      (getOrCreate id name configurator).perform app =
        outcome) :
    outcome.2.Accounted := by
  have hObtained :=
    obtained_getOrCreate app id name configurator
  rw [hOutcome] at hObtained
  exact hObtained.accounted h hRegistry

/- A shutdown keeps the account. -/
theorem accounted_shutdown
    (h : app.Accounted)
    (id : RegistryId)
    (name : Option String) :
    ((shutdown id name).perform app).2.Accounted := by
  rw [perform_shutdown h.returns]
  exact h.released id name

end Registry

end Keyspaces

------------------------------------------------------------
-- Factories
------------------------------------------------------------

namespace Keyspaces

namespace KeyspaceFactory

open Keyspaces.Action Application

variable {app : Application}
variable {id : FactoryId}
variable {factory : KeyspaceFactory}

/- Rolling back keeps the account. -/
theorem accounted_rollBack
    (h : app.Accounted)
    (registry : RegistryId)
    (name : String)
    (cluster : ClusterId)
    (existing : Option ClusterId) :
    ((rollBack registry name cluster existing).perform
      app).2.Accounted := by
  rw [perform_rollBack h.returns]
  split
  · exact h.released registry (some name)
  · exact h

/- A connection that fails and is rolled back as well. -/
theorem accounted_undone
    {failed undone : Application}
    {connected : Except Failure SessionId}
    {rolledBack : Except Failure Unit}
    {handle : HandleId}
    {registry : RegistryId}
    {name : String}
    {cluster : ClusterId}
    {existing : Option ClusterId}
    (h : app.Accounted)
    (hConnect :
      (Handle.connect handle).perform app =
        (connected, failed))
    (hUndo :
      (rollBack registry name cluster existing).perform
          failed =
        (rolledBack, undone)) :
    undone.Accounted := by
  have hSteady := Handle.steady_connect handle app
  rw [hConnect] at hSteady
  have hUndone :=
    accounted_rollBack (h.of_steady hSteady) registry name
      cluster existing
  rw [hUndo] at hUndone
  exact hUndone

/-
  A handle that is ready is kept: it is on a cluster that was
  created under the name of the resource.
-/
theorem accounted_keeping
    {resource : Resource}
    {cluster : ClusterId}
    {obtained ready : Application}
    (label : String)
    (h : obtained.Accounted)
    (hRegistry : factory.registry < obtained.registries.size)
    (hRegistered :
      obtained.registered? factory.registry
          resource.clusterName =
        some cluster)
    (hSteady :
      Steady
        (obtained.withHandle (some resource.keyspaceName)
          cluster)
        ready) :
    (ready.keeping id factory resource
      ⟨resource.configurator, cluster,
        obtained.handles.size⟩ label).Accounted := by
  have hHandle :=
    h.withHandle (some resource.keyspaceName) cluster
  have hCluster :
      (ready.handles.get obtained.handles.size).cluster =
        cluster := by
    rw [hSteady.handleCluster]
    exact
      congrArg Handle.cluster
        (Pool.get_add_self obtained.handles _)
  have hCreated :=
    hHandle.registered factory.registry cluster
      resource.clusterName hRegistered
  refine (hHandle.of_steady hSteady).keeping label ?_ ?_ ?_
  · rw [hSteady.registries]
    exact hRegistry
  · rw [hSteady.handleCount]
    exact Nat.lt_succ_self _
  · rw [hCluster, hSteady.created]
    exact hCreated

/- Resolving a reference for the first time keeps the account. -/
theorem Configured.accounted
    {reference : Reference}
    {name : Option String}
    {outcome : Except Failure HandleId × Application}
    (hConfigured :
      Configured app id factory reference name outcome)
    (h : app.Accounted)
    (hRegistry : factory.registry < app.registries.size) :
    outcome.2.Accounted := by
  cases hConfigured with
  | unread _ => exact h
  | unavailable _ hObtain =>
      exact
        Registry.accounted_getOrCreate h hRegistry hObtain
  | undecided _ hObtain _ =>
      have hObtained :=
        Registry.accounted_getOrCreate h hRegistry hObtain
      exact hObtained.withHandle _ _
  | unreachable _ hObtain _ _ hConnect hUndo =>
      have hObtained :=
        Registry.accounted_getOrCreate h hRegistry hObtain
      exact
        accounted_undone (hObtained.withHandle _ _) hConnect
          hUndo
  | stuck _ hObtain _ _ hConnect hUndo =>
      have hObtained :=
        Registry.accounted_getOrCreate h hRegistry hObtain
      exact
        accounted_undone (hObtained.withHandle _ _) hConnect
          hUndo
  | @resolved resource cluster obtained ready _ _ hObtain _
      hReady =>
      have hOutcome :=
        Registry.obtained_getOrCreate app factory.registry
          resource.clusterName resource.configurator
      rw [hObtain] at hOutcome
      have hCount := hOutcome.registryCount
      have hSteady := steady_of_ready hReady
      exact
        accounted_keeping _
          (hOutcome.accounted h hRegistry)
          (lt_of_lt_of_eq hRegistry hCount.symm)
          hOutcome.registered.1 hSteady

/- Resolving a value keeps the account. -/
theorem Answered.accounted
    {value : Value}
    {name : Option String}
    {outcome : Except Failure HandleId × Application}
    (hAnswered :
      Answered app id factory value name outcome)
    (h : app.Accounted)
    (hRegistry : factory.registry < app.registries.size) :
    outcome.2.Accounted := by
  cases hAnswered with
  | unfit _ => exact h
  | known _ _ => exact h
  | configured _ _ hConfigured =>
      exact hConfigured.accounted h hRegistry

end KeyspaceFactory

end Keyspaces

namespace Keyspaces

namespace Factory

open Keyspaces.Action Application

variable {app : Application}

/- Resolving a value through any factory keeps the account. -/
theorem accounted_resolve
    (id : FactoryId)
    (value : Value)
    (name : Option String)
    (context : Option ContextId) :
    Keeps Accounted (resolve id value name context) := by
  intro app h
  have hAsked := asked_resolve app id value name context
  generalize (resolve id value name context).perform app =
    outcome at *
  cases hAsked with
  | keyspaces hFactory hAnswered =>
      exact
        hAnswered.accounted h
          (h.factoryRegistry id _ hFactory)
  | recorder _ => exact h.setRecorder id _
  | inert _ => exact h

/- A registry among arguments is one of them. -/
theorem mem_of_registry_eq_some
    {arguments : List Argument}
    {registry : RegistryId}
    (h : Argument.registry? arguments = some registry) :
    Argument.registry registry ∈ arguments := by
  rcases List.exists_of_findSome?_eq_some h with
    ⟨argument, hArgument, hSome⟩
  cases argument with
  | registry id =>
      cases hSome
      exact hArgument
  | conf given => contradiction

/- A factory that is made about made registries may be added. -/
theorem fit_of_ofUsage
    (h : app.Accounted)
    {recorders : Nat}
    {arguments : List Argument}
    {usage : Importable.Usage}
    {factory : Factory}
    (hArguments :
      ∀ registry, Argument.registry registry ∈ arguments →
        registry < app.registries.size)
    (hFactory :
      ofUsage recorders arguments usage = .ok factory) :
    ∀ found, factory = .keyspaces found →
      found.resolved = none ∧
        found.registry < app.registries.size := by
  rintro found rfl
  rw [eq_create_of_ofUsage hFactory]
  refine ⟨rfl, ?_⟩
  unfold KeyspaceFactory.create
  cases hRegistry : Argument.registry? arguments with
  | none => exact h.processRegistry
  | some registry =>
      exact
        hArguments registry
          (mem_of_registry_eq_some hRegistry)

/- Making a factory keeps the account. -/
theorem accounted_create
    (h : app.Accounted)
    (usage : Importable.Usage)
    {arguments : List Argument}
    (hArguments :
      ∀ registry, Argument.registry registry ∈ arguments →
        registry < app.registries.size) :
    ((create usage arguments).perform app).2.Accounted := by
  rw [perform_create]
  cases hFactory :
      ofUsage (app.factories.toList.filter isRecorder).length
        arguments usage with
  | error failure => exact h
  | ok factory =>
      exact
        h.addFactory factory
          (fit_of_ofUsage h hArguments hFactory)

end Factory

end Keyspaces

------------------------------------------------------------
-- Contexts
------------------------------------------------------------

namespace Keyspaces

namespace Context

open Keyspaces.Action Application

/- Binding a name keeps the account. -/
theorem accounted_bind
    (id : ContextId)
    (name : String)
    (value : Value) :
    Keeps Accounted (bind id name value) := by
  refine .get_bind ?_
  intro app h
  dsimp only
  split
  · exact h
  · exact h.setContext id _ rfl

/- Binding what is declared keeps the account. -/
theorem accounted_load
    (id : ContextId)
    (declared : Except Failure Declarations) :
    Keeps Accounted (load id declared) := by
  apply keeps_load
  · intro name value
    exact accounted_bind id name value
  · intro names app h
    exact h.of_alike (alike_logged app rfl) h.returns

/- Finding the factory of a reference keeps the account. -/
theorem accounted_factoryOf
    (importer : Importer)
    (id : ContextId)
    (name : String)
    (reference : Reference) :
    Keeps Accounted
      (factoryOf importer id name reference) := by
  apply keeps_factoryOf
  · intro usage app h
    exact
      Factory.accounted_create h usage
        (h.contextRegistry id)
  · intro factory app _ _ h
    exact h.setContext id _ rfl

/- Looking a name up keeps the account. -/
theorem accounted_lookup
    (importer : Importer)
    (id : ContextId)
    (name : String) :
    Keeps Accounted (lookup importer id name) := by
  apply keeps_lookup
  · intro reference
    exact accounted_factoryOf importer id name reference
  · intro factory value
    exact Factory.accounted_resolve factory value _ _

end Context

end Keyspaces

------------------------------------------------------------
-- Operations
------------------------------------------------------------

namespace Keyspaces

namespace Operation

open Keyspaces.Action Application

/- Every operation keeps the account. -/
theorem accounted_perform
    {importer : Importer}
    {app : Application}
    (operation : Operation)
    (h : app.Accounted)
    (hAdmissible : operation.Admissible app) :
    (operation.perform importer app).Accounted := by
  by_cases hQuiet : operation.IsQuiet
  · exact h.of_steady (steady_perform importer hQuiet app)
  cases operation with
  | createRegistry conf => exact h.addRegistry conf
  | getOrCreate registry name configurator =>
      have hObtained :=
        Registry.obtained_getOrCreate app registry name
          configurator
      exact
        after_discard (motive := Accounted)
          (hObtained.accounted h hAdmissible)
  | shutdownClusters registry name =>
      exact Registry.accounted_shutdown h registry name
  | createFactory registry conf =>
      refine
        after_discard (motive := Accounted)
          (h.addFactory _ ?_)
      rintro found hFound
      cases hFound
      refine ⟨rfl, ?_⟩
      cases registry with
      | none => exact h.processRegistry
      | some id => exact hAdmissible id rfl
  | resolve factory value name context =>
      exact
        after_discard (motive := Accounted)
          (Factory.accounted_resolve factory value name context
            app h)
  | createContext arguments =>
      exact
        after_discard (motive := Accounted)
          (h.addContext _ hAdmissible)
  | bind context name value =>
      exact Context.accounted_bind context name value app h
  | rebind context name value =>
      exact h.setContext context _ rfl
  | unbind context name => exact h.setContext context _ rfl
  | load context declared =>
      exact
        after_discard (motive := Accounted)
          (Context.accounted_load context declared app h)
  | lookup context name =>
      exact
        after_discard (motive := Accounted)
          (Context.accounted_lookup importer context name app
            h)
  | createHandle name cluster =>
      exact
        after_discard (motive := Accounted)
          (h.withHandle name cluster)
  | closeCluster cluster => exact h.closeCluster cluster
  | setConf conf =>
      refine h.of_alike ?_ h.returns
      constructor <;> intros <;> rfl
  | setFaults faults =>
      refine h.of_alike ?_ hAdmissible
      constructor <;> intros <;> rfl
  | _ => exact absurd trivial hQuiet

end Operation

namespace Application

/- Every application that is reached is accounted for. -/
theorem Reachable.accounted
    {importer : Importer}
    {app : Application}
    (h : app.Reachable importer) : app.Accounted := by
  induction h with
  | start conf faults hReturns =>
      exact accounted_start conf hReturns
  | step operation _ hAdmissible ih =>
      exact operation.accounted_perform ih hAdmissible

end Application

end Keyspaces
