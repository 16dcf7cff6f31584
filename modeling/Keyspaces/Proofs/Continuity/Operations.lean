import Keyspaces.Proofs.Continuity
import Keyspaces.Proofs.Run

/-
  What goes on along a run of an application. No step loses
  what was made, and every step but the shutdown of clusters
  and the creation of a registry spares what is live. This
  holds of resolutions that fail as well, also when they fail
  to shut down the cluster that they created.

  Main statements:
    * `Registry.extends_getOrCreate`
    * `Registry.advances_shutdown`
    * `KeyspaceFactory.Configured.extends`
    * `Context.extends_lookup`
    * `Step.extends_perform`
    * `Application.advances_run`
    * `Application.coherent_run`
-/

------------------------------------------------------------
-- Registries
------------------------------------------------------------

namespace Keyspaces

namespace Registry

open Keyspaces.Action Application

/- However asking for a cluster ends, nothing is harmed. -/
theorem Obtained.extends
    {app : Application}
    {id : RegistryId}
    {name : String}
    {configurator : Configurator}
    {outcome : Except Failure ClusterId × Application}
    (hObtained : Obtained app id name configurator outcome) :
    Extends app outcome.2 := by
  cases hObtained with
  | reused _ => exact .of_alike (alike_logged app rfl)
  | unmapped _ _ => exact .refl app
  | refused _ _ _ =>
      refine .of_alike ?_
      constructor <;> intros <;> rfl
  | created hDead _ _ =>
      exact .created configurator _ hDead

/- Asking for a cluster adds no resolution. -/
theorem Obtained.resolved_iff
    {app : Application}
    {id : RegistryId}
    {name : String}
    {configurator : Configurator}
    {outcome : Except Failure ClusterId × Application}
    (hObtained : Obtained app id name configurator outcome)
    (registry : RegistryId)
    (key : String)
    (handle : HandleId) :
    outcome.2.Resolved registry key handle ↔
      app.Resolved registry key handle := by
  cases hObtained with
  | reused _ => exact (alike_logged app rfl).resolved _ _ _
  | unmapped _ _ => exact Iff.rfl
  | refused _ _ _ => exact Iff.rfl
  | created _ _ _ =>
      exact
        resolved_created_iff app id registry name key handle
          configurator _

theorem extends_getOrCreate
    (id : RegistryId)
    (name : String)
    (configurator : Configurator) :
    Relates Extends (getOrCreate id name configurator) :=
  fun app =>
    (obtained_getOrCreate app id name configurator).extends

/- What is left of a registry was registered before. -/
theorem registered?_of_remaining
    {app : Application}
    {id : RegistryId}
    {name : Option String}
    {key : String}
    {cluster : ClusterId}
    (h :
      ((app.registries.get id).remaining name).get? key =
        some cluster) :
    app.registered? id key = some cluster := by
  cases name with
  | none => contradiction
  | some name =>
      rw [remaining, Table.get?_erase] at h
      split at h
      · contradiction
      · exact h

/- A shutdown loses nothing that was made. -/
theorem advances_shutdown
    (id : RegistryId)
    (name : Option String) :
    Relates Advances (shutdown id name) :=
  relates_shutdown
    (fun _ =>
      .setRegistered fun _ _ => registered?_of_remaining)
    (fun app _ =>
      (Extends.of_alike (alike_closed app _)).toAdvances)
    (fun _ _ => .closeCluster _)

end Registry

end Keyspaces

------------------------------------------------------------
-- Rolling Back
------------------------------------------------------------

namespace Keyspaces

namespace Application

variable {before after : Application}
variable {cluster : ClusterId}

/- Forgetting a name adds no resolution. -/
theorem resolved_forgetting_iff
    (app : Application)
    (id : RegistryId)
    (name : String)
    (registry : RegistryId)
    (key : String)
    (handle : HandleId) :
    (app.forgetting id name).Resolved registry key handle ↔
      app.Resolved registry key handle :=
  (alike_closed (app.setRegistered id _) name).resolved
    registry key handle

/- Forgetting a name loses nothing that was made. -/
theorem advances_forgetting
    (app : Application)
    (id : RegistryId)
    (name : String) :
    Advances app (app.forgetting id name) := by
  have hForgotten :
      Advances app
        (app.setRegistered id
          ((app.registries.get id).remaining (some name))) :=
    .setRegistered fun _ _ => Registry.registered?_of_remaining
  exact
    hForgotten.trans
      (Extends.of_alike (alike_closed _ name)).toAdvances

/-
  What was live before is spared when a name is forgotten that
  came to stand for a cluster that was not.
-/
theorem Spares.forgetting
    (h : Spares before after)
    {id : RegistryId}
    {name : String}
    (hNew : before.fleet.isLive cluster = false)
    (hRegistered : after.registered? id name = some cluster)
    (hResolved :
      ∀ registry key handle,
        after.Resolved registry key handle →
          before.Resolved registry key handle) :
    Spares before (after.forgetting id name) where
  live := h.live
  kept := by
    intro registry key kept hKept hLive
    have hStill := h.kept registry key kept hKept hLive
    have hOther : ¬ (registry = id ∧ key = name) := by
      rintro ⟨rfl, rfl⟩
      rw [hRegistered] at hStill
      rw [← Option.some.inj hStill, hNew] at hLive
      contradiction
    rw [registered?_forgetting, if_neg hOther]
    exact hStill
  resolved := by
    intro registry key handle hHandle
    rw [resolved_forgetting_iff] at hHandle
    exact Or.inl (hResolved registry key handle hHandle)

/-
  What was live before is spared when a cluster is shut down
  that was not.
-/
theorem Spares.closing
    (h : Spares before after)
    (hNew : before.fleet.isLive cluster = false)
    (hResolved :
      ∀ registry key handle,
        after.Resolved registry key handle →
          before.Resolved registry key handle) :
    Spares before
      (after.withFleet (·.closeCluster cluster)) where
  live := by
    intro other hLive
    have hOther : other ≠ cluster := by
      rintro rfl
      rw [hNew] at hLive
      contradiction
    have hClosed :=
      Fleet.isLive_closeCluster after.fleet cluster other
    rw [if_neg hOther] at hClosed
    exact hClosed.trans (h.live other hLive)
  kept := h.kept
  resolved := by
    intro registry key handle hHandle
    exact Or.inl (hResolved registry key handle hHandle)

end Application

end Keyspaces

------------------------------------------------------------
-- Factories
------------------------------------------------------------

namespace Keyspaces

namespace KeyspaceFactory

open Keyspaces.Action Application

variable {app : Application}
variable {id : FactoryId}
variable {factory : KeyspaceFactory}
variable {reference : Reference}
variable {name : Option String}

/- Rolling back loses nothing that was made. -/
theorem RolledBack.advances
    {registry : RegistryId}
    {key : String}
    {cluster : ClusterId}
    {existing : Option ClusterId}
    {outcome : Except Failure Unit × Application}
    (h : RolledBack app registry key cluster existing outcome) :
    Advances app outcome.2 := by
  have hForgotten := advances_forgetting app registry key
  cases h with
  | untouched _ => exact .refl app
  | released _ _ =>
      exact hForgotten.trans (.closeCluster cluster)
  | abandoned _ _ => exact hForgotten

/-
  What was live before a cluster was obtained is spared when
  this is rolled back, since the cluster is only shut down if
  it was created in between.
-/
theorem RolledBack.spares
    {registry : RegistryId}
    {key : String}
    {configurator : Configurator}
    {cluster : ClusterId}
    {obtained failed : Application}
    {outcome : Except Failure Unit × Application}
    (h :
      RolledBack failed registry key cluster
        (app.registered? registry key) outcome)
    (hObtained :
      Registry.Obtained app registry key configurator
        (.ok cluster, obtained))
    (hMade : Extends obtained failed)
    (hResolved :
      ∀ other name handle,
        failed.Resolved other name handle →
          app.Resolved other name handle)
    (hCoherent : app.Coherent) :
    Spares app outcome.2 := by
  have hFailed :=
    (hObtained.extends.trans hMade).spares hCoherent
  have hDead :
      app.registered? registry key ≠ some cluster →
        app.fleet.isLive cluster = false := by
    intro hNew
    cases hObtained with
    | reused hLive =>
        rw [Registry.liveCluster?_eq_some_iff] at hLive
        exact absurd hLive.1 hNew
    | created _ _ _ =>
        by_contra hLive
        rw [Bool.not_eq_false] at hLive
        exact
          absurd (hCoherent.live _ hLive) (Nat.lt_irrefl _)
  cases h with
  | untouched _ => exact hFailed
  | released hNew hRegistered =>
      have hForgotten :=
        hFailed.forgetting (hDead hNew) hRegistered hResolved
      refine hForgotten.closing (hDead hNew) ?_
      intro other name handle hHandle
      rw [resolved_forgetting_iff] at hHandle
      exact hResolved other name handle hHandle
  | abandoned hNew hRegistered =>
      exact
        hFailed.forgetting (hDead hNew) hRegistered hResolved

/- What a connection that fails and is rolled back leaves. -/
theorem extends_undone
    {registry : RegistryId}
    {key : String}
    {keyspace : Option String}
    {configurator : Configurator}
    {cluster : ClusterId}
    {obtained failed undone : Application}
    {connected : Except Failure SessionId}
    {rolledBack : Except Failure Unit}
    (hObtain :
      (Registry.getOrCreate registry key
          configurator).perform app =
        (.ok cluster, obtained))
    (hConnect :
      (Handle.connect obtained.handles.size).perform
          (obtained.withHandle keyspace cluster) =
        (connected, failed))
    (hUndo :
      (rollBack registry key cluster
          (app.registered? registry key)).perform failed =
        (rolledBack, undone)) :
    Extends app undone := by
  have hObtained :=
    Registry.obtained_getOrCreate app registry key configurator
  have hSteady :=
    Handle.steady_connect obtained.handles.size
      (obtained.withHandle keyspace cluster)
  have hRolledBack :=
    rolledBack_rollBack failed registry key cluster
      (app.registered? registry key)
  rw [hObtain] at hObtained
  rw [hConnect] at hSteady
  rw [hUndo] at hRolledBack
  have hMade : Extends obtained failed :=
    (Extends.withHandle keyspace cluster).trans
      (.of_alike hSteady.alike)
  constructor
  case toAdvances =>
    exact
      (hObtained.extends.trans hMade).toAdvances.trans
        hRolledBack.advances
  case spares =>
    refine hRolledBack.spares hObtained hMade ?_
    intro other name handle hHandle
    rw [hSteady.resolved] at hHandle
    exact (hObtained.resolved_iff other name handle).mp hHandle

/-
  A handle that is ready is on the live cluster registered
  under the name of the resource.
-/
theorem serves_of_obtained
    {resource : Resource}
    {cluster : ClusterId}
    {obtained ready : Application}
    (hObtained :
      Registry.Obtained app factory.registry
        resource.clusterName resource.configurator
        (.ok cluster, obtained))
    (hSteady :
      Steady
        (obtained.withHandle (some resource.keyspaceName)
          cluster)
        ready) :
    ready.Serves factory.registry resource.clusterName
      obtained.handles.size := by
  have hCluster :
      (ready.handles.get obtained.handles.size).cluster =
        cluster := by
    rw [hSteady.handleCluster]
    exact
      congrArg Handle.cluster
        (Pool.get_add_self obtained.handles _)
  rcases hObtained.registered with ⟨hRegistered, hLive⟩
  refine ⟨?_, ?_, ?_⟩
  · rw [hSteady.handleCount]
    exact Nat.lt_succ_self _
  · rw [hCluster, registered?, hSteady.registries]
    exact hRegistered
  · rw [hCluster, Fleet.isLive, hSteady.clusters]
    exact hLive

/- Resolving a reference for the first time harms nothing. -/
theorem Configured.extends
    {outcome : Except Failure HandleId × Application}
    (hConfigured :
      Configured app id factory reference name outcome)
    (hFactory : app.factories.get id = .keyspaces factory)
    (hUnresolved : factory.resolved = none) :
    Extends app outcome.2 := by
  have hObtained := fun resource : Resource =>
    Registry.obtained_getOrCreate app factory.registry
      resource.clusterName resource.configurator
  cases hConfigured with
  | unread _ => exact .refl app
  | @unavailable resource _ _ _ hObtain =>
      have hExtends := (hObtained resource).extends
      rw [hObtain] at hExtends
      exact hExtends
  | @undecided resource cluster _ _ _ hObtain _ =>
      have hExtends := (hObtained resource).extends
      rw [hObtain] at hExtends
      exact
        hExtends.trans
          (.withHandle (some resource.keyspaceName) cluster)
  | unreachable _ hObtain _ _ hConnect hUndo =>
      exact extends_undone hObtain hConnect hUndo
  | stuck _ hObtain _ _ hConnect hUndo =>
      exact extends_undone hObtain hConnect hUndo
  | @resolved resource cluster obtained ready connects _
      hObtain _ hReady =>
      have hOutcome := hObtained resource
      rw [hObtain] at hOutcome
      have hSteady := steady_of_ready hReady
      have hMade : Extends app ready :=
        hOutcome.extends.trans
          ((Extends.withHandle _ _).trans
            (.of_alike hSteady.alike))
      have hSame : ready.factories = app.factories := by
        rw [hSteady.factories]
        exact hOutcome.factories
      refine hMade.trans (.keeping _ ?_ hUnresolved ?_)
      · rw [hSame]
        exact hFactory
      · exact serves_of_obtained hOutcome hSteady

end KeyspaceFactory

end Keyspaces

namespace Keyspaces

namespace Factory

open Keyspaces.Action Application

/- A recorder that counts a call harms nothing. -/
theorem extends_counted
    {app : Application}
    {id : FactoryId}
    {recorder : Recorder}
    (hFactory : app.factories.get id = .recorder recorder) :
    Extends app (counted app id recorder) := by
  refine .setFactory ?_
  rw [hFactory]
  rfl

/- Resolving a value through any factory harms nothing. -/
theorem extends_resolve
    (id : FactoryId)
    (value : Value)
    (name : Option String)
    (context : Option ContextId) :
    Relates Extends (resolve id value name context) := by
  intro app
  have hAsked := asked_resolve app id value name context
  generalize (resolve id value name context).perform app =
    outcome at *
  cases hAsked with
  | keyspaces hFactory hAnswered =>
      cases hAnswered with
      | unfit _ => exact .refl app
      | known _ _ => exact .refl app
      | configured _ hUnresolved hConfigured =>
          exact hConfigured.extends hFactory hUnresolved
  | recorder hFactory => exact extends_counted hFactory
  | inert _ => exact .refl app

end Factory

end Keyspaces

------------------------------------------------------------
-- Contexts
------------------------------------------------------------

namespace Keyspaces

namespace Context

open Keyspaces.Action Application

/- Binding a name harms nothing. -/
theorem extends_bind
    (id : ContextId)
    (name : String)
    (value : Value) :
    Relates Extends (bind id name value) := by
  intro app
  rw [perform_bind_eq]
  split
  · exact .refl app
  · exact .setContext (fun _ h => h) fun _ _ => Or.inl

/- Forgetting the factory of a name harms nothing. -/
theorem extends_forget
    (app : Application)
    (id : ContextId)
    (name : String)
    (bindings : Table String Value) :
    Extends app
      (app.setContext id
        { app.contexts.get id with
          bindings := bindings
          factories :=
            (app.contexts.get id).factories.erase name }) := by
  refine .setContext (fun _ h => h) ?_
  intro key factory hFactory
  rw [Table.get?_erase] at hFactory
  split at hFactory
  · contradiction
  · exact Or.inl hFactory

/- Loading declarations harms nothing. -/
theorem extends_load
    (id : ContextId)
    (declared : Except Failure Declarations) :
    Relates Extends (load id declared) := by
  intro first
  refine keeps_load (P := Extends first) ?_ ?_ declared first
    (.refl first)
  · intro name value app hApp
    exact hApp.trans (extends_bind id name value app)
  · intro names app hApp
    exact hApp.trans (.of_alike (alike_logged app rfl))

/-
  Remembering a factory that was made with the arguments of a
  context harms nothing.
-/
theorem extends_remembering
    {app : Application}
    {id : ContextId}
    (name : String)
    {factory : FactoryId}
    (hMade : factory < app.factories.size)
    (hChooses :
      ∀ found,
        app.factories.get factory = .keyspaces found →
          Argument.Chooses (app.contexts.get id).arguments
            found.registry) :
    Extends app (app.remembering id name factory) := by
  refine .setContext (fun _ h => h) ?_
  intro key other hOther
  dsimp only at hOther
  rw [Table.get?_insert] at hOther
  split at hOther
  · cases hOther
    exact Or.inr ⟨hMade, hChooses⟩
  · exact Or.inl hOther

/- Finding the factory of a reference harms nothing. -/
theorem Furnished.extends
    {importer : Importer}
    {id : ContextId}
    {name : String}
    {reference : Reference}
    {app : Application}
    {occurrences : List Occurrence}
    {outcome : Except Failure FactoryId × Application}
    (h :
      Furnished importer id name reference app occurrences
        outcome) :
    Extends app outcome.2 := by
  cases h with
  | remembered _ => exact .refl app
  | pathless _ _ => exact .refl app
  | missing _ _ _ => exact .refl app
  | broken _ _ _ _ => exact .refl app
  | @made _ _ factory _ _ _ hUsage _ =>
      have hAdded :
          Extends app
            { app with
              factories := app.factories.add factory } := by
        refine .addFactory ?_
        rintro found rfl
        exact (Factory.chooses_of_ofUsage hUsage).1
      refine
        hAdded.trans
          (extends_remembering name (Nat.lt_succ_self _) ?_)
      intro found hFound
      dsimp only at hFound
      rw [Pool.get_add_self] at hFound
      subst hFound
      exact (Factory.chooses_of_ofUsage hUsage).2

/- Looking a name up harms nothing. -/
theorem extends_lookup
    (importer : Importer)
    (id : ContextId)
    (name : String) :
    Relates Extends (lookup importer id name) := by
  intro first
  refine keeps_lookup (P := Extends first) ?_ ?_ first
    (.refl first)
  · intro reference app hApp
    rcases furnished_factoryOf importer id name reference app
      with ⟨occurrences, hFurnished⟩
    exact hApp.trans hFurnished.extends
  · intro factory value app hApp
    exact
      hApp.trans
        (Factory.extends_resolve factory value _ _ app)

end Context

end Keyspaces

------------------------------------------------------------
-- Operations and Steps
------------------------------------------------------------

namespace Keyspaces

namespace Operation

open Keyspaces.Action Application

/- The operation shuts clusters down on purpose. -/
def ShutsDown : Operation → Prop
| .shutdownClusters _ _ => True
| .closeCluster _ => True
| _ => False

/- The operation makes a registry. -/
def MakesRegistry : Operation → Prop
| .createRegistry _ => True
| _ => False

/- Other operations harm nothing, even if they fail. -/
theorem extends_perform
    (importer : Importer)
    {operation : Operation}
    (hOpen : ¬ operation.ShutsDown)
    (hRegistry : ¬ operation.MakesRegistry)
    (app : Application) :
    Extends app (operation.perform importer app) := by
  by_cases hQuiet : operation.IsQuiet
  · exact .of_alike (steady_perform importer hQuiet app).alike
  cases operation with
  | createRegistry conf => exact absurd trivial hRegistry
  | getOrCreate registry name configurator =>
      exact
        after_discard (motive := Extends app)
          (Registry.extends_getOrCreate registry name
            configurator app)
  | shutdownClusters registry name =>
      exact absurd trivial hOpen
  | createFactory registry conf =>
      refine
        after_discard (motive := Extends app)
          (.addFactory ?_)
      rintro found hFound
      cases hFound
      rfl
  | resolve factory value name context =>
      exact
        after_discard (motive := Extends app)
          (Factory.extends_resolve factory value name context
            app)
  | createContext arguments =>
      exact
        after_discard (motive := Extends app)
          (.addContext arguments)
  | bind context name value =>
      exact Context.extends_bind context name value app
  | rebind context name value =>
      exact Context.extends_forget app context name _
  | unbind context name =>
      exact Context.extends_forget app context name _
  | load context declared =>
      exact
        after_discard (motive := Extends app)
          (Context.extends_load context declared app)
  | lookup context name =>
      exact
        after_discard (motive := Extends app)
          (Context.extends_lookup importer context name app)
  | createHandle name cluster =>
      exact
        after_discard (motive := Extends app)
          (.withHandle name cluster)
  | closeCluster cluster => exact absurd trivial hOpen
  | setConf conf =>
      refine .of_alike ?_
      constructor <;> intros <;> rfl
  | setFaults faults =>
      refine .of_alike ?_
      constructor <;> intros <;> rfl
  | _ => exact absurd trivial hQuiet

/- No operation loses what was made. -/
theorem advances_perform
    (importer : Importer)
    (operation : Operation)
    (app : Application) :
    Advances app (operation.perform importer app) := by
  by_cases hOpen : operation.ShutsDown
  · cases operation with
    | shutdownClusters registry name =>
        exact Registry.advances_shutdown registry name app
    | closeCluster cluster => exact .closeCluster cluster
    | _ => exact absurd hOpen id
  · by_cases hRegistry : operation.MakesRegistry
    · cases operation with
      | createRegistry conf => exact .addRegistry conf
      | _ => exact absurd hRegistry id
    · exact
        (extends_perform importer hOpen hRegistry
          app).toAdvances

end Operation

namespace Holder

open Application

/- Other values of a configuration choose no other registry. -/
theorem chooses_setArgument
    {conf : Config}
    {arguments : List Argument}
    (registry : RegistryId)
    (h : Argument.Chooses arguments registry) :
    Argument.Chooses (arguments.map (setArgument conf))
      registry := by
  induction h with
  | given registry rest => exact .given registry _
  | skipped given _ ih => exact .skipped _ ih
  | missing => exact .missing

/- Giving a configuration other values harms nothing. -/
theorem extends_reconfigure
    (holder : Holder)
    (conf : Config)
    (app : Application) :
    Extends app (holder.reconfigure app conf) := by
  cases holder with
  | registry id => exact .setRegistry rfl
  | factory id =>
      rw [reconfigure]
      cases hFactory : app.factories.get id with
      | keyspaces found =>
          refine .setFactory ?_
          rw [hFactory]
          rfl
      | recorder recorder => exact .refl app
      | inert kindName => exact .refl app
  | context id =>
      exact .setContext chooses_setArgument fun _ _ => Or.inl

end Holder

namespace Step

open Application

/- The step shuts clusters down on purpose. -/
def ShutsDown : Step → Prop
| .operation _ done => done.ShutsDown
| .reconfigure _ _ => False

/- The step makes a registry. -/
def MakesRegistry : Step → Prop
| .operation _ done => done.MakesRegistry
| .reconfigure _ _ => False

/- Other steps harm nothing. -/
theorem extends_perform
    {step : Step}
    (hOpen : ¬ step.ShutsDown)
    (hRegistry : ¬ step.MakesRegistry)
    (app : Application) :
    Extends app (step.perform app) := by
  cases step with
  | operation importer done =>
      exact done.extends_perform importer hOpen hRegistry app
  | reconfigure holder conf =>
      exact holder.extends_reconfigure conf app

/- No step loses what was made. -/
theorem advances_perform
    (step : Step)
    (app : Application) : Advances app (step.perform app) := by
  cases step with
  | operation importer done =>
      exact done.advances_perform importer app
  | reconfigure holder conf =>
      exact (holder.extends_reconfigure conf app).toAdvances

end Step

------------------------------------------------------------
-- Runs
------------------------------------------------------------

namespace Application

/- No run loses what was made. -/
theorem advances_run
    (app : Application)
    (steps : List Step) : Advances app (app.run steps) :=
  run_induction (motive := Advances app)
    (fun step _ before hBefore =>
      hBefore.trans (step.advances_perform before))
    (.refl app)

/- An application that is reached is coherent. -/
theorem coherent_run
    (conf : Config)
    (faults : Faults)
    (steps : List Step) :
    ((start conf faults).run steps).Coherent :=
  (advances_run _ steps).coherent (coherent_start conf faults)

end Application

end Keyspaces
