import Keyspaces.Proofs.Factory

/-
  What a resolution that fails leaves behind. It leaves
  nothing, except in one case: the setting that says whether
  to connect is read after the cluster was created, and when
  it cannot be read the cluster stays.

  Main statements:
    * `KeyspaceFactory.leavesNothing_of_rollBack`
    * `KeyspaceFactory.Configured.leavesNothing_iff`
    * `Factory.leavesNothing_iff_not_strands`
-/

------------------------------------------------------------
-- Leaving Nothing Behind
------------------------------------------------------------

namespace Keyspaces

namespace Application

/-
  The factory is as before, what was created is neither live
  nor registered, and every name stands for the same cluster
  as before. Only a name of a cluster that was shut down
  before may be gone.
-/
structure LeavesNothing
    (before after : Application)
    (id : FactoryId) : Prop where
  factory :
    after.factories.get id = before.factories.get id
  created :
    ∀ cluster,
      before.fleet.clusters.size ≤ cluster →
      cluster < after.fleet.clusters.size →
        after.fleet.isLive cluster = false ∧
          ∀ registry name,
            after.registered? registry name ≠ some cluster
  registered :
    ∀ registry name,
      after.registered? registry name =
          before.registered? registry name ∨
        after.registered? registry name = none ∧
          ∃ cluster,
            before.registered? registry name =
                some cluster ∧
              before.fleet.isLive cluster = false

namespace LeavesNothing

/- Nothing is left if no cluster and no entry changed. -/
theorem of_same
    {before after : Application}
    {id : FactoryId}
    (hFactories : after.factories = before.factories)
    (hSize :
      after.fleet.clusters.size = before.fleet.clusters.size)
    (hRegistries : after.registries = before.registries) :
    LeavesNothing before after id where
  factory := by rw [hFactories]
  created := by
    intro cluster hNew hMade
    omega
  registered := by
    intro registry name
    left
    rw [registered?, registered?, hRegistries]

end LeavesNothing

/-
  A name that is released after the creation of a cluster
  under it stands for nothing, the others for what they did.
-/
theorem registered?_released_created
    {app failed : Application}
    {registry : RegistryId}
    {name : String}
    {configurator : Configurator}
    {options : ClusterOptions}
    (hRegistries :
      failed.registries =
        (app.created registry name configurator
          options).registries)
    (other : RegistryId)
    (key : String) :
    (failed.released registry (some name)).registered? other
        key =
      if other = registry ∧ key = name then none
      else app.registered? other key := by
  have hRegistered :
      failed.registered? other key =
        if other = registry ∧ key = name then
          some app.fleet.clusters.size
        else
          app.registered? other key := by
    rw [← registered?_created app registry other name key
      configurator options]
    rw [registered?, registered?, hRegistries]
  rw [registered?_released, hRegistered]
  by_cases hKey : other = registry ∧ key = name
  · simp [hKey]
  · have hOther :
        ¬ (other = registry ∧
          (some name = none ∨ some name = some key)) := by
      rintro ⟨hRegistry, hName⟩
      apply hKey
      exact ⟨hRegistry, by simpa [eq_comm] using hName⟩
    rw [if_neg hOther, if_neg hKey, if_neg hKey]

/-
  A name is released after the creation of a cluster under it:
  the cluster is shut down and forgotten, so nothing is left.
-/
theorem leavesNothing_released
    {app failed : Application}
    {registry : RegistryId}
    {name : String}
    {options : ClusterOptions}
    (id : FactoryId)
    (configurator : Configurator)
    (hMade : app.RegistersMade)
    (hDead :
      (app.registries.get registry).liveCluster? app.fleet
          name =
        none)
    (hFactories : failed.factories = app.factories)
    (hClusters :
      failed.fleet.clusters =
        (app.created registry name configurator
          options).fleet.clusters)
    (hRegistries :
      failed.registries =
        (app.created registry name configurator
          options).registries) :
    LeavesNothing app (failed.released registry (some name))
      id := by
  have hReleased :=
    registered?_released_created hRegistries
  have hSize :
      (failed.released registry
          (some name)).fleet.clusters.size =
        app.fleet.clusters.size + 1 := by
    rw [released, size_closeAll]
    change failed.fleet.clusters.size = _
    rw [hClusters]
    rfl
  constructor
  case factory =>
    rw [released, factories_closeAll]
    change failed.factories.get id = _
    rw [hFactories]
  case created =>
    intro cluster hNew hBound
    have hCluster : cluster = app.fleet.clusters.size := by
      omega
    subst cluster
    constructor
    · rw [← Bool.not_eq_true, isLive_released]
      rintro ⟨_, hKept⟩
      have hEntry :
          failed.registered? registry name =
            some app.fleet.clusters.size := by
        rw [← registered?_created_self app registry name
          configurator options]
        rw [registered?, registered?, hRegistries]
      exact (hKept name hEntry).2 rfl
    · intro other key hEntry
      rw [hReleased] at hEntry
      split at hEntry
      · contradiction
      · have hBefore := hMade other key _ hEntry
        exact absurd hBefore (Nat.lt_irrefl _)
  case registered =>
    intro other key
    rw [hReleased]
    by_cases hKey : other = registry ∧ key = name
    · rcases hKey with ⟨rfl, rfl⟩
      cases hBefore : app.registered? other key with
      | none => simp
      | some cluster =>
          right
          simp [Registry.isLive_eq_false_of_registered hDead
            hBefore]
    · left
      rw [if_neg hKey]

end Application

end Keyspaces

------------------------------------------------------------
-- Stranded Clusters
------------------------------------------------------------

namespace Keyspaces

namespace KeyspaceFactory

/-
  The resolution of a value creates a cluster and then finds
  that it cannot tell whether to connect with it.
-/
def Strands
    (factory : KeyspaceFactory)
    (app : Application)
    (value : Value) : Prop :=
  let conf := factory.conf.getD app.conf
  let registry := app.registries.get factory.registry
  factory.resolved = none ∧
    ∃ reference resource options failure,
      value.reference? = some reference ∧
        Resource.ofReference conf reference = .ok resource ∧
        registry.liveCluster? app.fleet
            resource.clusterName =
          none ∧
        ClusterOptions.ofConfigurator
            (registry.conf.getD app.conf)
            resource.configurator =
          .ok options ∧
        Call.create app.fleet.attempts ∉
          app.fleet.faults.failing ∧
        conf.read Setting.connectOnResolve = .error failure

variable {app : Application}
variable {factory : KeyspaceFactory}
variable {value : Value}
variable {reference : Reference}
variable {resource : Resource}

/-
  With a reference that is read, what strands a cluster is up
  to the registry, the driver and the configuration.
-/
theorem strands_iff
    (hValue : value.reference? = some reference)
    (hResolved : factory.resolved = none)
    (hResource :
      Resource.ofReference (factory.conf.getD app.conf)
          reference =
        .ok resource) :
    factory.Strands app value ↔
      ∃ options failure,
        (app.registries.get
            factory.registry).liveCluster? app.fleet
              resource.clusterName =
          none ∧
        ClusterOptions.ofConfigurator
            ((app.registries.get
              factory.registry).conf.getD app.conf)
            resource.configurator =
          .ok options ∧
        Call.create app.fleet.attempts ∉
          app.fleet.faults.failing ∧
        (factory.conf.getD app.conf).read
            Setting.connectOnResolve =
          .error failure := by
  unfold Strands
  constructor
  · rintro ⟨_, found, read, options, failure, hFound, hRead,
      hRest⟩
    have hReference : found = reference := by
      simpa [hValue] using hFound.symm
    subst found
    have hSame : resource = read := by
      simpa [hResource] using hRead
    subst read
    exact ⟨options, failure, hRest⟩
  · rintro ⟨options, failure, hRest⟩
    exact
      ⟨hResolved, reference, resource, options, failure,
        hValue, hResource, hRest⟩

/- A reference that cannot be read strands no cluster. -/
theorem not_strands_of_unread
    {failure : Failure}
    (hValue : value.reference? = some reference)
    (hResource :
      Resource.ofReference (factory.conf.getD app.conf)
          reference =
        .error failure) :
    ¬ factory.Strands app value := by
  rintro ⟨_, found, resource, _, _, hFound, hRead, _⟩
  have hReference : found = reference := by
    simpa [hValue] using hFound.symm
  subst found
  simp [hResource] at hRead

/- A cluster that is not obtained is not left behind. -/
theorem leavesNothing_of_refused
    (id : FactoryId)
    {registry : RegistryId}
    {name : String}
    {configurator : Configurator}
    {failure : Failure}
    {after : Application}
    (hObtained :
      Registry.Obtained app registry name configurator
        (.error failure, after)) :
    Application.LeavesNothing app after id := by
  cases hObtained with
  | unmapped _ _ => exact .of_same rfl rfl rfl
  | refused _ _ _ => exact .of_same rfl rfl rfl

/-
  A connection that fails is rolled back without a failure,
  and nothing is left: a cluster that was created for it is
  released, and one that was there before stays.
-/
theorem leavesNothing_of_rollBack
    (id : FactoryId)
    {registry : RegistryId}
    {name : String}
    {configurator : Configurator}
    {label : Option String}
    {cluster : ClusterId}
    {obtained failed : Application}
    (hMade : app.RegistersMade)
    (hReturns : app.fleet.faults.ShutdownReturns)
    (hObtained :
      Registry.Obtained app registry name configurator
        (.ok cluster, obtained))
    (hSteady :
      Application.Steady (obtained.withHandle label cluster)
        failed) :
    ∃ undone,
      (rollBack registry name cluster
          (app.registered? registry name)).perform failed =
        (.ok (), undone) ∧
        Application.LeavesNothing app undone id := by
  have hFaults : failed.fleet.faults = app.fleet.faults := by
    cases hObtained <;> exact hSteady.faults
  rw [perform_rollBack (hFaults ▸ hReturns)]
  cases hObtained with
  | reused hLive =>
      have hKnown :=
        ((Registry.liveCluster?_eq_some_iff app registry name
          cluster).mp hLive).1
      rw [if_neg (by simp [hKnown])]
      refine ⟨failed, rfl, ?_⟩
      exact
        .of_same hSteady.factories
          (congrArg Pool.size hSteady.clusters)
          hSteady.registries
  | @created options hDead _ _ =>
      have hNew :
          app.registered? registry name ≠
            some app.fleet.clusters.size := by
        intro hKnown
        have hBefore := hMade _ _ _ hKnown
        exact absurd hBefore (Nat.lt_irrefl _)
      have hEntry :
          failed.registered? registry name =
            some app.fleet.clusters.size := by
        rw [← Application.registered?_created_self app
          registry name configurator options]
        rw [Application.registered?, hSteady.registries]
        rfl
      rw [if_pos ⟨hNew, hEntry⟩]
      refine ⟨failed.released registry (some name), rfl, ?_⟩
      exact
        Application.leavesNothing_released id configurator
          hMade hDead hSteady.factories hSteady.clusters
          hSteady.registries

/-
  A first resolution that fails leaves something behind
  exactly when it strands a cluster.
-/
theorem Configured.leavesNothing_iff
    {after : Application}
    {id : FactoryId}
    {name : Option String}
    {failure : Failure}
    (hMade : app.RegistersMade)
    (hReturns : app.fleet.faults.ShutdownReturns)
    (hValue : value.reference? = some reference)
    (hResolved : factory.resolved = none)
    (hConfigured :
      Configured app id factory reference name
        (.error failure, after)) :
    Application.LeavesNothing app after id ↔
      ¬ factory.Strands app value := by
  have hObtained := fun resource : Resource =>
    Registry.obtained_getOrCreate app factory.registry
      resource.clusterName resource.configurator
  cases hConfigured with
  | unread hResource =>
      refine iff_of_true (.of_same rfl rfl rfl) ?_
      exact not_strands_of_unread hValue hResource
  | @unavailable resource _ _ hResource hObtain =>
      have hRefused := hObtained resource
      rw [hObtain] at hRefused
      refine
        iff_of_true (leavesNothing_of_refused id hRefused) ?_
      rw [strands_iff hValue hResolved hResource]
      rintro ⟨options, _, _, hMapped, hCreates, _⟩
      cases hRefused with
      | unmapped _ hOptions => simp [hOptions] at hMapped
      | refused _ _ hFails => exact hCreates hFails
  | @undecided resource _ _ fault hResource hObtain
      hConnects =>
      have hGiven := hObtained resource
      rw [hObtain] at hGiven
      rw [strands_iff hValue hResolved hResource]
      cases hGiven with
      | reused hLive =>
          refine iff_of_true (.of_same rfl rfl rfl) ?_
          rintro ⟨_, _, hDead, _⟩
          simp [hLive] at hDead
      | @created options hDead hOptions hSucceeds =>
          refine iff_of_false ?_ ?_
          · intro h
            have hLeft :=
              (h.created app.fleet.clusters.size
                (Nat.le_refl _) (Nat.lt_succ_self _)).1
            have hLive :=
              Application.isLive_created app
                factory.registry resource.clusterName
                resource.configurator options
                app.fleet.clusters.size
            rw [if_pos rfl] at hLive
            exact absurd (hLeft.symm.trans hLive) (by simp)
          · rw [not_not]
            exact
              ⟨options, failure, hDead, hOptions, hSucceeds,
                hConnects⟩
  | @unreachable resource cluster obtained failed _ connects _
      hResource hObtain hConnects _ hConnect hUndo =>
      have hGiven := hObtained resource
      rw [hObtain] at hGiven
      have hSteady :=
        Handle.steady_connect obtained.handles.size
          (obtained.withHandle (some resource.keyspaceName)
            cluster)
      rw [hConnect] at hSteady
      rcases leavesNothing_of_rollBack id hMade hReturns
          hGiven hSteady with
        ⟨undone, hRolledBack, hNothing⟩
      rw [hRolledBack] at hUndo
      cases hUndo
      refine iff_of_true hNothing ?_
      rw [strands_iff hValue hResolved hResource]
      rintro ⟨_, _, _, _, _, hRead⟩
      simp [hConnects] at hRead
  | @stuck resource cluster obtained failed _ connects fault _
      hResource hObtain hConnects _ hConnect hUndo =>
      have hGiven := hObtained resource
      rw [hObtain] at hGiven
      have hSteady :=
        Handle.steady_connect obtained.handles.size
          (obtained.withHandle (some resource.keyspaceName)
            cluster)
      rw [hConnect] at hSteady
      rcases leavesNothing_of_rollBack id hMade hReturns
          hGiven hSteady with
        ⟨undone, hRolledBack, _⟩
      rw [hRolledBack] at hUndo
      simp at hUndo

end KeyspaceFactory

namespace Factory

open KeyspaceFactory

/-
  A resolution that fails leaves nothing behind, unless it
  strands a cluster.
-/
theorem leavesNothing_iff_not_strands
    {app after : Application}
    {id : FactoryId}
    {factory : KeyspaceFactory}
    {value : Value}
    {name : Option String}
    {context : Option ContextId}
    {failure : Failure}
    (hMade : app.RegistersMade)
    (hReturns : app.fleet.faults.ShutdownReturns)
    (hFactory : app.factories.get id = .keyspaces factory)
    (hFails :
      (resolve id value name context).perform app =
        (.error failure, after)) :
    Application.LeavesNothing app after id ↔
      ¬ factory.Strands app value := by
  rw [perform_resolve_keyspaces hFactory] at hFails
  have hAnswered :=
    answered_resolve app id factory value name
  cases hPerform :
      (factory.resolve id value name).perform app with
  | mk outcome final =>
      rw [hPerform] at hFails hAnswered
      rcases outcome with fault | handle
      · cases hFails
        cases hAnswered with
        | unfit hValue =>
            refine iff_of_true (.of_same rfl rfl rfl) ?_
            rintro ⟨_, reference, _, _, _, hReference, _⟩
            simp [hValue] at hReference
        | configured hValue hResolved hConfigured =>
            exact
              hConfigured.leavesNothing_iff hMade hReturns
                hValue hResolved
      · simp at hFails

end Factory

end Keyspaces

------------------------------------------------------------
-- A Stranded Cluster
------------------------------------------------------------

namespace Keyspaces

namespace Undecided

/- A keyspace of a cluster with a single host. -/
def reference : Reference :=
  ⟨none, none,
    [("hosts", .text "a"),
     ("clusterName", .text "C"),
     ("keyspace", .text "K")]⟩

/- The setting that says whether to connect is malformed. -/
def conf : Config :=
  .ofList [(Setting.connectOnResolve.key, .text "maybe")]

/- The failure to read that setting. -/
def failure : Failure :=
  .invalidValue (.text "maybe") Setting.connectOnResolve.key
    .notTruthValue

/- A factory of keyspaces that resolved nothing yet. -/
def factory : KeyspaceFactory :=
  .create none none

/- An application with this factory only. -/
def before : Application :=
  ((Factory.add (.keyspaces factory)).perform
    (.start conf .none)).2

/- The application after the resolution of the reference. -/
def after : Application :=
  ((Factory.resolve 0 reference.toValue none none).perform
    before).2

/- No cluster is registered yet. -/
theorem registersMade_before : before.RegistersMade := by
  intro registry name cluster hRegistered
  have hNone : before.registered? registry name = none := by
    change
      (if registry = 0 then (⟨none, .empty⟩ : Registry)
        else default).clusters.get? name = none
    split <;> rfl
  rw [hNone] at hRegistered
  contradiction

end Undecided

namespace Factory

open Undecided

/-
  A resolution that leaves something behind exactly when it
  strands a cluster.
-/
theorem leavesNothing_undecided_iff :
    Application.LeavesNothing before after 0 ↔
      ¬ factory.Strands before reference.toValue := by
  have hFactory :
      before.factories.get 0 = .keyspaces factory :=
    rfl
  have hFails :
      (resolve 0 reference.toValue none none).perform
          before =
        (.error failure, after) :=
    rfl
  exact
    leavesNothing_iff_not_strands registersMade_before
      (fun _ => List.not_mem_nil) hFactory hFails

/-
  A resolution fails without an answer on whether to connect,
  and the cluster it created is live and registered.
-/
theorem not_leavesNothing_undecided :
    ((resolve 0 reference.toValue none none).perform
          before).1 =
        .error failure ∧
      after.fleet.isLive 0 = true ∧
        after.registered? 0 "C" = some 0 ∧
          ¬ Application.LeavesNothing before after 0 := by
  have hLive : after.fleet.isLive 0 = true := rfl
  refine ⟨rfl, hLive, rfl, ?_⟩
  intro hNothing
  have hDead :=
    (hNothing.created 0 (Nat.le_refl 0) Nat.one_pos).1
  rw [hLive] at hDead
  contradiction

end Factory

end Keyspaces
