import Keyspaces.Proofs.Action
import Keyspaces.Proofs.Table
import Keyspaces.Registry

/-
  What asking a registry for a cluster and shutting its
  clusters down come to, as one outcome for each way they can
  end.

  Main statements:
    * `Registry.obtained_getOrCreate`
    * `Registry.perform_shutdown`
-/

------------------------------------------------------------
-- Registered Clusters
------------------------------------------------------------

namespace Keyspaces

/- The cluster that is registered under a name. -/
def Application.registered?
    (app : Application)
    (id : RegistryId)
    (name : String) : Option ClusterId :=
  (app.registries.get id).clusters.get? name

/- The shutdown of a cluster never fails. -/
def Faults.ShutdownReturns (faults : Faults) : Prop :=
  ∀ cluster, Call.shutdownCluster cluster ∉ faults.failing

namespace Application

/- Only clusters that were made are registered. -/
def RegistersMade (app : Application) : Prop :=
  ∀ registry name cluster,
    app.registered? registry name = some cluster →
      cluster < app.fleet.clusters.size

/- Changing a registry changes no other registry. -/
theorem registered?_setRegistered
    (app : Application)
    (id other : RegistryId)
    (clusters : Table String ClusterId)
    (name : String) :
    (app.setRegistered id clusters).registered? other name =
      if other = id then clusters.get? name
      else app.registered? other name := by
  unfold registered? setRegistered
  by_cases hOther : other = id
  · subst other
    simp
  · simp [hOther, Pool.get_set_of_ne]

end Application

namespace Fleet

/- A cluster that was added is live, the others are as before. -/
theorem isLive_addCluster
    (fleet : Fleet)
    (options : ClusterOptions)
    (cluster : ClusterId) :
    (fleet.addCluster options).isLive cluster =
      if cluster = fleet.clusters.size then true
      else fleet.isLive cluster := by
  unfold isLive addCluster
  by_cases hNew : cluster = fleet.clusters.size
  · subst cluster
    simp
  · simp [hNew, Pool.get_add_of_ne]

/- A cluster that was closed is not live. -/
theorem isLive_closeCluster
    (fleet : Fleet)
    (closed cluster : ClusterId) :
    (fleet.closeCluster closed).isLive cluster =
      if cluster = closed then false
      else fleet.isLive cluster := by
  unfold isLive closeCluster
  by_cases hClosed : cluster = closed
  · subst cluster
    simp
  · simp [hClosed, Pool.get_set_of_ne]

end Fleet

end Keyspaces

------------------------------------------------------------
-- Obtaining a Cluster
------------------------------------------------------------

namespace Keyspaces

/-
  The application in which a registry created a cluster with
  some options under a name.
-/
def Application.created
    (app : Application)
    (id : RegistryId)
    (name : String)
    (configurator : Configurator)
    (options : ClusterOptions) : Application :=
  let cluster := app.fleet.clusters.size
  let clusters := (app.registries.get id).clusters
  (((app.withFleet Fleet.countAttempt).withFleet
    (·.addCluster options)).setRegistered id
      (clusters.insert name cluster)).logged
        (.clusterCreated id cluster name configurator.hosts)

namespace Application

/- Creating a cluster changes one entry of one registry. -/
theorem registered?_created
    (app : Application)
    (id other : RegistryId)
    (name key : String)
    (configurator : Configurator)
    (options : ClusterOptions) :
    (app.created id name configurator options).registered?
        other key =
      if other = id ∧ key = name then
        some app.fleet.clusters.size
      else
        app.registered? other key := by
  change
    (Application.setRegistered _ id _).registered? other key =
      _
  rw [registered?_setRegistered]
  by_cases hOther : other = id
  · subst other
    by_cases hKey : key = name <;>
      simp [hKey, Table.get?_insert, registered?]
  · simp only [hOther, if_false, false_and]
    rfl

/- A cluster that is created is registered under its name. -/
theorem registered?_created_self
    (app : Application)
    (id : RegistryId)
    (name : String)
    (configurator : Configurator)
    (options : ClusterOptions) :
    (app.created id name configurator options).registered?
        id name =
      some app.fleet.clusters.size := by
  rw [registered?_created, if_pos ⟨rfl, rfl⟩]

/- The cluster that is created is live. -/
theorem isLive_created
    (app : Application)
    (id : RegistryId)
    (name : String)
    (configurator : Configurator)
    (options : ClusterOptions)
    (cluster : ClusterId) :
    (app.created id name configurator options).fleet.isLive
        cluster =
      if cluster = app.fleet.clusters.size then true
      else app.fleet.isLive cluster :=
  Fleet.isLive_addCluster app.fleet.countAttempt options
    cluster

end Application

namespace Registry

/- A live cluster is one that is registered and runs. -/
theorem liveCluster?_eq_some_iff
    (app : Application)
    (id : RegistryId)
    (name : String)
    (cluster : ClusterId) :
    (app.registries.get id).liveCluster? app.fleet name =
        some cluster ↔
      app.registered? id name = some cluster ∧
        app.fleet.isLive cluster = true := by
  simp only [liveCluster?, Option.filter_eq_some_iff,
    Application.registered?]

/- Without a live cluster, what is registered is shut down. -/
theorem isLive_eq_false_of_registered
    {app : Application}
    {id : RegistryId}
    {name : String}
    {cluster : ClusterId}
    (hDead :
      (app.registries.get id).liveCluster? app.fleet name =
        none)
    (hRegistered : app.registered? id name = some cluster) :
    app.fleet.isLive cluster = false := by
  by_contra hLive
  have hSome :=
    (liveCluster?_eq_some_iff app id name cluster).mpr
      ⟨hRegistered, by simpa using hLive⟩
  simp [hDead] at hSome

/-
  How asking for a cluster ends: the live one is reused, or
  there is none and the options of a new one cannot be made,
  or its creation fails, or it is created.
-/
inductive Obtained
    (app : Application)
    (id : RegistryId)
    (name : String)
    (configurator : Configurator) :
    Except Failure ClusterId × Application → Prop
| reused
    {cluster : ClusterId}
    (hLive :
      (app.registries.get id).liveCluster? app.fleet name =
        some cluster) :
    Obtained app id name configurator
      (.ok cluster, app.logged (.clusterReused name))
| unmapped
    {failure : Failure}
    (hDead :
      (app.registries.get id).liveCluster? app.fleet name =
        none)
    (hOptions :
      ClusterOptions.ofConfigurator
          ((app.registries.get id).conf.getD app.conf)
          configurator =
        .error failure) :
    Obtained app id name configurator (.error failure, app)
| refused
    {options : ClusterOptions}
    (hDead :
      (app.registries.get id).liveCluster? app.fleet name =
        none)
    (hOptions :
      ClusterOptions.ofConfigurator
          ((app.registries.get id).conf.getD app.conf)
          configurator =
        .ok options)
    (hFails :
      Call.create app.fleet.attempts ∈
        app.fleet.faults.failing) :
    Obtained app id name configurator
      (.error (Call.create app.fleet.attempts).failure,
        app.withFleet Fleet.countAttempt)
| created
    {options : ClusterOptions}
    (hDead :
      (app.registries.get id).liveCluster? app.fleet name =
        none)
    (hOptions :
      ClusterOptions.ofConfigurator
          ((app.registries.get id).conf.getD app.conf)
          configurator =
        .ok options)
    (hSucceeds :
      Call.create app.fleet.attempts ∉
        app.fleet.faults.failing) :
    Obtained app id name configurator
      (.ok app.fleet.clusters.size,
        app.created id name configurator options)

/- Asking for a cluster ends in one of these ways. -/
theorem obtained_getOrCreate
    (app : Application)
    (id : RegistryId)
    (name : String)
    (configurator : Configurator) :
    Obtained app id name configurator
      ((getOrCreate id name configurator).perform app) := by
  unfold getOrCreate
  rw [Action.perform_bind_of_ok (Action.perform_get app)]
  cases hLive :
      (app.registries.get id).liveCluster? app.fleet name with
  | some cluster =>
      simp only [hLive]
      rw [Action.perform_bind_of_ok
        (Action.perform_write _ _)]
      exact .reused hLive
  | none =>
      simp only [hLive]
      rw [Action.perform_bind, Action.perform_ofExcept]
      cases hOptions :
          ClusterOptions.ofConfigurator
            ((app.registries.get id).conf.getD app.conf)
            configurator with
      | error failure => exact .unmapped hLive hOptions
      | ok options =>
          simp only []
          rw [Action.perform_bind,
            Action.perform_createCluster]
          by_cases hFails :
              Call.create app.fleet.attempts ∈
                app.fleet.faults.failing
          · simp only [List.contains_iff_mem, hFails,
              if_true]
            exact .refused hLive hOptions hFails
          · simp only [List.contains_iff_mem, hFails,
              if_false]
            exact .created hLive hOptions hFails

/- The cluster that is answered is registered and live. -/
theorem Obtained.registered
    {app : Application}
    {id : RegistryId}
    {name : String}
    {configurator : Configurator}
    {cluster : ClusterId}
    {after : Application}
    (hObtained :
      Obtained app id name configurator
        (.ok cluster, after)) :
    after.registered? id name = some cluster ∧
      after.fleet.isLive cluster = true := by
  cases hObtained with
  | reused hLive =>
      exact
        (liveCluster?_eq_some_iff app id name cluster).mp
          hLive
  | created hDead _ _ =>
      rw [Application.registered?_created,
        Application.isLive_created]
      exact ⟨if_pos ⟨rfl, rfl⟩, if_pos rfl⟩

/- Asking for a cluster changes no factory. -/
theorem Obtained.factories
    {app : Application}
    {id : RegistryId}
    {name : String}
    {configurator : Configurator}
    {outcome : Except Failure ClusterId × Application}
    (hObtained : Obtained app id name configurator outcome) :
    outcome.2.factories = app.factories := by
  cases hObtained <;> rfl

/- Asking for a cluster makes no registry. -/
theorem Obtained.registryCount
    {app : Application}
    {id : RegistryId}
    {name : String}
    {configurator : Configurator}
    {outcome : Except Failure ClusterId × Application}
    (hObtained : Obtained app id name configurator outcome) :
    outcome.2.registries.size = app.registries.size := by
  cases hObtained <;> rfl

end Registry

end Keyspaces

------------------------------------------------------------
-- Shutting Clusters Down
------------------------------------------------------------

namespace Keyspaces

/- The application in which entries were shut down in order. -/
def Application.closeAll
    (app : Application) :
    List (String × ClusterId) → Application
| [] => app
| (name, cluster) :: rest =>
    ((app.logged (.clusterShutdown name)).withFleet
      (·.closeCluster cluster)).closeAll rest

/-
  The application in which a registry forgot the selected
  entries and shut them down.
-/
def Application.released
    (app : Application)
    (id : RegistryId)
    (name : Option String) : Application :=
  let registry := app.registries.get id
  (app.setRegistered id (registry.remaining name)).closeAll
    (registry.selected name)

namespace Application

/-
  What does not change when a cluster is closed and an event
  is logged does not change when entries are shut down.
-/
theorem closeAll_induction
    {motive : Application → Prop}
    (hClose :
      ∀ app name cluster, motive app →
        motive
          ((app.logged (.clusterShutdown name)).withFleet
            (·.closeCluster cluster)))
    (entries : List (String × ClusterId))
    {app : Application}
    (hApp : motive app) :
    motive (app.closeAll entries) := by
  induction entries generalizing app with
  | nil => exact hApp
  | cons entry entries ih =>
      exact ih (hClose app entry.1 entry.2 hApp)

@[simp]
theorem registries_closeAll
    (app : Application)
    (entries : List (String × ClusterId)) :
    (app.closeAll entries).registries = app.registries :=
  closeAll_induction
    (motive := fun after => after.registries = app.registries)
    (fun _ _ _ h => h) entries rfl

@[simp]
theorem factories_closeAll
    (app : Application)
    (entries : List (String × ClusterId)) :
    (app.closeAll entries).factories = app.factories :=
  closeAll_induction
    (motive := fun after => after.factories = app.factories)
    (fun _ _ _ h => h) entries rfl

@[simp]
theorem handles_closeAll
    (app : Application)
    (entries : List (String × ClusterId)) :
    (app.closeAll entries).handles = app.handles :=
  closeAll_induction
    (motive := fun after => after.handles = app.handles)
    (fun _ _ _ h => h) entries rfl

@[simp]
theorem faults_closeAll
    (app : Application)
    (entries : List (String × ClusterId)) :
    (app.closeAll entries).fleet.faults = app.fleet.faults :=
  closeAll_induction
    (motive := fun after =>
      after.fleet.faults = app.fleet.faults)
    (fun _ _ _ h => h) entries rfl

@[simp]
theorem size_closeAll
    (app : Application)
    (entries : List (String × ClusterId)) :
    (app.closeAll entries).fleet.clusters.size =
      app.fleet.clusters.size :=
  closeAll_induction
    (motive := fun after =>
      after.fleet.clusters.size = app.fleet.clusters.size)
    (fun _ _ _ h => h) entries rfl

/- The log tells of every entry, in order. -/
theorem log_closeAll
    (app : Application)
    (entries : List (String × ClusterId)) :
    (app.closeAll entries).log =
      app.log ++
        entries.map fun entry =>
          .clusterShutdown entry.1 := by
  induction entries generalizing app with
  | nil => exact (List.append_nil _).symm
  | cons entry entries ih =>
      rw [closeAll, ih, List.map_cons,
        ← List.singleton_append, ← List.append_assoc]
      rfl

/- A cluster that is not among the entries is as before. -/
theorem get_closeAll_of_not_mem
    (app : Application)
    {entries : List (String × ClusterId)}
    {cluster : ClusterId}
    (hOther : cluster ∉ entries.map Prod.snd) :
    (app.closeAll entries).fleet.clusters.get cluster =
      app.fleet.clusters.get cluster := by
  induction entries generalizing app with
  | nil => rfl
  | cons entry entries ih =>
      rw [List.map_cons, List.mem_cons, not_or] at hOther
      rw [closeAll, ih _ hOther.2]
      exact Pool.get_set_of_ne _ _ hOther.1

/- What is live afterwards was live and not among the entries. -/
theorem isLive_closeAll
    (app : Application)
    (entries : List (String × ClusterId))
    (cluster : ClusterId) :
    (app.closeAll entries).fleet.isLive cluster =
      if cluster ∈ entries.map Prod.snd then false
      else app.fleet.isLive cluster := by
  induction entries generalizing app with
  | nil => simp [closeAll]
  | cons entry entries ih =>
      have hClosed :
          ((app.logged (.clusterShutdown entry.1)).withFleet
            (·.closeCluster entry.2)).fleet.isLive cluster =
              if cluster = entry.2 then false
              else app.fleet.isLive cluster :=
        Fleet.isLive_closeCluster app.fleet entry.2 cluster
      rw [closeAll, ih, hClosed]
      by_cases hEntry : cluster = entry.2
      · simp [hEntry]
      · simp only [hEntry, List.map_cons, List.mem_cons,
          false_or, if_false]

end Application

namespace Registry

/-
  How shutting entries down in order ends, and which of them
  are asked to: all of them, or those up to the first one
  whose shutdown fails.
-/
inductive Closed (app : Application) :
    List (String × ClusterId) →
      List (String × ClusterId) →
        Except Failure Unit × Application → Prop
| all
    {entries : List (String × ClusterId)}
    (hReturn :
      ∀ entry ∈ entries,
        Call.shutdownCluster entry.2 ∉
          app.fleet.faults.failing) :
    Closed app entries entries (.ok (), app.closeAll entries)
| upTo
    {served rest : List (String × ClusterId)}
    {entry : String × ClusterId}
    (hServed :
      ∀ other ∈ served,
        Call.shutdownCluster other.2 ∉
          app.fleet.faults.failing)
    (hFails :
      Call.shutdownCluster entry.2 ∈
        app.fleet.faults.failing) :
    Closed app (served ++ entry :: rest) (served ++ [entry])
      (.error (Call.shutdownCluster entry.2).failure,
        (app.closeAll served).logged
          (.clusterShutdown entry.1))

/- Behind an entry that is shut down the others follow. -/
theorem Closed.cons
    {app : Application}
    {entry : String × ClusterId}
    {entries asked : List (String × ClusterId)}
    {outcome : Except Failure Unit × Application}
    (hReturns :
      Call.shutdownCluster entry.2 ∉
        app.fleet.faults.failing)
    (hRest :
      Closed
        ((app.logged (.clusterShutdown entry.1)).withFleet
          (·.closeCluster entry.2))
        entries asked outcome) :
    Closed app (entry :: entries) (entry :: asked) outcome := by
  cases hRest with
  | all hReturn =>
      exact
        .all (List.forall_mem_cons.mpr ⟨hReturns, hReturn⟩)
  | @upTo served rest failing hServed hFails =>
      exact
        @Closed.upTo app (entry :: served) rest failing
          (List.forall_mem_cons.mpr ⟨hReturns, hServed⟩)
          hFails

/- Shutting entries down ends in one of these ways. -/
theorem exists_closed_shutdownAll
    (app : Application)
    (entries : List (String × ClusterId)) :
    ∃ asked,
      Closed app entries asked
        ((shutdownAll entries).perform app) := by
  induction entries generalizing app with
  | nil => exact ⟨[], .all fun _ h => nomatch h⟩
  | cons entry entries ih =>
      rw [shutdownAll,
        Action.perform_bind_of_ok
          (Action.perform_write _ app)]
      by_cases hFails :
          Call.shutdownCluster entry.2 ∈
            (app.logged
              (.clusterShutdown
                entry.1)).fleet.faults.failing
      · rw [Action.perform_bind,
          Action.perform_shutdownCluster_of_fails hFails]
        exact
          ⟨[entry],
            @Closed.upTo app [] entries entry
              (fun _ h => nomatch h) hFails⟩
      · rw [Action.perform_bind_of_ok
          (Action.perform_shutdownCluster hFails)]
        rcases ih _ with ⟨asked, hRest⟩
        exact ⟨entry :: asked, hRest.cons hFails⟩

/- Entries whose shutdown does not fail are shut down. -/
theorem perform_shutdownAll
    {app : Application}
    (hReturns : app.fleet.faults.ShutdownReturns)
    (entries : List (String × ClusterId)) :
    (shutdownAll entries).perform app =
      (.ok (), app.closeAll entries) := by
  rcases exists_closed_shutdownAll app entries with
    ⟨asked, hClosed⟩
  generalize
    (shutdownAll entries).perform app = outcome at hClosed
  cases hClosed with
  | all _ => rfl
  | upTo _ hFails => exact absurd hFails (hReturns _)

/- A shutdown that does not fail releases what is selected. -/
theorem perform_shutdown
    {app : Application}
    (hReturns : app.fleet.faults.ShutdownReturns)
    (id : RegistryId)
    (name : Option String) :
    (shutdown id name).perform app =
      (.ok (), app.released id name) := by
  rw [shutdown,
    Action.perform_bind_of_ok (Action.perform_get app),
    Action.perform_bind_of_ok (Action.perform_modify _ app)]
  have hForgotten :
      (app.setRegistered id
        ((app.registries.get id).remaining
          name)).fleet.faults.ShutdownReturns :=
    hReturns
  exact perform_shutdownAll hForgotten _

/-
  A shutdown keeps what is kept when a registry forgets what
  it selects, a shutdown is logged, and a cluster is closed.
-/
theorem relates_shutdown
    {R : Application → Application → Prop}
    [IsPreorder Application R]
    {id : RegistryId}
    {name : Option String}
    (hForgets :
      ∀ app : Application,
        R app
          (app.setRegistered id
            ((app.registries.get id).remaining name)))
    (hLogs :
      ∀ app name, R app (app.logged (.clusterShutdown name)))
    (hCloses :
      ∀ (app : Application) cluster,
        R app (app.withFleet (·.closeCluster cluster))) :
    Action.Relates R (shutdown id name) := by
  have hEntries : ∀ entries : List (String × ClusterId),
      Action.Relates R (shutdownAll entries) := by
    intro entries
    induction entries with
    | nil => exact .pure ()
    | cons entry entries ih =>
        refine .bind (.write fun app => hLogs app _) ?_
        intro _
        refine .bind (.bind (.attempt _) ?_) fun _ => ih
        intro _
        exact .modify fun app => hCloses app _
  intro app
  rw [shutdown,
    Action.perform_bind_of_ok (Action.perform_get app),
    Action.perform_bind_of_ok (Action.perform_modify _ app)]
  exact trans_of R (hForgets app) (hEntries _ _)

/- A name that is registered selects its own entry. -/
theorem selected_some
    {app : Application}
    {id : RegistryId}
    {name : String}
    {cluster : ClusterId}
    (hRegistered :
      app.registered? id name = some cluster) :
    (app.registries.get id).selected (some name) =
      [(name, cluster)] := by
  unfold Application.registered? at hRegistered
  simp [selected, hRegistered]

/- The selected entries are registered, all of them or one. -/
theorem mem_selected_iff
    (app : Application)
    (id : RegistryId)
    (name : Option String)
    (key : String)
    (cluster : ClusterId) :
    (key, cluster) ∈
        (app.registries.get id).selected name ↔
      app.registered? id key = some cluster ∧
        (name = none ∨ name = some key) := by
  cases name with
  | none =>
      simp [selected, Table.mem_entries_iff,
        Application.registered?]
  | some name =>
      simp only [selected, Option.mem_toList,
        Option.map_eq_some_iff, Application.registered?]
      constructor
      · rintro ⟨found, hFound, hEntry⟩
        cases hEntry
        exact ⟨hFound, Or.inr rfl⟩
      · rintro ⟨hFound, hName⟩
        have hSame : name = key := by simpa using hName
        subst name
        exact ⟨cluster, hFound, rfl⟩

end Registry

namespace Application

/- Nothing that a registry forgot is registered there. -/
theorem registered?_remaining
    (app : Application)
    (id other : RegistryId)
    (name : Option String)
    (key : String) :
    (app.setRegistered id
          ((app.registries.get id).remaining
            name)).registered? other key =
      if other = id ∧ (name = none ∨ name = some key) then
        none
      else
        app.registered? other key := by
  rw [registered?_setRegistered]
  by_cases hOther : other = id
  · subst other
    cases name with
    | none => simp [Registry.remaining]
    | some name =>
        by_cases hKey : key = name
        · simp [Registry.remaining, hKey]
        · have hNot : name ≠ key := Ne.symm hKey
          simp [Registry.remaining, Table.get?_erase, hKey,
            hNot, registered?]
  · simp [hOther]

/- What is registered afterwards was not selected. -/
theorem registered?_released
    (app : Application)
    (id other : RegistryId)
    (name : Option String)
    (key : String) :
    (app.released id name).registered? other key =
      if other = id ∧ (name = none ∨ name = some key) then
        none
      else
        app.registered? other key := by
  rw [← registered?_remaining, registered?, released,
    registries_closeAll]
  rfl

/- What is live afterwards was live and not selected. -/
theorem isLive_released
    (app : Application)
    (id : RegistryId)
    (name : Option String)
    (cluster : ClusterId) :
    (app.released id name).fleet.isLive cluster = true ↔
      app.fleet.isLive cluster = true ∧
        ∀ key, app.registered? id key = some cluster →
          name ≠ none ∧ name ≠ some key := by
  rw [released, isLive_closeAll]
  change
    (if cluster ∈
        ((app.registries.get id).selected name).map Prod.snd
      then false else app.fleet.isLive cluster) = true ↔ _
  have hSelected :
      cluster ∈
          ((app.registries.get id).selected name).map
            Prod.snd ↔
        ∃ key, app.registered? id key = some cluster ∧
          (name = none ∨ name = some key) := by
    simp only [List.mem_map, Prod.exists, exists_eq_right,
      Registry.mem_selected_iff]
  by_cases hClosed :
      cluster ∈
        ((app.registries.get id).selected name).map Prod.snd
  · rcases hSelected.mp hClosed with ⟨key, hKey, hName⟩
    simp only [hClosed, if_true, Bool.false_eq_true,
      false_iff, not_and]
    intro _ hKept
    have hNot := hKept key hKey
    tauto
  · simp only [hClosed, if_false]
    constructor
    · intro hLive
      refine ⟨hLive, ?_⟩
      intro key hKey
      have hNone : ¬ (name = none ∨ name = some key) := by
        intro hName
        exact hClosed (hSelected.mpr ⟨key, hKey, hName⟩)
      tauto
    · intro hKept
      exact hKept.1

end Application

end Keyspaces
