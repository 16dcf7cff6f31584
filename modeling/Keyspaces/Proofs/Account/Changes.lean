import Keyspaces.Proofs.Account

/-
  Each change of an application keeps the account of its
  clusters: the creation of a cluster and its shutdown, and
  what is done with handles, factories, contexts and
  registries.

  Main statements:
    * `Application.Accounted.created`
    * `Application.Accounted.released`
    * `Application.Accounted.keeping`
-/

------------------------------------------------------------
-- Clusters
------------------------------------------------------------

namespace Keyspaces

namespace Application

variable {app : Application}

/-
  The creation of a cluster adds to the history what it adds
  to the registry.
-/
theorem created_created_iff
    (app : Application)
    (id registry : RegistryId)
    (name key : String)
    (cluster : ClusterId)
    (configurator : Configurator)
    (options : ClusterOptions) :
    (app.created id name configurator options).Created
        registry cluster key ↔
      app.Created registry cluster key ∨
        registry = id ∧
          cluster = app.fleet.clusters.size ∧ key = name := by
  have hLogged := fun before : Application =>
    created_logged_iff before
      (.clusterCreated id app.fleet.clusters.size name
        configurator.hosts)
      registry cluster key
  refine (hLogged _).trans (or_congr Iff.rfl ?_)
  constructor
  · rintro ⟨hosts, hEvent⟩
    cases hEvent
    exact ⟨rfl, rfl, rfl⟩
  · rintro ⟨rfl, rfl, rfl⟩
    exact ⟨_, rfl⟩

/- The creation of a cluster adds no resolution. -/
theorem resolved_created_iff
    (app : Application)
    (id registry : RegistryId)
    (name key : String)
    (handle : HandleId)
    (configurator : Configurator)
    (options : ClusterOptions) :
    (app.created id name configurator options).Resolved
        registry key handle ↔
      app.Resolved registry key handle := by
  have hLogged := fun before : Application =>
    resolved_logged_iff before
      (.clusterCreated id app.fleet.clusters.size name
        configurator.hosts)
      registry key handle
  refine (hLogged _).trans ?_
  simp only [reduceCtorEq, exists_const, or_false]
  rfl

/-
  A cluster that is created under a name for which none is
  live is accounted for.
-/
theorem Accounted.created
    (h : app.Accounted)
    {id : RegistryId}
    {name : String}
    (configurator : Configurator)
    (options : ClusterOptions)
    (hRegistry : id < app.registries.size)
    (hDead :
      (app.registries.get id).liveCluster? app.fleet name =
        none) :
    (app.created id name configurator options).Accounted := by
  have hSize :
      (app.created id name configurator
        options).fleet.clusters.size =
          app.fleet.clusters.size + 1 :=
    rfl
  constructor
  case returns => exact h.returns
  case made =>
    intro registry cluster key hCreated
    rw [created_created_iff] at hCreated
    rw [hSize]
    rcases hCreated with hOld | ⟨_, rfl, _⟩
    · exact Nat.lt_succ_of_lt (h.made _ _ _ hOld)
    · exact Nat.lt_succ_self _
  case origin =>
    intro cluster hMade
    simp only [created_created_iff]
    rw [hSize] at hMade
    rcases Nat.lt_succ_iff_lt_or_eq.mp hMade with hOld | hNew
    · rcases h.origin cluster hOld with
        ⟨registry, key, hCreated⟩
      exact ⟨registry, key, Or.inl hCreated⟩
    · exact ⟨id, name, Or.inr ⟨rfl, hNew, rfl⟩⟩
  case kept =>
    intro registry cluster key hCreated hLive
    rw [created_created_iff] at hCreated
    rw [isLive_created] at hLive
    rw [registered?_created]
    rcases hCreated with hOld | ⟨rfl, rfl, rfl⟩
    · have hMade := h.made _ _ _ hOld
      have hNot : cluster ≠ app.fleet.clusters.size :=
        Nat.ne_of_lt hMade
      rw [if_neg hNot] at hLive
      have hRegistered := h.kept _ _ _ hOld hLive
      by_cases hKey : registry = id ∧ key = name
      · rcases hKey with ⟨rfl, rfl⟩
        have hShut :=
          Registry.isLive_eq_false_of_registered hDead
            hRegistered
        rw [hShut] at hLive
        contradiction
      · rw [if_neg hKey]
        exact hRegistered
    · rw [if_pos ⟨rfl, rfl⟩]
  case registered =>
    intro registry cluster key hRegistered
    rw [created_created_iff]
    rw [registered?_created] at hRegistered
    split at hRegistered
    case isTrue hKey =>
      right
      exact
        ⟨hKey.1, (Option.some.inj hRegistered).symm, hKey.2⟩
    case isFalse =>
      left
      exact h.registered _ _ _ hRegistered
  case resolved =>
    intro registry key handle hResolved
    rw [resolved_created_iff] at hResolved
    rw [created_created_iff]
    rcases h.resolved _ _ _ hResolved with
      ⟨hHandle, hCreated⟩
    exact ⟨hHandle, Or.inl hCreated⟩
  case resolutions =>
    simp only [resolved_created_iff]
    exact h.resolutions
  case unmade =>
    intro registry key hUnmade
    rw [registered?_created]
    have hOther : ¬ (registry = id ∧ key = name) := by
      rintro ⟨rfl, _⟩
      exact absurd hRegistry (Nat.not_lt_of_le hUnmade)
    rw [if_neg hOther]
    exact h.unmade _ _ hUnmade
  case factoryRegistry => exact h.factoryRegistry
  case contextRegistry => exact h.contextRegistry
  case processRegistry => exact h.processRegistry

/- A cluster that is shut down stays accounted for. -/
theorem Accounted.closeCluster
    (h : app.Accounted)
    (cluster : ClusterId) :
    (app.withFleet (·.closeCluster cluster)).Accounted := by
  refine { h with kept := ?_ }
  intro registry other name hCreated hLive
  have hClosed :=
    Fleet.isLive_closeCluster app.fleet cluster other
  have hBefore : app.fleet.isLive other = true := by
    by_contra hDead
    rw [Bool.not_eq_true] at hDead
    rw [hDead, ite_self] at hClosed
    exact absurd (hClosed.symm.trans hLive) (by simp)
  exact h.kept registry other name hCreated hBefore

/- Shutting entries down is no part of the history. -/
theorem alike_closed
    (app : Application)
    (name : String) :
    Alike app (app.logged (.clusterShutdown name)) :=
  alike_logged app rfl

/- A release changes no creation in the history. -/
theorem created_released_iff
    (app : Application)
    (id registry : RegistryId)
    (name : Option String)
    (cluster : ClusterId)
    (key : String) :
    (app.released id name).Created registry cluster key ↔
      app.Created registry cluster key := by
  refine
    closeAll_induction
      (motive := fun after =>
        after.Created registry cluster key ↔
          app.Created registry cluster key)
      ?_ _ Iff.rfl
  intro after closed other hSame
  have hAlike := alike_closed after closed
  exact (hAlike.created registry cluster key).trans hSame

/- A release changes no resolution in the history. -/
theorem resolved_released_iff
    (app : Application)
    (id registry : RegistryId)
    (name : Option String)
    (key : String)
    (handle : HandleId) :
    (app.released id name).Resolved registry key handle ↔
      app.Resolved registry key handle := by
  refine
    closeAll_induction
      (motive := fun after =>
        after.Resolved registry key handle ↔
          app.Resolved registry key handle)
      ?_ _ Iff.rfl
  intro after closed other hSame
  have hAlike := alike_closed after closed
  exact (hAlike.resolved registry key handle).trans hSame

/- A release changes no context. -/
theorem contexts_released
    (app : Application)
    (id : RegistryId)
    (name : Option String) :
    (app.released id name).contexts = app.contexts :=
  closeAll_induction
    (motive := fun after => after.contexts = app.contexts)
    (fun _ _ _ hSame => hSame) _ rfl

/- Clusters that are released are accounted for. -/
theorem Accounted.released
    (h : app.Accounted)
    (id : RegistryId)
    (name : Option String) :
    (app.released id name).Accounted := by
  have hSize :
      (app.released id name).fleet.clusters.size =
        app.fleet.clusters.size :=
    size_closeAll _ _
  have hRegistries :
      (app.released id name).registries.size =
        app.registries.size := by
    rw [Application.released, registries_closeAll]
    rfl
  have hHandles :
      (app.released id name).handles = app.handles :=
    handles_closeAll _ _
  have hFactories :
      (app.released id name).factories = app.factories :=
    factories_closeAll _ _
  constructor
  case returns =>
    rw [Application.released, faults_closeAll]
    exact h.returns
  case made =>
    simpa only [created_released_iff, hSize] using h.made
  case origin =>
    simpa only [created_released_iff, hSize] using
      h.origin
  case kept =>
    intro registry cluster key hOld hLive
    rw [created_released_iff] at hOld
    rw [isLive_released] at hLive
    rcases hLive with ⟨hBefore, hKept⟩
    have hRegistered := h.kept _ _ _ hOld hBefore
    rw [registered?_released]
    have hOther :
        ¬ (registry = id ∧
          (name = none ∨ name = some key)) := by
      rintro ⟨rfl, hName⟩
      rcases hKept key hRegistered with ⟨hSome, hNot⟩
      exact hName.elim hSome hNot
    rw [if_neg hOther]
    exact hRegistered
  case registered =>
    intro registry cluster key hRegistered
    rw [created_released_iff]
    rw [registered?_released] at hRegistered
    split at hRegistered
    · contradiction
    · exact h.registered _ _ _ hRegistered
  case resolved =>
    simpa only [resolved_released_iff, created_released_iff,
      hHandles] using h.resolved
  case resolutions =>
    simpa only [hFactories, resolved_released_iff] using
      h.resolutions
  case unmade =>
    intro registry key hUnmade
    rw [hRegistries] at hUnmade
    rw [registered?_released]
    split
    · rfl
    · exact h.unmade _ _ hUnmade
  case factoryRegistry =>
    simpa only [hFactories, hRegistries] using
      h.factoryRegistry
  case contextRegistry =>
    simpa only [contexts_released, hRegistries] using
      h.contextRegistry
  case processRegistry =>
    simpa only [hRegistries] using h.processRegistry

end Application

end Keyspaces

------------------------------------------------------------
-- Handles, Factories, Contexts and Registries
------------------------------------------------------------

namespace Keyspaces

namespace Application

variable {app : Application}

/- A handle that is made has no part in the history yet. -/
theorem Accounted.withHandle
    (h : app.Accounted)
    (name : Option String)
    (cluster : ClusterId) :
    (app.withHandle name cluster).Accounted := by
  refine { h with resolved := ?_ }
  intro registry key handle hResolved
  rcases h.resolved registry key handle hResolved with
    ⟨hMade, hCreated⟩
  have hOld :
      ((app.withHandle name cluster).handles.get handle) =
        app.handles.get handle :=
    Pool.get_add_of_ne _ _ (Nat.ne_of_lt hMade)
  rw [hOld]
  exact ⟨Nat.lt_succ_of_lt hMade, hCreated⟩

/- A factory about a registry that was made may be added. -/
theorem Accounted.addFactory
    (h : app.Accounted)
    (factory : Factory)
    (hFactory :
      ∀ found, factory = .keyspaces found →
        found.resolved = none ∧
          found.registry < app.registries.size) :
    ({ app with
      factories :=
        app.factories.add factory } : Application).Accounted := by
  have hCases : ∀ id found,
      (app.factories.add factory).get id =
          .keyspaces found →
        app.factories.get id = .keyspaces found ∨
          found.resolved = none ∧
            found.registry < app.registries.size := by
    intro id found hFound
    by_cases hNew : id = app.factories.size
    · subst id
      rw [Pool.get_add_self] at hFound
      exact Or.inr (hFactory found hFound)
    · rw [Pool.get_add_of_ne _ _ hNew] at hFound
      exact Or.inl hFound
  refine
    { h with
      resolutions := ?_
      factoryRegistry := ?_ }
  · intro id found resolution hFound hResolved
    rcases hCases id found hFound with hOld | ⟨hNone, _⟩
    · exact h.resolutions id found resolution hOld hResolved
    · rw [hNone] at hResolved
      contradiction
  · intro id found hFound
    rcases hCases id found hFound with hOld | ⟨_, hRegistry⟩
    · exact h.factoryRegistry id found hOld
    · exact hRegistry

/- What is no factory of keyspaces may change. -/
theorem Accounted.setRecorder
    (h : app.Accounted)
    (id : FactoryId)
    (recorder : Recorder) :
    (app.setFactory id (.recorder recorder)).Accounted := by
  have hOld : ∀ other found,
      (app.setFactory id
          (.recorder recorder)).factories.get other =
        .keyspaces found →
          app.factories.get other = .keyspaces found := by
    intro other found hFound
    unfold setFactory at hFound
    dsimp only at hFound
    by_cases hOther : other = id
    · subst other
      rw [Pool.get_set_self] at hFound
      contradiction
    · rw [Pool.get_set_of_ne _ _ hOther] at hFound
      exact hFound
  refine
    { h with
      resolutions := ?_
      factoryRegistry := ?_ }
  · intro other found resolution hFound
    exact
      h.resolutions other found resolution
        (hOld other found hFound)
  · intro other found hFound
    exact h.factoryRegistry other found (hOld other found hFound)

/- What a factory keeps adds no creation to the history. -/
theorem created_keeping_iff
    (app : Application)
    (id : FactoryId)
    (factory : KeyspaceFactory)
    (resource : Resource)
    (resolution : Resolution)
    (label : String)
    (registry : RegistryId)
    (cluster : ClusterId)
    (name : String) :
    (app.keeping id factory resource resolution
        label).Created registry cluster name ↔
      app.Created registry cluster name := by
  have hLogged :=
    created_logged_iff app
      (.keyspaceCreated factory.registry resource.clusterName
        resolution.handle label resource.configurator.record)
      registry cluster name
  refine hLogged.trans ?_
  simp only [reduceCtorEq, exists_const, or_false]

/- What a factory keeps is one more resolution. -/
theorem resolved_keeping_iff
    (app : Application)
    (id : FactoryId)
    (factory : KeyspaceFactory)
    (resource : Resource)
    (resolution : Resolution)
    (label : String)
    (registry : RegistryId)
    (name : String)
    (handle : HandleId) :
    (app.keeping id factory resource resolution
        label).Resolved registry name handle ↔
      app.Resolved registry name handle ∨
        registry = factory.registry ∧
          name = resource.clusterName ∧
            handle = resolution.handle := by
  have hLogged :=
    resolved_logged_iff app
      (.keyspaceCreated factory.registry resource.clusterName
        resolution.handle label resource.configurator.record)
      registry name handle
  refine hLogged.trans (or_congr Iff.rfl ?_)
  constructor
  · rintro ⟨_, _, hEvent⟩
    cases hEvent
    exact ⟨rfl, rfl, rfl⟩
  · rintro ⟨rfl, rfl, rfl⟩
    exact ⟨_, _, rfl⟩

/- Only the factory that keeps what it resolved changes. -/
theorem keyspaces_keeping
    {id other : FactoryId}
    {factory found : KeyspaceFactory}
    {resource : Resource}
    {resolution : Resolution}
    {label : String}
    (hFound :
      (app.keeping id factory resource resolution
          label).factories.get other =
        .keyspaces found) :
    app.factories.get other = .keyspaces found ∨
      other = id ∧
        found =
          { factory with resolved := some resolution } := by
  by_cases hOther : other = id
  · subst other
    have hSelf :=
      (Pool.get_set_self app.factories id _).symm.trans hFound
    exact Or.inr ⟨rfl, (Factory.keyspaces.inj hSelf).symm⟩
  · have hOld :=
      (Pool.get_set_of_ne app.factories _
        hOther).symm.trans hFound
    exact Or.inl hOld

/-
  A factory keeps what it resolved: the history tells of it,
  and the handle is on a cluster that was created under the
  name.
-/
theorem Accounted.keeping
    (h : app.Accounted)
    {id : FactoryId}
    {factory : KeyspaceFactory}
    {resource : Resource}
    {resolution : Resolution}
    (label : String)
    (hRegistry : factory.registry < app.registries.size)
    (hHandle : resolution.handle < app.handles.size)
    (hCreated :
      app.Created factory.registry
        (app.handles.get resolution.handle).cluster
        resource.clusterName) :
    (app.keeping id factory resource resolution
      label).Accounted := by
  refine
    { h with
      made := ?_
      origin := ?_
      kept := ?_
      registered := ?_
      resolved := ?_
      resolutions := ?_
      factoryRegistry := ?_ }
  · simp only [created_keeping_iff]
    exact h.made
  · simp only [created_keeping_iff]
    exact h.origin
  · simp only [created_keeping_iff]
    exact h.kept
  · simp only [created_keeping_iff]
    exact h.registered
  · intro registry name handle hResolved
    rw [created_keeping_iff]
    rcases (resolved_keeping_iff _ _ _ _ _ _ _ _ _).mp
        hResolved with
      hOld | ⟨rfl, rfl, rfl⟩
    · exact h.resolved _ _ _ hOld
    · exact ⟨hHandle, hCreated⟩
  · intro other found kept hFound hKept
    simp only [resolved_keeping_iff]
    rcases keyspaces_keeping hFound with hOld | ⟨_, rfl⟩
    · rcases h.resolutions _ _ _ hOld hKept with
        ⟨name, hResolved⟩
      exact ⟨name, Or.inl hResolved⟩
    · have hSame : resolution = kept := Option.some.inj hKept
      subst kept
      exact
        ⟨resource.clusterName, Or.inr ⟨rfl, rfl, rfl⟩⟩
  · intro other found hFound
    rcases keyspaces_keeping hFound with hOld | ⟨_, rfl⟩
    · exact h.factoryRegistry other found hOld
    · exact hRegistry

/- A context about registries that were made may be added. -/
theorem Accounted.addContext
    (h : app.Accounted)
    (context : Context)
    (hContext :
      ∀ registry,
        Argument.registry registry ∈ context.arguments →
          registry < app.registries.size) :
    ({ app with
      contexts :=
        app.contexts.add context } : Application).Accounted := by
  refine { h with contextRegistry := ?_ }
  intro id registry hArgument
  by_cases hNew : id = app.contexts.size
  · subst id
    dsimp only at hArgument
    rw [Pool.get_add_self] at hArgument
    exact hContext registry hArgument
  · dsimp only at hArgument
    rw [Pool.get_add_of_ne _ _ hNew] at hArgument
    exact h.contextRegistry id registry hArgument

/- A context may change if its arguments stay the same. -/
theorem Accounted.setContext
    (h : app.Accounted)
    (id : ContextId)
    (context : Context)
    (hArguments :
      context.arguments = (app.contexts.get id).arguments) :
    (app.setContext id context).Accounted := by
  refine { h with contextRegistry := ?_ }
  intro other registry hArgument
  unfold Application.setContext at hArgument
  dsimp only at hArgument
  by_cases hOther : other = id
  · subst other
    rw [Pool.get_set_self, hArguments] at hArgument
    exact h.contextRegistry id registry hArgument
  · rw [Pool.get_set_of_ne _ _ hOther] at hArgument
    exact h.contextRegistry other registry hArgument

/- Nothing is registered in a registry that is made. -/
theorem Accounted.addRegistry
    (h : app.Accounted)
    (conf : Option Config) :
    ({ app with
      registries :=
        app.registries.add
          ⟨conf, .empty⟩ } : Application).Accounted := by
  have hRegistered : ∀ registry name,
      ({ app with
        registries :=
          app.registries.add
            ⟨conf, .empty⟩ } : Application).registered?
              registry name =
        app.registered? registry name := by
    intro registry name
    by_cases hNew : registry = app.registries.size
    · subst registry
      rw [h.unmade _ _ (Nat.le_refl _), registered?]
      dsimp only
      rw [Pool.get_add_self]
      rfl
    · rw [registered?]
      dsimp only
      rw [Pool.get_add_of_ne _ _ hNew]
      rfl
  refine
    { h with
      kept := ?_
      registered := ?_
      unmade := ?_
      factoryRegistry := ?_
      contextRegistry := ?_
      processRegistry := Nat.lt_succ_of_lt h.processRegistry }
  · simp only [hRegistered]
    exact h.kept
  · simp only [hRegistered]
    exact h.registered
  · intro registry name hUnmade
    rw [hRegistered]
    exact h.unmade _ _ (Nat.le_of_succ_le hUnmade)
  · intro id factory hFactory
    exact Nat.lt_succ_of_lt (h.factoryRegistry _ _ hFactory)
  · intro id registry hArgument
    exact Nat.lt_succ_of_lt (h.contextRegistry _ _ hArgument)

end Application

end Keyspaces
