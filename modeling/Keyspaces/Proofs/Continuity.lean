import Keyspaces.Proofs.Account.Changes

/-
  What goes on while an application changes. Handles stay on
  their clusters, factories keep their registries and what
  they resolved, and contexts choose the same registries.
  Unless clusters are shut down on purpose, those that are
  live stay live and registered, and what is resolved is on
  such a cluster.

  Main declarations:
    * `Application.Persists`
    * `Application.Coherent`
    * `Application.Spares`
    * `Application.Extends`
-/

------------------------------------------------------------
-- What Goes On
------------------------------------------------------------

namespace Keyspaces

namespace Application

/-
  What was made stays: handles on their clusters, factories
  with their registries and what they resolved, contexts with
  the registries they choose, and the history.
-/
structure Persists (before after : Application) : Prop where
  handleCount : before.handles.size ≤ after.handles.size
  factoryCount :
    before.factories.size ≤ after.factories.size
  contextCount : before.contexts.size ≤ after.contexts.size
  registryCount :
    before.registries.size ≤ after.registries.size
  handles :
    ∀ id, id < before.handles.size →
      (after.handles.get id).cluster =
        (before.handles.get id).cluster
  factories :
    ∀ id factory, id < before.factories.size →
      before.factories.get id = .keyspaces factory →
        ∃ later, after.factories.get id = .keyspaces later ∧
          later.registry = factory.registry ∧
            ∀ resolution,
              factory.resolved = some resolution →
                later.resolved = some resolution
  contexts :
    ∀ id registry, id < before.contexts.size →
      Argument.Chooses (before.contexts.get id).arguments
          registry →
        Argument.Chooses (after.contexts.get id).arguments
          registry
  recalls : Recalls before after

/-
  What is live, registered or remembered was made, a factory
  that a context remembers uses the registry that the context
  chooses, and the history tells of what factories resolved.
-/
structure Coherent (app : Application) : Prop where
  live :
    ∀ cluster, app.fleet.isLive cluster = true →
      cluster < app.fleet.clusters.size
  registered : app.RegistersMade
  remembered :
    ∀ id name factory,
      (app.contexts.get id).factories.get? name =
          some factory →
        factory < app.factories.size
  outfitted :
    ∀ id name factory found,
      (app.contexts.get id).factories.get? name =
          some factory →
        app.factories.get factory = .keyspaces found →
          Argument.Chooses (app.contexts.get id).arguments
            found.registry
  resolutions :
    ∀ id factory resolution,
      app.factories.get id = .keyspaces factory →
        factory.resolved = some resolution →
          ∃ name,
            app.Resolved factory.registry name
              resolution.handle

/-
  The handle exists, and its cluster is live and registered
  under the name.
-/
def Serves
    (app : Application)
    (registry : RegistryId)
    (name : String)
    (handle : HandleId) : Prop :=
  handle < app.handles.size ∧
    app.registered? registry name =
        some (app.handles.get handle).cluster ∧
      app.fleet.isLive (app.handles.get handle).cluster = true

/-
  No live cluster is shut down or replaced, and what was
  resolved in between is on a live registered cluster.
-/
structure Spares (before after : Application) : Prop where
  live :
    ∀ cluster, before.fleet.isLive cluster = true →
      after.fleet.isLive cluster = true
  kept :
    ∀ registry name cluster,
      before.registered? registry name = some cluster →
        before.fleet.isLive cluster = true →
          after.registered? registry name = some cluster
  resolved :
    ∀ registry name handle,
      after.Resolved registry name handle →
        before.Resolved registry name handle ∨
          after.Serves registry name handle

/- What was made stays, and coherence is kept. -/
structure Advances (before after : Application) : Prop where
  persists : Persists before after
  coherent : Coherent before → Coherent after

/- What is live and coherent is also spared. -/
structure Extends (before after : Application) : Prop
    extends Advances before after where
  spares : Coherent before → Spares before after

------------------------------------------------------------
-- Changes in a Row
------------------------------------------------------------

namespace Persists

theorem trans
    {first second third : Application}
    (hFirst : Persists first second)
    (hSecond : Persists second third) :
    Persists first third where
  handleCount :=
    Nat.le_trans hFirst.handleCount hSecond.handleCount
  factoryCount :=
    Nat.le_trans hFirst.factoryCount hSecond.factoryCount
  contextCount :=
    Nat.le_trans hFirst.contextCount hSecond.contextCount
  registryCount :=
    Nat.le_trans hFirst.registryCount hSecond.registryCount
  handles := by
    intro id hMade
    have hLater := Nat.lt_of_lt_of_le hMade hFirst.handleCount
    exact
      (hSecond.handles id hLater).trans
        (hFirst.handles id hMade)
  factories := by
    intro id factory hMade hFactory
    have hLater :=
      Nat.lt_of_lt_of_le hMade hFirst.factoryCount
    rcases hFirst.factories id factory hMade hFactory with
      ⟨middle, hMiddle, hRegistry, hKept⟩
    rcases hSecond.factories id middle hLater hMiddle with
      ⟨later, hFound, hSame, hStill⟩
    refine ⟨later, hFound, hSame.trans hRegistry, ?_⟩
    intro resolution hResolved
    exact hStill resolution (hKept resolution hResolved)
  contexts := by
    intro id registry hMade hChooses
    have hLater :=
      Nat.lt_of_lt_of_le hMade hFirst.contextCount
    exact
      hSecond.contexts id registry hLater
        (hFirst.contexts id registry hMade hChooses)
  recalls := hFirst.recalls.trans hSecond.recalls

/-
  Handles and factories stay as they are, and contexts choose
  the same registries.
-/
theorem of_chooses
    {before after : Application}
    (hHandles : after.handles = before.handles)
    (hFactories : after.factories = before.factories)
    (hCount : before.contexts.size ≤ after.contexts.size)
    (hContexts :
      ∀ id registry, id < before.contexts.size →
        Argument.Chooses (before.contexts.get id).arguments
            registry →
          Argument.Chooses (after.contexts.get id).arguments
            registry)
    (hRegistries :
      before.registries.size ≤ after.registries.size)
    (hRecalls : Recalls before after) :
    Persists before after where
  handleCount := Nat.le_of_eq (by rw [hHandles])
  factoryCount := Nat.le_of_eq (by rw [hFactories])
  contextCount := hCount
  registryCount := hRegistries
  handles := by
    intro id _
    rw [hHandles]
  factories := by
    intro id factory _ hFactory
    rw [hFactories]
    exact ⟨factory, hFactory, rfl, fun _ h => h⟩
  contexts := hContexts
  recalls := hRecalls

/- Handles, factories and contexts stay as they are. -/
theorem of_same
    {before after : Application}
    (hHandles : after.handles = before.handles)
    (hFactories : after.factories = before.factories)
    (hContexts : after.contexts = before.contexts)
    (hRegistries :
      before.registries.size ≤ after.registries.size)
    (hRecalls : Recalls before after) :
    Persists before after := by
  have hCount :
      before.contexts.size ≤ after.contexts.size :=
    Nat.le_of_eq (by rw [hContexts])
  refine
    of_chooses hHandles hFactories hCount ?_ hRegistries
      hRecalls
  rw [hContexts]
  exact fun _ _ _ h => h

theorem refl (app : Application) : Persists app app :=
  of_same rfl rfl rfl (Nat.le_refl _) (.refl app)

end Persists

/- A handle keeps its live registered cluster. -/
theorem Serves.of_spares
    {before after : Application}
    {registry : RegistryId}
    {name : String}
    {handle : HandleId}
    (h : before.Serves registry name handle)
    (hPersists : Persists before after)
    (hSpares : Spares before after) :
    after.Serves registry name handle := by
  rcases h with ⟨hMade, hRegistered, hLive⟩
  have hCluster := hPersists.handles handle hMade
  refine
    ⟨Nat.lt_of_lt_of_le hMade hPersists.handleCount, ?_, ?_⟩
  · rw [hCluster]
    exact hSpares.kept _ _ _ hRegistered hLive
  · rw [hCluster]
    exact hSpares.live _ hLive

namespace Spares

/- What is live, registered and resolved stays the same. -/
theorem of_same
    {before after : Application}
    (hLive :
      ∀ cluster,
        after.fleet.isLive cluster =
          before.fleet.isLive cluster)
    (hRegistered :
      ∀ registry name,
        after.registered? registry name =
          before.registered? registry name)
    (hResolved :
      ∀ registry name handle,
        after.Resolved registry name handle →
          before.Resolved registry name handle) :
    Spares before after where
  live := by
    intro cluster h
    rw [hLive]
    exact h
  kept := by
    intro registry name cluster h _
    rw [hRegistered]
    exact h
  resolved := by
    intro registry name handle h
    exact Or.inl (hResolved registry name handle h)

theorem refl (app : Application) : Spares app app :=
  of_same (fun _ => rfl) (fun _ _ => rfl) fun _ _ _ h => h

theorem trans
    {first second third : Application}
    (hFirst : Spares first second)
    (hPersists : Persists second third)
    (hSecond : Spares second third) : Spares first third where
  live := by
    intro cluster hLive
    exact hSecond.live cluster (hFirst.live cluster hLive)
  kept := by
    intro registry name cluster hRegistered hLive
    exact
      hSecond.kept registry name cluster
        (hFirst.kept registry name cluster hRegistered hLive)
        (hFirst.live cluster hLive)
  resolved := by
    intro registry name handle hResolved
    rcases hSecond.resolved registry name handle hResolved with
      hMiddle | hServes
    · rcases hFirst.resolved registry name handle hMiddle with
        hOld | hServed
      · exact Or.inl hOld
      · exact Or.inr (hServed.of_spares hPersists hSecond)
    · exact Or.inr hServes

end Spares

namespace Advances

theorem refl (app : Application) : Advances app app :=
  ⟨.refl app, id⟩

theorem trans
    {first second third : Application}
    (hFirst : Advances first second)
    (hSecond : Advances second third) :
    Advances first third :=
  ⟨hFirst.persists.trans hSecond.persists,
    hSecond.coherent ∘ hFirst.coherent⟩

instance : IsPreorder Application Advances where
  refl := refl
  trans _ _ _ := trans

end Advances

namespace Extends

theorem refl (app : Application) : Extends app app :=
  ⟨.refl app, fun _ => .refl app⟩

theorem trans
    {first second third : Application}
    (hFirst : Extends first second)
    (hSecond : Extends second third) :
    Extends first third where
  toAdvances := hFirst.toAdvances.trans hSecond.toAdvances
  spares := by
    intro hCoherent
    exact
      (hFirst.spares hCoherent).trans hSecond.persists
        (hSecond.spares (hFirst.coherent hCoherent))

instance : IsPreorder Application Extends where
  refl := refl
  trans _ _ _ := trans

end Extends

end Application

end Keyspaces

------------------------------------------------------------
-- Single Changes
------------------------------------------------------------

namespace Keyspaces

namespace Factory

/-
  The registry that a factory of keyspaces uses, and what it
  resolved.
-/
def standing? :
    Factory → Option (RegistryId × Option Resolution)
| .keyspaces found => some (found.registry, found.resolved)
| .recorder _ | .inert _ => none

/- A factory that stands like one of keyspaces is one. -/
theorem exists_of_standing
    {factory other : Factory}
    {found : KeyspaceFactory}
    (hSame : other.standing? = factory.standing?)
    (hFound : factory = .keyspaces found) :
    ∃ later,
      other = .keyspaces later ∧
        later.registry = found.registry ∧
          later.resolved = found.resolved := by
  subst hFound
  cases other with
  | keyspaces later =>
      have hPair := Option.some.inj hSame
      exact
        ⟨later, rfl, congrArg Prod.fst hPair,
          congrArg Prod.snd hPair⟩
  | recorder recorder => contradiction
  | inert kindName => contradiction

end Factory

namespace Application

variable {app : Application}

/- Nothing is live, registered or resolved in the beginning. -/
theorem coherent_start
    (conf : Config)
    (faults : Faults) : (start conf faults).Coherent where
  live := by
    intro cluster hLive
    contradiction
  registered := by
    intro registry name cluster hRegistered
    have hNone :
        (start conf faults).registered? registry name =
          none := by
      change
        (if registry = 0 then (⟨none, .empty⟩ : Registry)
          else default).clusters.get? name = none
      split <;> rfl
    rw [hNone] at hRegistered
    contradiction
  remembered := by
    intro id name factory hRemembered
    contradiction
  outfitted := by
    intro id name factory found hRemembered
    contradiction
  resolutions := by
    intro id factory resolution hFactory
    contradiction

namespace Extends

/- Nothing that matters changed. -/
theorem of_alike
    {before after : Application}
    (h : Alike before after) : Extends before after where
  persists :=
    { handleCount := Nat.le_of_eq h.handleCount.symm
      factoryCount := Nat.le_of_eq (by rw [h.factories])
      contextCount := Nat.le_of_eq (by rw [h.contexts])
      registryCount := Nat.le_of_eq (by rw [h.registries])
      handles := fun id _ => h.handleCluster id
      factories := by
        intro id factory _ hFactory
        rw [h.factories]
        exact ⟨factory, hFactory, rfl, fun _ h => h⟩
      contexts := by
        intro id registry _ hChooses
        rw [h.contexts]
        exact hChooses
      recalls :=
        ⟨fun registry cluster name =>
            (h.created registry cluster name).mpr,
          fun registry name handle =>
            (h.resolved registry name handle).mpr⟩ }
  coherent := by
    intro hCoherent
    constructor
    case live =>
      simpa only [Fleet.isLive, h.clusters] using
        hCoherent.live
    case registered =>
      simpa only [RegistersMade, registered?, h.registries,
        h.clusters] using hCoherent.registered
    case remembered =>
      simpa only [h.contexts, h.factories] using
        hCoherent.remembered
    case outfitted =>
      simpa only [h.contexts, h.factories] using
        hCoherent.outfitted
    case resolutions =>
      simpa only [h.factories, h.resolved] using
        hCoherent.resolutions
  spares := by
    intro _
    apply Spares.of_same
    · intro cluster
      rw [Fleet.isLive, h.clusters]
      rfl
    · intro registry name
      rw [registered?, h.registries]
      rfl
    · intro registry name handle
      exact (h.resolved registry name handle).mp

/-
  A cluster is created under a name for which none is live.
-/
theorem created
    {id : RegistryId}
    {name : String}
    (configurator : Configurator)
    (options : ClusterOptions)
    (hDead :
      (app.registries.get id).liveCluster? app.fleet name =
        none) :
    Extends app
      (app.created id name configurator options) where
  persists := by
    have hRecalls :
        Recalls app
          (app.created id name configurator options) :=
      Recalls.of_prefix (List.prefix_append _ _)
    exact
      .of_same rfl rfl rfl (Nat.le_refl _)
        hRecalls
  coherent := by
    intro h
    have hSize :
        (app.created id name configurator
          options).fleet.clusters.size =
            app.fleet.clusters.size + 1 :=
      rfl
    refine
      { h with
        live := ?_
        registered := ?_
        resolutions := ?_ }
    · intro cluster hLive
      rw [isLive_created] at hLive
      rw [hSize]
      split at hLive
      case isTrue hNew =>
        rw [hNew]
        exact Nat.lt_succ_self _
      case isFalse =>
        exact Nat.lt_succ_of_lt (h.live cluster hLive)
    · intro registry key cluster hRegistered
      rw [registered?_created] at hRegistered
      rw [hSize]
      split at hRegistered
      · cases hRegistered
        exact Nat.lt_succ_self _
      · exact
          Nat.lt_succ_of_lt
            (h.registered registry key cluster hRegistered)
    · simp only [resolved_created_iff]
      exact h.resolutions
  spares := by
    intro _
    constructor
    case live =>
      intro cluster hLive
      rw [isLive_created, hLive, ite_self]
    case kept =>
      intro registry key cluster hRegistered hLive
      have hOther : ¬ (registry = id ∧ key = name) := by
        rintro ⟨rfl, rfl⟩
        have hShut :=
          Registry.isLive_eq_false_of_registered hDead
            hRegistered
        rw [hShut] at hLive
        contradiction
      rw [registered?_created, if_neg hOther]
      exact hRegistered
    case resolved =>
      intro registry key handle hResolved
      rw [resolved_created_iff] at hResolved
      exact Or.inl hResolved

/- A handle is made. -/
theorem withHandle
    (name : Option String)
    (cluster : ClusterId) :
    Extends app (app.withHandle name cluster) where
  persists :=
    { handleCount := Nat.le_succ _
      factoryCount := Nat.le_refl _
      contextCount := Nat.le_refl _
      registryCount := Nat.le_refl _
      handles := by
        intro id hMade
        exact
          congrArg Handle.cluster
            (Pool.get_add_of_ne _ _ (Nat.ne_of_lt hMade))
      factories := fun _ factory _ hFactory =>
        ⟨factory, hFactory, rfl, fun _ h => h⟩
      contexts := fun _ _ _ h => h
      recalls := .of_log_eq rfl }
  coherent := fun h => { h with }
  spares := fun _ =>
    .of_same (fun _ => rfl) (fun _ _ => rfl) fun _ _ _ h => h

/- A factory is made that resolved nothing yet. -/
theorem addFactory
    {factory : Factory}
    (hNew :
      ∀ found, factory = .keyspaces found →
        found.resolved = none) :
    Extends app
      { app with
        factories := app.factories.add factory } where
  persists :=
    { handleCount := Nat.le_refl _
      factoryCount := Nat.le_succ _
      contextCount := Nat.le_refl _
      registryCount := Nat.le_refl _
      handles := fun _ _ => rfl
      factories := by
        intro id found hMade hFound
        refine ⟨found, ?_, rfl, fun _ h => h⟩
        rw [← hFound]
        exact Pool.get_add_of_ne _ _ (Nat.ne_of_lt hMade)
      contexts := fun _ _ _ h => h
      recalls := .of_log_eq rfl }
  coherent := by
    intro h
    refine
      { h with
        remembered := ?_
        outfitted := ?_
        resolutions := ?_ }
    · intro id name found hRemembered
      exact
        Nat.lt_succ_of_lt
          (h.remembered id name found hRemembered)
    · intro id name other found hRemembered hFound
      have hMade := h.remembered id name other hRemembered
      dsimp only at hFound
      rw [Pool.get_add_of_ne _ _ (Nat.ne_of_lt hMade)]
        at hFound
      exact h.outfitted id name other found hRemembered hFound
    · intro id found resolution hFound hResolved
      by_cases hId : id = app.factories.size
      · subst id
        dsimp only at hFound
        rw [Pool.get_add_self] at hFound
        rw [hNew found hFound] at hResolved
        contradiction
      · dsimp only at hFound
        rw [Pool.get_add_of_ne _ _ hId] at hFound
        exact h.resolutions id found resolution hFound hResolved
  spares := fun _ =>
    .of_same (fun _ => rfl) (fun _ _ => rfl) fun _ _ _ h => h

/-
  A factory changes, but not what it resolved and through
  which registry.
-/
theorem setFactory
    {id : FactoryId}
    {factory : Factory}
    (hSame :
      factory.standing? =
        (app.factories.get id).standing?) :
    Extends app (app.setFactory id factory) where
  persists :=
    { handleCount := Nat.le_refl _
      factoryCount := Nat.le_refl _
      contextCount := Nat.le_refl _
      registryCount := Nat.le_refl _
      handles := fun _ _ => rfl
      factories := by
        intro other found _ hFound
        unfold Application.setFactory
        dsimp only
        by_cases hOther : other = id
        · subst other
          rw [Pool.get_set_self]
          rcases Factory.exists_of_standing hSame hFound with
            ⟨later, hLater, hRegistry, hResolved⟩
          rw [← hResolved]
          exact ⟨later, hLater, hRegistry, fun _ h => h⟩
        · rw [Pool.get_set_of_ne _ _ hOther]
          exact ⟨found, hFound, rfl, fun _ h => h⟩
      contexts := fun _ _ _ h => h
      recalls := .of_log_eq rfl }
  coherent := by
    intro h
    -- The factory stands as it did, so it is as before.
    have hBefore : ∀ other found,
        (app.setFactory id factory).factories.get other =
            .keyspaces found →
          ∃ earlier,
            app.factories.get other = .keyspaces earlier ∧
              earlier.registry = found.registry ∧
                earlier.resolved = found.resolved := by
      intro other found hFound
      unfold Application.setFactory at hFound
      dsimp only at hFound
      by_cases hOther : other = id
      · subst other
        rw [Pool.get_set_self] at hFound
        exact Factory.exists_of_standing hSame.symm hFound
      · rw [Pool.get_set_of_ne _ _ hOther] at hFound
        exact ⟨found, hFound, rfl, rfl⟩
    refine { h with outfitted := ?_, resolutions := ?_ }
    · intro context name other found hRemembered hFound
      rcases hBefore other found hFound with
        ⟨earlier, hEarlier, hRegistry, _⟩
      rw [← hRegistry]
      exact
        h.outfitted context name other earlier hRemembered
          hEarlier
    · intro other found resolution hFound hResolved
      rcases hBefore other found hFound with
        ⟨earlier, hEarlier, hRegistry, hSameResolved⟩
      rw [← hSameResolved] at hResolved
      rw [← hRegistry]
      exact
        h.resolutions other earlier resolution hEarlier
          hResolved
  spares := fun _ =>
    .of_same (fun _ => rfl) (fun _ _ => rfl) fun _ _ _ h => h

/-
  A factory that resolved nothing yet keeps what it resolved,
  on a live registered cluster.
-/
theorem keeping
    {id : FactoryId}
    {factory : KeyspaceFactory}
    {resource : Resource}
    {resolution : Resolution}
    (label : String)
    (hFactory : app.factories.get id = .keyspaces factory)
    (hUnresolved : factory.resolved = none)
    (hServes :
      app.Serves factory.registry resource.clusterName
        resolution.handle) :
    Extends app
      (app.keeping id factory resource resolution
        label) where
  persists :=
    { handleCount := Nat.le_refl _
      factoryCount := Nat.le_refl _
      contextCount := Nat.le_refl _
      registryCount := Nat.le_refl _
      handles := fun _ _ => rfl
      factories := by
        intro other found _ hFound
        by_cases hOther : other = id
        · subst other
          rw [hFactory] at hFound
          cases hFound
          refine ⟨_, Pool.get_set_self _ _ _, rfl, ?_⟩
          intro known hResolved
          rw [hUnresolved] at hResolved
          contradiction
        · refine ⟨found, ?_, rfl, fun _ h => h⟩
          rw [← hFound]
          exact Pool.get_set_of_ne app.factories _ hOther
      contexts := fun _ _ _ h => h
      recalls := (Recalls.logged app _).trans (.of_log_eq rfl) }
  coherent := by
    intro h
    refine { h with outfitted := ?_, resolutions := ?_ }
    · intro context name other found hRemembered hFound
      rcases keyspaces_keeping hFound with
        hOld | ⟨rfl, rfl⟩
      · exact
          h.outfitted context name other found hRemembered
            hOld
      · exact
          h.outfitted context name other factory hRemembered
            hFactory
    intro other found known hFound hKept
    simp only [resolved_keeping_iff]
    rcases keyspaces_keeping hFound with hOld | ⟨_, rfl⟩
    · rcases h.resolutions other found known hOld hKept with
        ⟨name, hResolved⟩
      exact ⟨name, Or.inl hResolved⟩
    · have hSame : resolution = known := Option.some.inj hKept
      subst known
      exact ⟨resource.clusterName, Or.inr ⟨rfl, rfl, rfl⟩⟩
  spares := by
    intro _
    refine
      { live := fun _ hLive => hLive
        kept := fun _ _ _ hRegistered _ => hRegistered
        resolved := ?_ }
    intro registry name handle hResolved
    rw [resolved_keeping_iff] at hResolved
    rcases hResolved with hOld | ⟨rfl, rfl, rfl⟩
    · exact Or.inl hOld
    · exact Or.inr hServes

/- A context is made without factories. -/
theorem addContext (arguments : List Argument) :
    Extends app
      { app with
        contexts :=
          app.contexts.add ⟨arguments, .empty, .empty⟩ } where
  persists := by
    refine
      .of_chooses rfl rfl (Nat.le_succ _) ?_ (Nat.le_refl _)
        (.of_log_eq rfl)
    intro id registry hMade hChooses
    dsimp only
    rw [Pool.get_add_of_ne _ _ (Nat.ne_of_lt hMade)]
    exact hChooses
  coherent := by
    intro h
    -- The new context remembers nothing.
    have hOld : ∀ id name factory,
        ((app.contexts.add ⟨arguments, .empty, .empty⟩).get
            id).factories.get? name =
            some factory →
          id ≠ app.contexts.size := by
      rintro id name factory hRemembered rfl
      rw [Pool.get_add_self] at hRemembered
      contradiction
    refine { h with remembered := ?_, outfitted := ?_ }
    · intro id name factory hRemembered
      have hNew := hOld id name factory hRemembered
      dsimp only at hRemembered
      rw [Pool.get_add_of_ne _ _ hNew] at hRemembered
      exact h.remembered id name factory hRemembered
    · intro id name factory found hRemembered hFound
      have hNew := hOld id name factory hRemembered
      dsimp only at hRemembered ⊢
      rw [Pool.get_add_of_ne _ _ hNew] at hRemembered ⊢
      exact
        h.outfitted id name factory found hRemembered hFound
  spares := fun _ =>
    .of_same (fun _ => rfl) (fun _ _ => rfl) fun _ _ _ h => h

/-
  A context changes, and chooses the same registry. It
  remembers factories as before, or such that were made and
  use this registry.
-/
theorem setContext
    {id : ContextId}
    {context : Context}
    (hChooses :
      ∀ registry,
        Argument.Chooses (app.contexts.get id).arguments
            registry →
          Argument.Chooses context.arguments registry)
    (hRemembered :
      ∀ name factory,
        context.factories.get? name = some factory →
          (app.contexts.get id).factories.get? name =
              some factory ∨
            factory < app.factories.size ∧
              ∀ found,
                app.factories.get factory =
                    .keyspaces found →
                  Argument.Chooses context.arguments
                    found.registry) :
    Extends app (app.setContext id context) where
  persists := by
    refine
      .of_chooses rfl rfl (Nat.le_refl _) ?_ (Nat.le_refl _)
        (.of_log_eq rfl)
    intro other registry _ hBefore
    unfold Application.setContext
    dsimp only
    by_cases hOther : other = id
    · subst other
      rw [Pool.get_set_self]
      exact hChooses registry hBefore
    · rw [Pool.get_set_of_ne _ _ hOther]
      exact hBefore
  coherent := by
    intro h
    refine { h with remembered := ?_, outfitted := ?_ }
    · intro other name factory hFound
      unfold Application.setContext at hFound ⊢
      dsimp only at hFound ⊢
      by_cases hOther : other = id
      · subst other
        rw [Pool.get_set_self] at hFound
        rcases hRemembered name factory hFound with
          hOld | ⟨hMade, _⟩
        · exact h.remembered id name factory hOld
        · exact hMade
      · rw [Pool.get_set_of_ne _ _ hOther] at hFound
        exact h.remembered other name factory hFound
    · intro other name factory found hFound hFactory
      unfold Application.setContext at hFound hFactory ⊢
      dsimp only at hFound hFactory ⊢
      by_cases hOther : other = id
      · subst other
        rw [Pool.get_set_self] at hFound ⊢
        rcases hRemembered name factory hFound with
          hOld | ⟨_, hMade⟩
        · exact
            hChooses _
              (h.outfitted id name factory found hOld
                hFactory)
        · exact hMade found hFactory
      · rw [Pool.get_set_of_ne _ _ hOther] at hFound ⊢
        exact
          h.outfitted other name factory found hFound hFactory
  spares := fun _ =>
    .of_same (fun _ => rfl) (fun _ _ => rfl) fun _ _ _ h => h

end Extends

/- A registry changes, but not what is registered in it. -/
theorem registered?_set_of_same
    (app : Application)
    {id : RegistryId}
    {registry : Registry}
    (hSame :
      registry.clusters = (app.registries.get id).clusters)
    (other : RegistryId)
    (name : String) :
    ({ app with
      registries :=
        app.registries.set id
          registry } : Application).registered? other name =
      app.registered? other name := by
  unfold registered?
  dsimp only
  by_cases hOther : other = id
  · subst other
    rw [Pool.get_set_self, hSame]
  · rw [Pool.get_set_of_ne _ _ hOther]

/- The configuration of a registry changes. -/
theorem Extends.setRegistry
    {id : RegistryId}
    {registry : Registry}
    (hSame :
      registry.clusters = (app.registries.get id).clusters) :
    Extends app
      { app with
        registries := app.registries.set id registry } where
  persists :=
    .of_same rfl rfl rfl (Nat.le_refl _)
      (.of_log_eq rfl)
  coherent := by
    intro h
    refine { h with registered := ?_ }
    intro other name cluster hRegistered
    rw [registered?_set_of_same app hSame] at hRegistered
    exact h.registered other name cluster hRegistered
  spares := fun _ =>
    .of_same (fun _ => rfl)
      (registered?_set_of_same app hSame) fun _ _ _ h => h

namespace Advances

/- Some of what is registered is forgotten. -/
theorem setRegistered
    {id : RegistryId}
    {clusters : Table String ClusterId}
    (hFewer :
      ∀ name cluster, clusters.get? name = some cluster →
        app.registered? id name = some cluster) :
    Advances app (app.setRegistered id clusters) where
  persists :=
    .of_same rfl rfl rfl (Nat.le_refl _)
      (.of_log_eq rfl)
  coherent := by
    intro h
    refine { h with registered := ?_ }
    intro other name cluster hRegistered
    rw [registered?_setRegistered] at hRegistered
    split at hRegistered
    case isTrue hOther =>
      subst other
      exact
        h.registered id name cluster
          (hFewer name cluster hRegistered)
    case isFalse =>
      exact h.registered other name cluster hRegistered

/- A cluster is shut down. -/
theorem closeCluster (cluster : ClusterId) :
    Advances app (app.withFleet (·.closeCluster cluster)) where
  persists :=
    .of_same rfl rfl rfl (Nat.le_refl _)
      (.of_log_eq rfl)
  coherent := by
    intro h
    refine { h with live := ?_ }
    intro other hLive
    have hClosed :=
      Fleet.isLive_closeCluster app.fleet cluster other
    refine h.live other ?_
    by_contra hDead
    rw [Bool.not_eq_true] at hDead
    rw [hDead, ite_self] at hClosed
    exact absurd (hClosed.symm.trans hLive) (by simp)

/- A registry is made, in which nothing is registered. -/
theorem addRegistry (conf : Option Config) :
    Advances app
      { app with
        registries := app.registries.add ⟨conf, .empty⟩ } where
  persists :=
    .of_same rfl rfl rfl (Nat.le_succ _)
      (.of_log_eq rfl)
  coherent := by
    intro h
    refine { h with registered := ?_ }
    intro other name cluster hRegistered
    unfold registered? at hRegistered
    dsimp only at hRegistered
    by_cases hNew : other = app.registries.size
    · subst other
      rw [Pool.get_add_self] at hRegistered
      contradiction
    · rw [Pool.get_add_of_ne _ _ hNew] at hRegistered
      exact h.registered other name cluster hRegistered

end Advances

end Application

end Keyspaces
