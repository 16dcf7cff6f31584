import Keyspaces.Importable.Catalog
import Keyspaces.Proofs.Account.Operations
import Keyspaces.Proofs.Continuity.Operations
import Keyspaces.Proofs.Resource

/-
  One live cluster for each name, and none lost: a cluster is
  registered for as long as it is live, under the name that
  its registry created it with.

  Main declarations:
    * `Context.Traces`
    * `Context.resolved_of_lookup`
    * `Application.Custody`
    * `Application.Reachable.custody`
-/

------------------------------------------------------------
-- Consequences of the Account
------------------------------------------------------------

namespace Keyspaces

namespace Application

variable {app : Application}

/-
  Handles that were resolved with one name through a registry
  share their cluster while their clusters are live.
-/
theorem Accounted.share
    (h : app.Accounted)
    {registry : RegistryId}
    {name : String}
    {first second : HandleId}
    (hFirst : app.Resolved registry name first)
    (hSecond : app.Resolved registry name second)
    (hFirstLive :
      app.fleet.isLive (app.handles.get first).cluster = true)
    (hSecondLive :
      app.fleet.isLive (app.handles.get second).cluster =
        true) :
    (app.handles.get first).cluster =
      (app.handles.get second).cluster := by
  have hFirstCreated := (h.resolved _ _ _ hFirst).2
  have hSecondCreated := (h.resolved _ _ _ hSecond).2
  have hFirstKept := h.kept _ _ _ hFirstCreated hFirstLive
  have hSecondKept := h.kept _ _ _ hSecondCreated hSecondLive
  rw [hFirstKept] at hSecondKept
  exact Option.some.inj hSecondKept

/- A cluster that is answered is live. -/
theorem isLive_of_getOrCreate
    {registry : RegistryId}
    {name : String}
    {configurator : Configurator}
    {cluster : ClusterId}
    {after : Application}
    (hAnswer :
      (Registry.getOrCreate registry name
          configurator).perform app =
        (.ok cluster, after)) :
    after.fleet.isLive cluster = true := by
  have hObtained :=
    Registry.obtained_getOrCreate app registry name
      configurator
  rw [hAnswer] at hObtained
  exact hObtained.registered.2

/- A registry that was shut down has no live cluster. -/
theorem Accounted.none_live
    (h : app.Accounted)
    {registry : RegistryId}
    {cluster : ClusterId}
    {name : String}
    (hCreated :
      (app.released registry none).Created registry cluster
        name) :
    (app.released registry none).fleet.isLive cluster =
      false := by
  by_contra hNot
  rw [Bool.not_eq_false] at hNot
  have hKept :=
    (h.released registry none).kept _ _ _ hCreated hNot
  rw [registered?_released, if_pos ⟨rfl, Or.inl rfl⟩] at hKept
  contradiction

end Application

end Keyspaces

------------------------------------------------------------
-- Answers and the History
------------------------------------------------------------

namespace Keyspaces

/- The history tells of what factories resolved. -/
def Application.Told (app : Application) : Prop :=
  ∀ id factory resolution,
    app.factories.get id = .keyspaces factory →
      factory.resolved = some resolution →
        ∃ name,
          app.Resolved factory.registry name
            resolution.handle

open Application

namespace Factory

open Keyspaces.Action KeyspaceFactory

/-
  The history tells of every handle that a factory answers
  with, if it tells of those answered before. The first time,
  its cluster is the one with the name in the reference.
-/
theorem resolved_of_resolve
    {app after : Application}
    (hTold : app.Told)
    {id : FactoryId}
    {value : Value}
    {name : Option String}
    {context : Option ContextId}
    {handle : HandleId}
    (hAnswer :
      (resolve id value name context).perform app =
        (.ok (.handle handle), after)) :
    ∃ factory clusterName,
      app.factories.get id = .keyspaces factory ∧
        after.Resolved factory.registry clusterName handle ∧
          (factory.resolved = none →
            ∃ resource,
              Resource.parse (factory.conf.getD app.conf)
                  value =
                .ok resource ∧
                  resource.clusterName = clusterName) := by
  rcases answered_of_resolve hAnswer with
    ⟨factory, hFactory, hAnswered⟩
  cases hAnswered with
  | @known reference resolution hValue hResolved =>
      rcases hTold id factory resolution hFactory
          hResolved with
        ⟨clusterName, hHistory⟩
      refine ⟨factory, clusterName, hFactory, hHistory, ?_⟩
      intro hNone
      rw [hNone] at hResolved
      contradiction
  | configured hValue _ hConfigured =>
      cases hConfigured with
      | @resolved resource cluster obtained ready _ hResource
          hObtain hConnects hReady =>
          refine
            ⟨factory, resource.clusterName, hFactory, ?_, ?_⟩
          · exact
              (resolved_logged_iff ready _ _ _ _).mpr
                (Or.inr ⟨_, _, rfl⟩)
          · intro _
            refine ⟨resource, ?_, rfl⟩
            exact
              Resource.parse_eq_ok_iff.mpr
                ⟨_, hValue, hResource⟩

end Factory

namespace Context

open Keyspaces.Action

/-
  Nothing was resolved for what a name is bound to: if a
  factory is remembered for it, this resolved nothing yet.
-/
def IsFresh
    (app : Application)
    (id : ContextId)
    (name : String) : Prop :=
  ∀ factory found,
    (app.contexts.get id).factories.get? name =
        some factory →
      app.factories.get factory = .keyspaces found →
        found.resolved = none

/-
  A handle that a name is looked up to was resolved through
  the registry that the context chooses. The first time, its
  cluster is the one that is named in what the name is bound
  to.
-/
def Traces
    (app : Application)
    (id : ContextId)
    (name : String)
    (handle : HandleId)
    (after : Application) : Prop :=
  ∃ value registry clusterName,
    (app.contexts.get id).bindings.get? name = some value ∧
      Argument.Chooses (app.contexts.get id).arguments
          registry ∧
        after.Resolved registry clusterName handle ∧
          (IsFresh app id name →
            value.clusterName? = some clusterName)

/- A factory for a name uses the registry that is chosen. -/
theorem Furnished.chooses
    {importer : Importer}
    {id : ContextId}
    {name : String}
    {reference : Reference}
    {app furnished : Application}
    {occurrences : List Occurrence}
    {factory : FactoryId}
    {found : KeyspaceFactory}
    (h :
      Furnished importer id name reference app occurrences
        (.ok factory, furnished))
    (hCoherent : app.Coherent)
    (hFound : furnished.factories.get factory = .keyspaces found) :
    Argument.Chooses (app.contexts.get id).arguments
        found.registry ∧
      (IsFresh app id name → found.resolved = none) := by
  cases h with
  | remembered hFactory =>
      exact
        ⟨hCoherent.outfitted id name factory found hFactory
            hFound,
          fun hFresh => hFresh factory found hFactory hFound⟩
  | @made _ _ factory _ _ _ hUsage _ =>
      change
        (app.factories.add factory).get app.factories.size = _
          at hFound
      rw [Pool.get_add_self] at hFound
      subst hFound
      have hMade := Factory.chooses_of_ofUsage hUsage
      exact ⟨hMade.2, fun _ => hMade.1⟩

/- The history tells of every handle that is looked up. -/
theorem resolved_of_lookup
    {importer : Importer}
    {app after : Application}
    (hCoherent : app.Coherent)
    {id : ContextId}
    {name : String}
    {handle : HandleId}
    (hAnswer :
      (lookup importer id name).perform app =
        (.ok (.handle handle), after)) :
    Traces app id name handle after := by
  rcases asked_of_lookup hAnswer with
    ⟨value, _, _, _, furnished, hBound, _, hFurnished,
      hResolve⟩
  have hFurnishedCoherent : furnished.Coherent :=
    hFurnished.extends.coherent hCoherent
  rcases Factory.resolved_of_resolve
      hFurnishedCoherent.resolutions hResolve with
    ⟨factory, clusterName, hFactory, hResolved, hFirst⟩
  have hUsed := hFurnished.chooses hCoherent hFactory
  refine
    ⟨value, factory.registry, clusterName, hBound, hUsed.1,
      hResolved, ?_⟩
  intro hFresh
  rcases hFirst (hUsed.2 hFresh) with ⟨resource, hParsed, rfl⟩
  exact Resource.clusterName?_of_parse hParsed

end Context

end Keyspaces

------------------------------------------------------------
-- Custody
------------------------------------------------------------

namespace Keyspaces

namespace Application

/-
  Each cluster was created by a registry under a name, and
  while it is live it is the one registered there. So handles
  that were resolved with one name share their live cluster,
  what is answered is live, and a registry that was shut down
  has no live cluster. The history tells of every handle that
  a factory or a context answers with, and is not forgotten.
  A factory uses its own registry, and a context the one that
  its arguments choose.
-/
structure Custody
    (importer : Importer)
    (app : Application) : Prop where
  origin :
    ∀ cluster, cluster < app.fleet.clusters.size →
      ∃ registry name, app.Created registry cluster name
  kept :
    ∀ registry cluster name,
      app.Created registry cluster name →
        app.fleet.isLive cluster = true →
          app.registered? registry name = some cluster
  shared :
    ∀ registry name first second,
      app.Resolved registry name first →
        app.Resolved registry name second →
          app.fleet.isLive (app.handles.get first).cluster =
              true →
            app.fleet.isLive
                (app.handles.get second).cluster =
              true →
              (app.handles.get first).cluster =
                (app.handles.get second).cluster
  answered :
    ∀ registry name configurator cluster after,
      (Registry.getOrCreate registry name
            configurator).perform app =
          (.ok cluster, after) →
        after.fleet.isLive cluster = true
  stopped :
    ∀ registry, ∃ after,
      (Registry.shutdown registry none).perform app =
          (.ok (), after) ∧
        ∀ cluster name,
          after.Created registry cluster name →
            after.fleet.isLive cluster = false
  resolved :
    ∀ id value name context handle after,
      (Factory.resolve id value name context).perform app =
          (.ok (.handle handle), after) →
        ∃ factory clusterName,
          app.factories.get id = .keyspaces factory ∧
            after.Resolved factory.registry clusterName
                handle ∧
              (factory.resolved = none →
                ∃ resource,
                  Resource.parse
                      (factory.conf.getD app.conf) value =
                    .ok resource ∧
                      resource.clusterName = clusterName)
  found :
    ∀ id name handle after,
      (Context.lookup importer id name).perform app =
          (.ok (.handle handle), after) →
        Context.Traces app id name handle after
  recalled :
    ∀ operation : Operation,
      Recalls app (operation.perform importer app)

/- An application that is reached is coherent. -/
theorem Reachable.coherent
    {importer : Importer}
    {app : Application}
    (h : app.Reachable importer) : app.Coherent := by
  induction h with
  | start conf faults _ => exact coherent_start conf faults
  | step operation _ _ ih =>
      exact
        (operation.advances_perform importer _).coherent ih

/- Custody holds in every application that is reached. -/
theorem Reachable.custody
    {importer : Importer}
    {app : Application}
    (h : app.Reachable importer) : Custody importer app := by
  have hAccounted := h.accounted
  constructor
  case origin => exact hAccounted.origin
  case kept => exact hAccounted.kept
  case shared =>
    intro registry name first second hFirst hSecond
      hFirstLive hSecondLive
    exact
      hAccounted.share hFirst hSecond hFirstLive hSecondLive
  case answered =>
    intro registry name configurator cluster after hAnswer
    exact isLive_of_getOrCreate hAnswer
  case stopped =>
    intro registry
    have hReleased :=
      Registry.perform_shutdown hAccounted.returns registry
        none
    refine ⟨_, hReleased, ?_⟩
    intro cluster name hCreated
    exact hAccounted.none_live hCreated
  case resolved =>
    intro id value name context handle after hAnswer
    exact
      Factory.resolved_of_resolve hAccounted.resolutions
        hAnswer
  case found =>
    intro id name handle after hAnswer
    exact Context.resolved_of_lookup h.coherent hAnswer
  case recalled =>
    intro operation
    exact operation.recalls_perform importer app

namespace Sample

/- An operation of an application that imports as usual. -/
def next (operation : Operation) (app : Application) :
    Application :=
  operation.perform .standard app

/- Two factories that resolved the same reference. -/
def app : Application :=
  let reference := Resource.Sample.reference.toValue
  next (.resolve 1 reference none none)
    (next (.resolve 0 reference none none)
      (next (.createFactory none none)
        (next (.createFactory none none)
          (.start .empty .none))))

theorem reachable_app : app.Reachable .standard := by
  have hStart :
      (start .empty .none).Reachable .standard :=
    .start .empty .none fun _ => List.not_mem_nil
  have hFirst :=
    Reachable.step (.createFactory none none) hStart
      (fun _ h => nomatch h)
  have hSecond :=
    Reachable.step (.createFactory none none) hFirst
      (fun _ h => nomatch h)
  have hResolved :=
    Reachable.step
      (.resolve 0 Resource.Sample.reference.toValue none none)
      hSecond trivial
  exact .step (.resolve 1 _ none none) hResolved trivial

end Sample

/- The handles that the factories answered with share. -/
theorem share_sample :
    Sample.app.Reachable .standard ∧
      Sample.app.fleet.isLive
          (Sample.app.handles.get 0).cluster =
        true ∧
        (Sample.app.handles.get 0).cluster =
          (Sample.app.handles.get 1).cluster := by
  have hFirst :
      Sample.app.Resolved processRegistry "C" 0 :=
    ⟨_, _, List.mem_cons_of_mem _ List.mem_cons_self⟩
  have hSecond :
      Sample.app.Resolved processRegistry "C" 1 :=
    ⟨_, _, List.mem_cons_of_mem _
      (List.mem_cons_of_mem _
        (List.mem_cons_of_mem _ List.mem_cons_self))⟩
  refine ⟨Sample.reachable_app, rfl, ?_⟩
  exact
    Sample.reachable_app.custody.shared processRegistry "C" 0
      1 hFirst hSecond rfl rfl

end Application

end Keyspaces
