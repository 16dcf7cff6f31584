import Keyspaces.Proofs.Operation

/-
  The account that an application keeps of its clusters: every
  cluster was created by a registry under a name, and is
  registered there for as long as it is live.

  Main declarations:
    * `Application.Accounted`
    * `Application.accounted_start`
    * `Application.Accounted.of_alike`
-/

------------------------------------------------------------
-- The Account
------------------------------------------------------------

namespace Keyspaces

namespace Application

/-
  The history of the clusters agrees with the registries. That
  of the handles agrees with the clusters they are on, and
  with what factories resolved. Factories and contexts are
  about registries that were made.
-/
structure Accounted (app : Application) : Prop where
  returns : app.fleet.faults.ShutdownReturns
  made :
    ∀ registry cluster name,
      app.Created registry cluster name →
        cluster < app.fleet.clusters.size
  origin :
    ∀ cluster, cluster < app.fleet.clusters.size →
      ∃ registry name, app.Created registry cluster name
  kept :
    ∀ registry cluster name,
      app.Created registry cluster name →
        app.fleet.isLive cluster = true →
          app.registered? registry name = some cluster
  registered :
    ∀ registry cluster name,
      app.registered? registry name = some cluster →
        app.Created registry cluster name
  resolved :
    ∀ registry name handle,
      app.Resolved registry name handle →
        handle < app.handles.size ∧
          app.Created registry
            (app.handles.get handle).cluster name
  resolutions :
    ∀ id factory resolution,
      app.factories.get id = .keyspaces factory →
        factory.resolved = some resolution →
          ∃ name,
            app.Resolved factory.registry name
              resolution.handle
  unmade :
    ∀ registry name, app.registries.size ≤ registry →
      app.registered? registry name = none
  factoryRegistry :
    ∀ id factory,
      app.factories.get id = .keyspaces factory →
        factory.registry < app.registries.size
  contextRegistry :
    ∀ id registry,
      Argument.registry registry ∈
          (app.contexts.get id).arguments →
        registry < app.registries.size
  processRegistry :
    Application.processRegistry < app.registries.size

/- In the beginning there is nothing to account for. -/
theorem accounted_start
    (conf : Config)
    {faults : Faults}
    (hReturns : faults.ShutdownReturns) :
    (start conf faults).Accounted := by
  have hRegistered : ∀ registry name,
      (start conf faults).registered? registry name =
        none := by
    intro registry name
    change
      (if registry = 0 then (⟨none, .empty⟩ : Registry)
        else default).clusters.get? name = none
    split <;> rfl
  have hCreated : ∀ registry cluster name,
      ¬ (start conf faults).Created registry cluster
        name := by
    rintro registry cluster name ⟨hosts, hEvent⟩
    exact List.not_mem_nil hEvent
  constructor
  case returns => exact hReturns
  case made =>
    intro registry cluster name h
    exact absurd h (hCreated registry cluster name)
  case origin =>
    intro cluster h
    exact absurd h (Nat.not_lt_zero cluster)
  case kept =>
    intro registry cluster name h
    exact absurd h (hCreated registry cluster name)
  case registered =>
    intro registry cluster name h
    rw [hRegistered] at h
    contradiction
  case resolved =>
    rintro registry name handle ⟨label, record, hEvent⟩
    exact absurd hEvent List.not_mem_nil
  case resolutions =>
    intro id factory resolution h
    contradiction
  case unmade =>
    intro registry name _
    exact hRegistered registry name
  case factoryRegistry =>
    intro id factory h
    contradiction
  case contextRegistry =>
    intro id registry h
    exact absurd h List.not_mem_nil
  case processRegistry => exact Nat.one_pos

end Application

end Keyspaces

------------------------------------------------------------
-- Changes That Matter Little
------------------------------------------------------------

namespace Keyspaces

namespace Application

/-
  Nothing that the account is about changed, except that the
  calls that fail may be others.
-/
structure Alike (before after : Application) : Prop where
  clusters : after.fleet.clusters = before.fleet.clusters
  registries : after.registries = before.registries
  factories : after.factories = before.factories
  contexts : after.contexts = before.contexts
  handleCount : after.handles.size = before.handles.size
  handleCluster :
    ∀ id,
      (after.handles.get id).cluster =
        (before.handles.get id).cluster
  created :
    ∀ registry cluster name,
      after.Created registry cluster name ↔
        before.Created registry cluster name
  resolved :
    ∀ registry name handle,
      after.Resolved registry name handle ↔
        before.Resolved registry name handle

/- Using a handle changes nothing that the account is about. -/
theorem Steady.alike
    {before after : Application}
    (h : Steady before after) : Alike before after :=
  { clusters := h.clusters
    registries := h.registries
    factories := h.factories
    contexts := h.contexts
    handleCount := h.handleCount
    handleCluster := h.handleCluster
    created := h.created
    resolved := h.resolved }

/- The event tells what was created or resolved. -/
def isHistory : Event → Bool
| .clusterCreated _ _ _ _ => true
| .keyspaceCreated _ _ _ _ _ => true
| _ => false

/- An event that is no part of the history. -/
theorem alike_logged
    (app : Application)
    {event : Event}
    (hOther : isHistory event = false) :
    Alike app (app.logged event) where
  clusters := rfl
  registries := rfl
  factories := rfl
  contexts := rfl
  handleCount := rfl
  handleCluster := fun _ => rfl
  created := by
    intro registry cluster name
    rw [created_logged_iff]
    refine or_iff_left ?_
    rintro ⟨hosts, rfl⟩
    contradiction
  resolved := by
    intro registry name handle
    rw [resolved_logged_iff]
    refine or_iff_left ?_
    rintro ⟨label, record, rfl⟩
    contradiction

/- The account is kept when nothing it is about changes. -/
theorem Accounted.of_alike
    {before after : Application}
    (h : before.Accounted)
    (hAlike : Alike before after)
    (hReturns : after.fleet.faults.ShutdownReturns) :
    after.Accounted := by
  have hRegistered : ∀ registry name,
      after.registered? registry name =
        before.registered? registry name := by
    intro registry name
    rw [registered?, hAlike.registries]
    rfl
  have hLive : ∀ cluster,
      after.fleet.isLive cluster =
        before.fleet.isLive cluster := by
    intro cluster
    rw [Fleet.isLive, hAlike.clusters]
    rfl
  constructor
  case returns => exact hReturns
  case made =>
    simpa only [hAlike.created, hAlike.clusters] using h.made
  case origin =>
    simpa only [hAlike.created, hAlike.clusters] using
      h.origin
  case kept =>
    simpa only [hAlike.created, hLive, hRegistered] using
      h.kept
  case registered =>
    simpa only [hAlike.created, hRegistered] using
      h.registered
  case resolved =>
    simpa only [hAlike.resolved, hAlike.handleCount,
      hAlike.created, hAlike.handleCluster] using h.resolved
  case resolutions =>
    simpa only [hAlike.factories, hAlike.resolved] using
      h.resolutions
  case unmade =>
    simpa only [hAlike.registries, hRegistered] using h.unmade
  case factoryRegistry =>
    simpa only [hAlike.factories, hAlike.registries] using
      h.factoryRegistry
  case contextRegistry =>
    simpa only [hAlike.contexts, hAlike.registries] using
      h.contextRegistry
  case processRegistry =>
    simpa only [hAlike.registries] using h.processRegistry

/- Using a handle keeps the account. -/
theorem Accounted.of_steady
    {before after : Application}
    (h : before.Accounted)
    (hSteady : Steady before after) :
    after.Accounted := by
  have hReturns := h.returns
  rw [← hSteady.faults] at hReturns
  exact h.of_alike hSteady.alike hReturns

end Application

end Keyspaces
