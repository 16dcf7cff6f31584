import Keyspaces.Context
import Keyspaces.Proofs.Factory

/-
  What loading declarations into a context comes to, and what
  resolving a value leaves alone: the contexts, the
  configurations of registries, and the history.

  Main statements:
    * `Context.perform_bindAll`
    * `Factory.undisturbed_resolve`
-/

------------------------------------------------------------
-- Changing Contexts
------------------------------------------------------------

namespace Keyspaces

namespace Application

/- A context is what it was set to. -/
@[simp]
theorem get_setContext_self
    (app : Application)
    (id : ContextId)
    (context : Context) :
    (app.setContext id context).contexts.get id = context :=
  Pool.get_set_self _ _ _

/- Setting a context leaves the others as they are. -/
theorem get_setContext_of_ne
    (app : Application)
    {id other : ContextId}
    (context : Context)
    (h : other ≠ id) :
    (app.setContext id context).contexts.get other =
      app.contexts.get other :=
  Pool.get_set_of_ne _ _ h

end Application

end Keyspaces

------------------------------------------------------------
-- Binding and Loading
------------------------------------------------------------

namespace Keyspaces

namespace Context

open Keyspaces.Action

/-
  A name is bound unless it already is, in which case nothing
  changes.
-/
theorem perform_bind_eq
    (id : ContextId)
    (name : String)
    (value : Value)
    (app : Application) :
    (bind id name value).perform app =
      if (app.contexts.get id).bindings.contains name then
        (.error (.alreadyBound name), app)
      else
        (.ok (),
          app.setContext id
            { app.contexts.get id with
              bindings :=
                (app.contexts.get id).bindings.insert name
                  value }) := by
  rw [bind, perform_bind_of_ok (perform_get app)]
  dsimp only
  split <;> rfl

/- References as what their names are bound to. -/
def bound
    (entries : List (String × Reference)) :
    List (String × Value) :=
  entries.map fun entry => (entry.1, entry.2.toValue)

/- A context in which entries are bound as well. -/
def binding
    (context : Context)
    (entries : List (String × Reference)) : Context :=
  { context with
    bindings := context.bindings.merge (bound entries) }

/- What is bound is what the entries say, or as before. -/
theorem get?_binding
    (context : Context)
    {entries : List (String × Reference)}
    (hDistinct : Entries.Distinct entries)
    (name : String) :
    (context.binding entries).bindings.get? name =
      (((Entries.value? name entries).map
        Reference.toValue).or
          (context.bindings.get? name)) := by
  have hBound : Entries.Distinct (bound entries) := by
    rw [Entries.distinct_iff_map_fst, bound, List.map_map]
    rw [Entries.distinct_iff_map_fst] at hDistinct
    exact hDistinct
  have hValue :
      Entries.value? name (bound entries) =
        (Entries.value? name entries).map
          Reference.toValue := by
    unfold Entries.value? bound
    rw [List.find?_map, Option.map_map, Option.map_map]
    rfl
  rw [binding, Table.get?_merge _ hBound, hValue]

/- Distinct names that are not bound yet are bound in order. -/
theorem perform_bindAll
    (id : ContextId)
    {entries : List (String × Reference)}
    (hDistinct : Entries.Distinct entries)
    (app : Application)
    (hNew :
      ∀ entry ∈ entries,
        (app.contexts.get id).bindings.get? entry.1 =
          none) :
    (bindAll id entries).perform app =
      (.ok (),
        app.setContext id
          ((app.contexts.get id).binding entries)) := by
  induction entries generalizing app with
  | nil =>
      have hSame :
          app.setContext id (app.contexts.get id) = app := by
        rw [Application.setContext, Pool.set_get_self]
      change (Except.ok (), app) = _
      exact congrArg (Prod.mk (Except.ok ())) hSame.symm
  | cons entry entries ih =>
      rcases List.pairwise_cons.mp hDistinct with
        ⟨hHead, hTail⟩
      have hFree :
          (app.contexts.get id).bindings.contains entry.1 =
            false := by
        rw [Table.contains_eq_false_iff]
        exact hNew entry List.mem_cons_self
      have hBind :
          (bind id entry.1 entry.2.toValue).perform app =
            (.ok (),
              app.setContext id
                ((app.contexts.get id).binding [entry])) := by
        rw [perform_bind_eq, hFree]
        rfl
      have hNext :
          ∀ other ∈ entries,
            ((app.setContext id
              ((app.contexts.get id).binding
                [entry])).contexts.get id).bindings.get?
                  other.1 =
              none := by
        intro other hOther
        have hDifferent := hHead other hOther
        rw [beq_eq_false_iff_ne] at hDifferent
        rw [Application.setContext]
        dsimp only
        rw [Pool.get_set_self,
          get?_binding _ (List.pairwise_singleton _ _),
          hNew other (List.mem_cons_of_mem _ hOther)]
        simp [Entries.value?, hDifferent]
      rw [bindAll, perform_bind_of_ok hBind,
        ih hTail _ hNext]
      unfold Application.setContext
      dsimp only
      rw [Pool.set_set, Pool.get_set_self]
      rfl

end Context

end Keyspaces

------------------------------------------------------------
-- What Resolving Leaves Alone
------------------------------------------------------------

namespace Keyspaces

namespace Application

/-
  No context changed, no registry has another configuration,
  the same calls fail, and the history is not forgotten.
-/
structure Undisturbed (before after : Application) :
    Prop where
  contexts : after.contexts = before.contexts
  conf :
    ∀ id,
      (after.registries.get id).conf =
        (before.registries.get id).conf
  faults : after.fleet.faults = before.fleet.faults
  recalls : Recalls before after

namespace Undisturbed

theorem refl (app : Application) : Undisturbed app app :=
  ⟨rfl, fun _ => rfl, rfl, .refl app⟩

theorem trans
    {first second third : Application}
    (hFirst : Undisturbed first second)
    (hSecond : Undisturbed second third) :
    Undisturbed first third where
  contexts := hSecond.contexts.trans hFirst.contexts
  conf := fun id =>
    (hSecond.conf id).trans (hFirst.conf id)
  faults := hSecond.faults.trans hFirst.faults
  recalls := hFirst.recalls.trans hSecond.recalls

instance : IsPreorder Application Undisturbed where
  refl := refl
  trans _ _ _ := trans

/- What is registered may change. -/
theorem setRegistered
    (app : Application)
    (id : RegistryId)
    (clusters : Table String ClusterId) :
    Undisturbed app (app.setRegistered id clusters) := by
  refine ⟨rfl, ?_, rfl, .of_log_eq rfl⟩
  intro other
  unfold Application.setRegistered
  by_cases hOther : other = id
  · subst other
    simp
  · simp [Pool.get_set_of_ne, hOther]

/- Events may be logged. -/
theorem logged
    (app : Application)
    (event : Event) : Undisturbed app (app.logged event) :=
  ⟨rfl, fun _ => rfl, rfl, .logged app event⟩

/- A factory may change. -/
theorem setFactory
    (app : Application)
    (id : FactoryId)
    (factory : Factory) :
    Undisturbed app (app.setFactory id factory) :=
  ⟨rfl, fun _ => rfl, rfl, .of_log_eq rfl⟩

/- The clusters and sessions may change. -/
theorem withFleet
    (app : Application)
    {change : Fleet → Fleet}
    (hFaults : (change app.fleet).faults = app.fleet.faults) :
    Undisturbed app (app.withFleet change) :=
  ⟨rfl, fun _ => rfl, hFaults, .of_log_eq rfl⟩

end Undisturbed

/- Using a handle leaves contexts and registries alone. -/
theorem Steady.undisturbed
    {before after : Application}
    (h : Steady before after) : Undisturbed before after where
  contexts := h.contexts
  conf := fun id => by rw [h.registries]
  faults := h.faults
  recalls :=
    { created := fun registry cluster name =>
        (h.created registry cluster name).mpr
      resolved := fun registry name handle =>
        (h.resolved registry name handle).mpr }

end Application

namespace Registry

open Keyspaces.Action Application

/- However asking for a cluster ends, little changed. -/
theorem Obtained.undisturbed
    {app : Application}
    {id : RegistryId}
    {name : String}
    {configurator : Configurator}
    {outcome : Except Failure ClusterId × Application}
    (hObtained : Obtained app id name configurator outcome) :
    Undisturbed app outcome.2 := by
  cases hObtained with
  | reused _ => exact .logged app _
  | unmapped _ _ => exact .refl app
  | refused _ _ _ => exact .withFleet app rfl
  | @created options _ _ _ =>
      have hMade :
          Undisturbed app
            ((app.withFleet Fleet.countAttempt).withFleet
              (·.addCluster options)) :=
        .trans (.withFleet app rfl) (.withFleet _ rfl)
      have hRegistered :=
        hMade.trans
          (.setRegistered _ id
            ((app.registries.get id).clusters.insert name
              app.fleet.clusters.size))
      exact
        hRegistered.trans
          (.logged _
            (.clusterCreated id app.fleet.clusters.size name
              configurator.hosts))

/- Asking for a cluster changes no configuration. -/
theorem undisturbed_getOrCreate
    (id : RegistryId)
    (name : String)
    (configurator : Configurator) :
    Relates Undisturbed
      (getOrCreate id name configurator) :=
  fun app =>
    (obtained_getOrCreate app id name
      configurator).undisturbed

/- A shutdown changes no configuration. -/
theorem undisturbed_shutdown
    (id : RegistryId)
    (name : Option String) :
    Relates Undisturbed (shutdown id name) :=
  relates_shutdown
    (fun app => .setRegistered app id _)
    (fun app _ => .logged app _)
    (fun app _ => .withFleet app rfl)

end Registry

namespace Handle

open Keyspaces.Action Application

/- Making a handle changes no configuration. -/
theorem undisturbed_create
    (name : Option String)
    (cluster : ClusterId) :
    Relates Undisturbed (create name cluster) :=
  fun _ => ⟨rfl, fun _ => rfl, rfl, .of_log_eq rfl⟩

end Handle

namespace KeyspaceFactory

open Keyspaces.Action Application

/- Rolling back changes no configuration. -/
theorem undisturbed_rollBack
    (registry : RegistryId)
    (name : String)
    (cluster : ClusterId)
    (existing : Option ClusterId) :
    Relates Undisturbed
      (rollBack registry name cluster existing) := by
  refine .bind (.bind .get fun app => .pure _) ?_
  intro registered
  split
  · exact Registry.undisturbed_shutdown registry (some name)
  · exact .pure _

/- Connecting a handle changes no configuration. -/
theorem undisturbed_connect
    (handle : HandleId)
    {undo : Action Unit}
    (hUndo : Relates Undisturbed undo) :
    Relates Undisturbed (connect handle undo) := by
  intro app
  have hConnected :=
    (Handle.steady_connect handle app).undisturbed
  rw [perform_connect]
  cases hConnect : (Handle.connect handle).perform app with
  | mk outcome after =>
      rw [hConnect] at hConnected
      cases outcome with
      | ok session => exact hConnected
      | error failure =>
          have hUndone := hConnected.trans (hUndo after)
          dsimp only
          cases hPerform : undo.perform after with
          | mk outcome undone =>
              rw [hPerform] at hUndone
              cases outcome <;> exact hUndone

/- Resolving for the first time changes no configuration. -/
theorem undisturbed_configure
    (id : FactoryId)
    (factory : KeyspaceFactory)
    (reference : Reference)
    (name : Option String) :
    Relates Undisturbed
      (configure id factory reference name) := by
  refine .bind .get ?_
  intro app
  refine .bind (.ofExcept _) ?_
  intro resource
  refine .bind (.bind .get fun _ => .pure _) ?_
  intro existing
  refine .bind (Registry.undisturbed_getOrCreate _ _ _) ?_
  intro cluster
  refine .bind (Handle.undisturbed_create _ _) ?_
  intro handle
  refine .bind (.ofExcept _) ?_
  intro connects
  have hRest : ∀ label : String,
      Relates Undisturbed (do
        Action.write
          (.keyspaceCreated factory.registry
            resource.clusterName handle label
            resource.configurator.record)
        modify (·.setFactory id (.keyspaces
          { factory with
            resolved :=
              some
                ⟨resource.configurator, cluster,
                  handle⟩ }))
        pure handle) := by
    intro label
    refine .bind (.write fun app => .logged app _) ?_
    intro _
    refine .bind (.modify fun app => .setFactory app id _) ?_
    intro _
    exact .pure handle
  split
  · refine
      .bind
        (undisturbed_connect handle
          (undisturbed_rollBack _ _ _ _)) ?_
    intro _
    exact hRest _
  · exact hRest _

/- Resolving a value changes no configuration. -/
theorem undisturbed_resolve
    (id : FactoryId)
    (factory : KeyspaceFactory)
    (value : Value)
    (name : Option String) :
    Relates Undisturbed (factory.resolve id value name) := by
  refine .bind (.ofExcept _) ?_
  intro reference
  cases factory.resolved with
  | some resolution => exact .pure _
  | none => exact undisturbed_configure id factory _ name

end KeyspaceFactory

namespace Factory

open Keyspaces.Action Application

/- Resolving through a factory changes no configuration. -/
theorem undisturbed_resolve
    (id : FactoryId)
    (value : Value)
    (name : Option String)
    (context : Option ContextId) :
    Relates Undisturbed (resolve id value name context) := by
  refine .bind .get ?_
  intro app
  cases app.factories.get id with
  | keyspaces factory =>
      refine
        .bind
          (KeyspaceFactory.undisturbed_resolve id factory
            value name) ?_
      intro handle
      exact .pure _
  | recorder recorder =>
      refine .bind ?_ fun recording => .pure _
      refine .bind (.modify fun app => .setFactory app id _) ?_
      intro _
      split
      · exact .throw _
      · exact .pure _
  | inert kindName => exact .throw _

/- Making a factory changes no configuration. -/
theorem undisturbed_create
    (usage : Importable.Usage)
    (arguments : List Argument) :
    Relates Undisturbed (create usage arguments) := by
  intro app
  rw [perform_create]
  cases ofUsage (app.factories.toList.filter isRecorder).length
      arguments usage with
  | error failure => exact Undisturbed.refl app
  | ok factory =>
      exact ⟨rfl, fun _ => rfl, rfl, .of_log_eq rfl⟩

end Factory

end Keyspaces
