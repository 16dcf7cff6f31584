import Keyspaces.Proofs.Operation

/-
  What operations leave a context to hold under a name: what
  is bound to it and the factory that is remembered for it.
  Operations about other names leave both as they are, and
  only a renewed binding or its removal takes them away.

  Main declarations:
    * `Application.Leaves`
    * `Application.Retains`
    * `Operation.leaves_perform`
    * `Operation.retains_perform`
-/

------------------------------------------------------------
-- What a Context Holds
------------------------------------------------------------

namespace Keyspaces

namespace Application

/-
  A context holds the same under a name, and makes factories
  with the same arguments.
-/
structure Leaves
    (id : ContextId)
    (name : String)
    (before after : Application) : Prop where
  arguments :
    (after.contexts.get id).arguments =
      (before.contexts.get id).arguments
  binding :
    (after.contexts.get id).bindings.get? name =
      (before.contexts.get id).bindings.get? name
  factory :
    (after.contexts.get id).factories.get? name =
      (before.contexts.get id).factories.get? name

/-
  A context still holds what it held under a name, and makes
  factories with the same arguments.
-/
structure Retains
    (id : ContextId)
    (name : String)
    (before after : Application) : Prop where
  arguments :
    (after.contexts.get id).arguments =
      (before.contexts.get id).arguments
  binding :
    ∀ value,
      (before.contexts.get id).bindings.get? name =
          some value →
        (after.contexts.get id).bindings.get? name =
          some value
  factory :
    ∀ factory,
      (before.contexts.get id).factories.get? name =
          some factory →
        (after.contexts.get id).factories.get? name =
          some factory

variable {id context : ContextId}
variable {name key : String}
variable {app : Application}

namespace Leaves

/- No context changed. -/
theorem of_contexts
    {before after : Application}
    (h : after.contexts = before.contexts) :
    Leaves id name before after := by
  constructor <;> rw [h]

theorem refl (app : Application) : Leaves id name app app :=
  of_contexts rfl

theorem trans
    {first second third : Application}
    (hFirst : Leaves id name first second)
    (hSecond : Leaves id name second third) :
    Leaves id name first third where
  arguments := hSecond.arguments.trans hFirst.arguments
  binding := hSecond.binding.trans hFirst.binding
  factory := hSecond.factory.trans hFirst.factory

/- A context changes, but not what it holds under the name. -/
theorem setContext
    {changed : Context}
    (hSame :
      context = id →
        changed.arguments = (app.contexts.get id).arguments ∧
          changed.bindings.get? name =
              (app.contexts.get id).bindings.get? name ∧
            changed.factories.get? name =
              (app.contexts.get id).factories.get? name) :
    Leaves id name app (app.setContext context changed) := by
  by_cases hContext : context = id
  · subst context
    rcases hSame rfl with ⟨hArguments, hBinding, hFactory⟩
    constructor <;> rwa [get_setContext_self]
  · have hOther : id ≠ context := Ne.symm hContext
    constructor <;> rw [get_setContext_of_ne _ _ hOther]

end Leaves

namespace Retains

theorem of_leaves
    {before after : Application}
    (h : Leaves id name before after) :
    Retains id name before after where
  arguments := h.arguments
  binding := by
    intro value hValue
    rw [h.binding]
    exact hValue
  factory := by
    intro factory hFactory
    rw [h.factory]
    exact hFactory

theorem refl (app : Application) : Retains id name app app :=
  of_leaves (.refl app)

theorem trans
    {first second third : Application}
    (hFirst : Retains id name first second)
    (hSecond : Retains id name second third) :
    Retains id name first third where
  arguments := hSecond.arguments.trans hFirst.arguments
  binding := fun value hValue =>
    hSecond.binding value (hFirst.binding value hValue)
  factory := fun factory hFactory =>
    hSecond.factory factory (hFirst.factory factory hFactory)

end Retains

/- A name that was not bound yet is bound. -/
theorem retains_binding
    (value : Value)
    (hFree :
      (app.contexts.get context).bindings.get? key = none) :
    Retains id name app
      (app.setContext context
        { app.contexts.get context with
          bindings :=
            (app.contexts.get context).bindings.insert key
              value }) := by
  by_cases hContext : context = id
  · subst context
    constructor <;> rw [get_setContext_self]
    case binding =>
      intro bound hBound
      have hKey : name ≠ key := by
        rintro rfl
        rw [hFree] at hBound
        contradiction
      rw [Table.get?_insert_of_ne _ _ hKey]
      exact hBound
    case factory =>
      intro factory hFactory
      exact hFactory
  · exact
      .of_leaves (.setContext fun h => absurd h hContext)

/- A name for which no factory is remembered gets one. -/
theorem retains_remembering
    (factory : FactoryId)
    (hNew :
      (app.contexts.get context).factories.get? key = none) :
    Retains id name app
      (app.remembering context key factory) := by
  unfold remembering
  by_cases hContext : context = id
  · subst context
    constructor <;> rw [get_setContext_self]
    case binding =>
      intro value hValue
      exact hValue
    case factory =>
      intro other hOther
      have hKey : name ≠ key := by
        rintro rfl
        rw [hNew] at hOther
        contradiction
      rw [Table.get?_insert_of_ne _ _ hKey]
      exact hOther
  · exact
      .of_leaves (.setContext fun h => absurd h hContext)

/- Another name gets a factory. -/
theorem leaves_remembering
    (factory : FactoryId)
    (hOther : ¬ (context = id ∧ key = name)) :
    Leaves id name app
      (app.remembering context key factory) := by
  refine .setContext ?_
  rintro rfl
  have hKey : name ≠ key := by
    rintro rfl
    exact hOther ⟨rfl, rfl⟩
  exact ⟨rfl, rfl, Table.get?_insert_of_ne _ _ hKey⟩

end Application

end Keyspaces

------------------------------------------------------------
-- Binding and Looking Up
------------------------------------------------------------

namespace Keyspaces

namespace Context

open Keyspaces.Action Application

variable {id context : ContextId}
variable {name key : String}

/- Binding a name takes away nothing. -/
theorem retains_bind
    (context : ContextId)
    (key : String)
    (value : Value) :
    Relates (Retains id name) (bind context key value) := by
  intro app
  rw [perform_bind_eq]
  split
  case isTrue => exact .refl app
  case isFalse hFree =>
    rw [Bool.not_eq_true, Table.contains_eq_false_iff] at hFree
    exact retains_binding value hFree

/- Binding another name changes nothing for a name. -/
theorem leaves_bind
    (value : Value)
    (hOther : ¬ (context = id ∧ key = name)) :
    Relates (Leaves id name) (bind context key value) := by
  intro app
  rw [perform_bind_eq]
  split
  · exact .refl app
  · refine .setContext ?_
    rintro rfl
    have hKey : name ≠ key := by
      rintro rfl
      exact hOther ⟨rfl, rfl⟩
    exact ⟨rfl, Table.get?_insert_of_ne _ _ hKey, rfl⟩

/- Loading declarations takes away nothing. -/
theorem retains_load
    (context : ContextId)
    (declared : Except Failure Declarations) :
    Relates (Retains id name) (load context declared) := by
  intro first
  refine keeps_load (P := Retains id name first) ?_ ?_
    declared first (.refl first)
  · intro other value app hApp
    exact hApp.trans (retains_bind context other value app)
  · intro names app hApp
    exact hApp.trans (.of_leaves (.of_contexts rfl))

/- Loading declarations makes no factory. -/
theorem factories_load
    (id : ContextId)
    (declared : Except Failure Declarations)
    (app : Application) :
    (((load id declared).perform app).2.contexts.get
        id).factories =
      (app.contexts.get id).factories := by
  refine
    keeps_load
      (P := fun after =>
        (after.contexts.get id).factories =
          (app.contexts.get id).factories)
      ?_ ?_ declared app rfl
  · intro name value after hSame
    rw [perform_bind_eq]
    split
    · exact hSame
    · rw [get_setContext_self]
      exact hSame
  · intro names after hSame
    exact hSame

/- Loading into another context changes nothing for a name. -/
theorem leaves_load
    (declared : Except Failure Declarations)
    (hOther : context ≠ id) :
    Relates (Leaves id name) (load context declared) := by
  intro first
  refine keeps_load (P := Leaves id name first) ?_ ?_ declared
    first (.refl first)
  · intro other value app hApp
    exact
      hApp.trans
        (leaves_bind value (fun h => hOther h.1) app)
  · intro names app hApp
    exact hApp.trans (.of_contexts rfl)

/-
  What depends on the contexts alone is kept by a lookup if
  remembering a new factory keeps it.
-/
theorem keeps_lookup_of_contexts
    {P : Application → Prop}
    (hContexts :
      ∀ before after, after.contexts = before.contexts →
        P before → P after)
    (hRemember :
      ∀ factory app,
        (app.contexts.get context).factories.get? key =
            none →
          P app → P (app.remembering context key factory))
    (importer : Importer) :
    Keeps P (lookup importer context key) := by
  apply keeps_lookup
  · intro reference
    apply keeps_factoryOf
    · intro usage app hApp
      have hCreate :=
        Factory.undisturbed_create usage
          (app.contexts.get context).arguments app
      exact hContexts _ _ hCreate.contexts hApp
    · intro factory app _ hNew hApp
      exact hRemember factory app hNew hApp
  · intro factory value app hApp
    have hResolve :=
      Factory.undisturbed_resolve factory value (some key)
        (some context) app
    exact hContexts _ _ hResolve.contexts hApp

/- Looking a name up takes away nothing. -/
theorem retains_lookup
    (importer : Importer)
    (context : ContextId)
    (key : String) :
    Relates (Retains id name)
      (lookup importer context key) := by
  intro first
  refine
    keeps_lookup_of_contexts (P := Retains id name first)
      ?_ ?_ importer first (.refl first)
  · intro before after hSame hBefore
    exact hBefore.trans (.of_leaves (.of_contexts hSame))
  · intro factory app hNew hApp
    exact hApp.trans (retains_remembering factory hNew)

/- Looking another name up changes nothing for a name. -/
theorem leaves_lookup
    (importer : Importer)
    (hOther : ¬ (context = id ∧ key = name)) :
    Relates (Leaves id name)
      (lookup importer context key) := by
  intro first
  refine
    keeps_lookup_of_contexts (P := Leaves id name first)
      ?_ ?_ importer first (.refl first)
  · intro before after hSame hBefore
    exact hBefore.trans (.of_contexts hSame)
  · intro factory app _ hApp
    exact hApp.trans (leaves_remembering factory hOther)

end Context

end Keyspaces

------------------------------------------------------------
-- Operations
------------------------------------------------------------

namespace Keyspaces

namespace Operation

open Keyspaces.Action Application

/- The operation may change what a context holds for a name. -/
def Concerns
    (id : ContextId)
    (name : String) : Operation → Prop
| .bind context key _ => context = id ∧ key = name
| .rebind context key _ => context = id ∧ key = name
| .unbind context key => context = id ∧ key = name
| .load context _ => context = id
| .lookup context key => context = id ∧ key = name
| _ => False

/- The operation binds a name anew or unbinds it. -/
def Renews
    (id : ContextId)
    (name : String) : Operation → Prop
| .rebind context key _ => context = id ∧ key = name
| .unbind context key => context = id ∧ key = name
| _ => False

variable {id : ContextId}
variable {name : String}

/- Operations about other names change nothing for a name. -/
theorem leaves_perform
    (importer : Importer)
    {operation : Operation}
    (hOther : ¬ operation.Concerns id name)
    {app : Application}
    (hMade : id < app.contexts.size) :
    Leaves id name app (operation.perform importer app) := by
  by_cases hQuiet : operation.IsQuiet
  · exact
      .of_contexts (steady_perform importer hQuiet app).contexts
  cases operation with
  | createRegistry conf => exact .of_contexts rfl
  | getOrCreate registry key configurator =>
      have hObtained :=
        Registry.undisturbed_getOrCreate registry key
          configurator app
      exact
        after_discard (motive := Leaves id name app)
          (.of_contexts hObtained.contexts)
  | shutdownClusters registry key =>
      exact
        .of_contexts
          (Registry.undisturbed_shutdown registry key
            app).contexts
  | createFactory registry conf => exact .of_contexts rfl
  | resolve factory value key context =>
      have hResolved :=
        Factory.undisturbed_resolve factory value key context
          app
      exact
        after_discard (motive := Leaves id name app)
          (.of_contexts hResolved.contexts)
  | createContext arguments =>
      have hOld :
          (((Context.create arguments).perform app).2.contexts.get
              id) =
            app.contexts.get id :=
        Pool.get_add_of_ne _ _ (Nat.ne_of_lt hMade)
      refine
        after_discard (motive := Leaves id name app) ?_
      constructor <;> rw [hOld]
  | bind context key value =>
      exact Context.leaves_bind value hOther app
  | rebind context key value =>
      refine .setContext ?_
      rintro rfl
      have hKey : name ≠ key := by
        rintro rfl
        exact hOther ⟨rfl, rfl⟩
      exact
        ⟨rfl, Table.get?_insert_of_ne _ _ hKey,
          Table.get?_erase_of_ne _ hKey⟩
  | unbind context key =>
      refine .setContext ?_
      rintro rfl
      have hKey : name ≠ key := by
        rintro rfl
        exact hOther ⟨rfl, rfl⟩
      exact
        ⟨rfl, Table.get?_erase_of_ne _ hKey,
          Table.get?_erase_of_ne _ hKey⟩
  | load context declared =>
      exact
        after_discard (motive := Leaves id name app)
          (Context.leaves_load declared hOther app)
  | lookup context key =>
      exact
        after_discard (motive := Leaves id name app)
          (Context.leaves_lookup importer hOther app)
  | createHandle keyspace cluster => exact .of_contexts rfl
  | closeCluster cluster => exact .of_contexts rfl
  | setConf conf => exact .of_contexts rfl
  | setFaults faults => exact .of_contexts rfl
  | _ => exact absurd trivial hQuiet

/-
  What a context holds under a name stays until the name is
  bound anew or unbound.
-/
theorem retains_perform
    (importer : Importer)
    {operation : Operation}
    (hKept : ¬ operation.Renews id name)
    {app : Application}
    (hMade : id < app.contexts.size) :
    Retains id name app (operation.perform importer app) := by
  by_cases hConcerns : operation.Concerns id name
  · cases operation with
    | bind context key value =>
        exact Context.retains_bind context key value app
    | rebind context key value => exact absurd hConcerns hKept
    | unbind context key => exact absurd hConcerns hKept
    | load context declared =>
        exact
          after_discard (motive := Retains id name app)
            (Context.retains_load context declared app)
    | lookup context key =>
        exact
          after_discard (motive := Retains id name app)
            (Context.retains_lookup importer context key app)
    | _ => exact absurd hConcerns (fun h => h)
  · exact .of_leaves (leaves_perform importer hConcerns hMade)

end Operation

end Keyspaces
