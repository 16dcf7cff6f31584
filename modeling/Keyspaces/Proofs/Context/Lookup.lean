import Keyspaces.Proofs.Context
import Keyspaces.Proofs.Operation

/-
  What the first lookup of a name comes to, and that it does
  not depend on lookups of other names before it.

  Main declarations:
    * `Context.Awaits`
    * `Context.awaits_lookupAll`
    * `Context.perform_lookup_of_awaits`
-/

------------------------------------------------------------
-- Looking Other Names Up
------------------------------------------------------------

namespace Keyspaces

namespace Context

open Keyspaces.Action Application

/-
  A name is bound to a reference in a context and was not
  looked up yet. Factories in the context are made with a
  registry and a configuration, which is also that of the
  registry, and no creation of a cluster fails.
-/
structure Awaits
    (id : ContextId)
    (name : String)
    (reference : Reference)
    (registry : RegistryId)
    (conf : Config)
    (app : Application) : Prop where
  arguments :
    (app.contexts.get id).arguments =
      [.registry registry, .conf (some conf)]
  isBound :
    (app.contexts.get id).bindings.get? name =
      some reference.toValue
  unresolved :
    (app.contexts.get id).factories.get? name = none
  settings : (app.registries.get registry).conf = some conf
  creates :
    ∀ count,
      Call.create count ∉ app.fleet.faults.failing

variable {id : ContextId}
variable {name other : String}
variable {reference : Reference}
variable {registry : RegistryId}
variable {conf : Config}

/- A name still awaits its lookup if little changed. -/
theorem Awaits.of_undisturbed
    {before after : Application}
    (h : Awaits id name reference registry conf before)
    (hUndisturbed : Undisturbed before after) :
    Awaits id name reference registry conf after where
  arguments := by
    rw [hUndisturbed.contexts]
    exact h.arguments
  isBound := by
    rw [hUndisturbed.contexts]
    exact h.isBound
  unresolved := by
    rw [hUndisturbed.contexts]
    exact h.unresolved
  settings := by
    rw [hUndisturbed.conf]
    exact h.settings
  creates := by
    rw [hUndisturbed.faults]
    exact h.creates

/- A name still awaits its lookup if another has a factory. -/
theorem Awaits.remembering
    {app : Application}
    (h : Awaits id name reference registry conf app)
    (hOther : name ≠ other)
    (factory : FactoryId) :
    Awaits id name reference registry conf
      (app.remembering id other factory) := by
  have hContext :
      (app.remembering id other factory).contexts.get id =
        { app.contexts.get id with
          factories :=
            (app.contexts.get id).factories.insert other
              factory } :=
    Pool.get_set_self _ _ _
  constructor
  case arguments =>
    rw [hContext]
    exact h.arguments
  case isBound =>
    rw [hContext]
    exact h.isBound
  case unresolved =>
    rw [hContext]
    dsimp only
    rw [Table.get?_insert_of_ne _ _ hOther]
    exact h.unresolved
  case settings => exact h.settings
  case creates => exact h.creates

/- Looking another name up does not resolve a name. -/
theorem awaits_lookup_of_ne
    (importer : Importer)
    (hOther : name ≠ other) :
    Keeps (Awaits id name reference registry conf)
      (lookup importer id other) := by
  apply keeps_lookup
  · intro reference
    apply keeps_factoryOf
    · intro usage app h
      exact
        h.of_undisturbed
          (Factory.undisturbed_create usage
            (app.contexts.get id).arguments app)
    · intro factory app _ _ h
      exact h.remembering hOther factory
  · intro factory value app h
    exact
      h.of_undisturbed
        (Factory.undisturbed_resolve factory value _ _ app)

/-
  The application after names were looked up in a context, one
  after the other, whether this succeeded or failed.
-/
def lookupAll
    (importer : Importer)
    (id : ContextId)
    (names : List String)
    (app : Application) : Application :=
  names.foldl
    (fun before other =>
      ((lookup importer id other).perform before).2)
    app

/- Looking other names up does not resolve a name. -/
theorem awaits_lookupAll
    (importer : Importer)
    {names : List String}
    (hOthers : name ∉ names)
    {app : Application}
    (h : Awaits id name reference registry conf app) :
    Awaits id name reference registry conf
      (lookupAll importer id names app) := by
  induction names generalizing app with
  | nil => exact h
  | cons other names ih =>
      rcases List.ne_and_not_mem_of_not_mem_cons hOthers with
        ⟨hOther, hRest⟩
      exact
        ih hRest (awaits_lookup_of_ne importer hOther app h)

------------------------------------------------------------
-- Looking a Name Up for the First Time
------------------------------------------------------------

/-
  The application in which a factory of keyspaces was made for
  a name with the arguments of its context.
-/
def prepared
    (app : Application)
    (id : ContextId)
    (name : String)
    (factory : KeyspaceFactory) : Application :=
  let added : Application :=
    { app with
      factories := app.factories.add (.keyspaces factory) }
  added.setContext id
    { app.contexts.get id with
      factories :=
        (app.contexts.get id).factories.insert name
          app.factories.size }

/-
  The first lookup of a name that is bound to a reference to a
  keyspace resolves the reference through a new factory.
-/
theorem perform_lookup_of_awaits
    {importer : Importer}
    {path : String}
    {member : Importable}
    {app : Application}
    (h : Awaits id name reference registry conf app)
    (hPath : reference.factory = some path)
    (hNotEmpty : path.isEmpty = false)
    (hFind : importer.find path = .ok member)
    (hUsage : member.usage = .keyspaces) :
    let factory :=
      KeyspaceFactory.create (some registry) (some conf)
    (lookup importer id name).perform app =
      match
        (KeyspaceFactory.configure app.factories.size factory
          reference (some name)).perform
            (prepared app id name factory) with
      | (.ok handle, after) => (.ok (.handle handle), after)
      | (.error failure, after) =>
          (.error failure, after) := by
  intro factory
  have hFactoryOf :
      (factoryOf importer id name reference).perform app =
        (.ok app.factories.size,
          prepared app id name factory) := by
    have hFilter :
        reference.factory.filter (!·.isEmpty) =
          some path := by
      rw [hPath]
      simp [Option.filter, hNotEmpty]
    have hCreate :
        (Factory.create member.usage
            (app.contexts.get id).arguments).perform app =
          (.ok app.factories.size,
            { app with
              factories :=
                app.factories.add (.keyspaces factory) }) := by
      rw [hUsage, h.arguments]
      rfl
    rw [factoryOf, perform_bind_of_ok (perform_get app)]
    dsimp only
    rw [h.unresolved, hFilter]
    dsimp only
    rw [hFind, perform_bind_of_ok (perform_ofExcept _ app),
      perform_bind_of_ok hCreate]
    rfl
  have hFactory :
      (prepared app id name factory).factories.get
          app.factories.size =
        .keyspaces factory :=
    Pool.get_add_self app.factories _
  rw [lookup, perform_bind_of_ok (perform_get app)]
  dsimp only
  rw [h.isBound]
  dsimp only
  rw [Value.reference?_toValue]
  dsimp only
  rw [perform_bind_of_ok hFactoryOf,
    Factory.perform_resolve_keyspaces hFactory]
  rfl

end Context

end Keyspaces
