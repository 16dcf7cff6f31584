import Keyspaces.Proofs.Context.Furnishing

/-
  Operations on an application, by clients and by its owner,
  and the applications that are reached by them in any order.
  No operation forgets the history.

  Main declarations:
    * `Operation`
    * `Operation.Admissible`
    * `Operation.perform`
    * `Application.Reachable`
    * `Context.keeps_lookup`
    * `Operation.steady_perform`
    * `Operation.recalls_perform`
-/

------------------------------------------------------------
-- Operations
------------------------------------------------------------

namespace Keyspaces

/-
  What is done with registries, factories, contexts, handles,
  clusters and sessions. The configuration of the process and
  the calls that fail may change as well.
-/
inductive Operation
| createRegistry (conf : Option Config)
| getOrCreate
    (registry : RegistryId)
    (name : String)
    (configurator : Configurator)
| getCluster (registry : RegistryId) (name : String)
| listNames (registry : RegistryId)
| shutdownClusters
    (registry : RegistryId)
    (name : Option String)
| createFactory
    (registry : Option RegistryId)
    (conf : Option Config)
| resolve
    (factory : FactoryId)
    (value : Value)
    (name : Option String)
    (context : Option ContextId)
| createContext (arguments : List Argument)
| bind (context : ContextId) (name : String) (value : Value)
| rebind (context : ContextId) (name : String) (value : Value)
| unbind (context : ContextId) (name : String)
| load
    (context : ContextId)
    (declared : Except Failure Declarations)
| lookup (context : ContextId) (name : String)
| createHandle (name : Option String) (cluster : ClusterId)
| connect (handle : HandleId)
| execute
    (handle : HandleId)
    (query : String)
    (arguments : List Value)
    (named : List (String × Value))
| prepare (handle : HandleId) (query : String)
| shutdownHandle (handle : HandleId)
| closeCluster (cluster : ClusterId)
| closeSession (session : SessionId)
| setConf (conf : Config)
| setFaults (faults : Faults)

namespace Operation

/- The action of an operation, whose answer is dropped. -/
def action (importer : Importer) : Operation → Action Unit
| .createRegistry conf => discard (Registry.create conf)
| .getOrCreate registry name configurator =>
    discard (Registry.getOrCreate registry name configurator)
| .getCluster registry name =>
    discard (Registry.get? registry name)
| .listNames registry =>
    discard do
      let app ← get
      pure (app.registries.get registry).names
| .shutdownClusters registry name =>
    Registry.shutdown registry name
| .createFactory registry conf =>
    discard
      (Factory.add
        (.keyspaces (KeyspaceFactory.create registry conf)))
| .resolve factory value name context =>
    discard (Factory.resolve factory value name context)
| .createContext arguments =>
    discard (Context.create arguments)
| .bind context name value => Context.bind context name value
| .rebind context name value =>
    Context.rebind context name value
| .unbind context name => Context.unbind context name
| .load context declared =>
    discard (Context.load context declared)
| .lookup context name =>
    discard (Context.lookup importer context name)
| .createHandle name cluster =>
    discard (Handle.create name cluster)
| .connect handle => discard (Handle.connect handle)
| .execute handle query arguments named =>
    discard (Handle.execute handle query arguments named)
| .prepare handle query =>
    discard (Handle.prepare handle query)
| .shutdownHandle handle => Handle.shutdown handle
| .closeCluster cluster =>
    modify (·.withFleet (·.closeCluster cluster))
| .closeSession session =>
    modify (·.withFleet (·.closeSession session))
| .setConf conf => modify ({ · with conf := conf })
| .setFaults faults =>
    modify (·.withFleet ({ · with faults := faults }))

/-
  An operation is about registries that were made, and the
  shutdown of a cluster does not start to fail.
-/
def Admissible (app : Application) : Operation → Prop
| .getOrCreate registry _ _ =>
    registry < app.registries.size
| .createFactory registry _ =>
    ∀ id, registry = some id → id < app.registries.size
| .createContext arguments =>
    ∀ id, Argument.registry id ∈ arguments →
      id < app.registries.size
| .setFaults faults => faults.ShutdownReturns
| _ => True

/- The application after an operation, failed or not. -/
def perform
    (importer : Importer)
    (operation : Operation)
    (app : Application) : Application :=
  ((operation.action importer).perform app).2

end Operation

end Keyspaces

------------------------------------------------------------
-- Reachable Applications
------------------------------------------------------------

namespace Keyspaces

namespace Application

/-
  The applications that operations in any order lead to from
  one in which nothing was made yet.
-/
inductive Reachable
    (importer : Importer) : Application → Prop
| start
    (conf : Config)
    (faults : Faults)
    (hReturns : faults.ShutdownReturns) :
    Reachable importer (.start conf faults)
| step
    {app : Application}
    (operation : Operation)
    (hApp : Reachable importer app)
    (hAdmissible : operation.Admissible app) :
    Reachable importer (operation.perform importer app)

end Application

end Keyspaces

------------------------------------------------------------
-- What Actions Keep
------------------------------------------------------------

namespace Keyspaces

namespace Action

variable {α β : Type}

/-
  The action keeps a property of applications, whether it
  answers or fails.
-/
def Keeps
    (P : Application → Prop)
    (action : Action α) : Prop :=
  ∀ app, P app → P (perform action app).2

namespace Keeps

variable {P : Application → Prop}

theorem pure (answer : α) :
    Keeps P (pure answer : Action α) := by
  intro app hApp
  exact hApp

theorem ofExcept (outcome : Except Failure α) :
    Keeps P (ofExcept outcome) := by
  intro app hApp
  rw [perform_ofExcept]
  exact hApp

/- Actions in a row keep what each of them keeps. -/
theorem bind
    {action : Action α}
    {next : α → Action β}
    (hAction : Keeps P action)
    (hNext : ∀ answer, Keeps P (next answer)) :
    Keeps P (action >>= next) := by
  intro app hApp
  have hFirst := hAction app hApp
  rw [perform_bind]
  cases hPerform : perform action app with
  | mk outcome after =>
      rw [hPerform] at hFirst
      cases outcome with
      | error failure => exact hFirst
      | ok answer => exact hNext answer after hFirst

/- What follows may depend on the application it starts in. -/
theorem get_bind
    {next : Application → Action β}
    (hNext :
      ∀ app, P app → P (perform (next app) app).2) :
    Keeps P (get >>= next) := by
  intro app hApp
  rw [perform_bind_of_ok (perform_get app)]
  exact hNext app hApp

end Keeps

end Action

end Keyspaces

------------------------------------------------------------
-- What Contexts Keep
------------------------------------------------------------

namespace Keyspaces

namespace Context

open Keyspaces.Action Application

variable {P : Application → Prop}
variable {id : ContextId}

/- Binding names in order keeps what binding a name keeps. -/
theorem keeps_bindAll
    (hBind : ∀ name value, Keeps P (bind id name value))
    (entries : List (String × Reference)) :
    Keeps P (bindAll id entries) := by
  induction entries with
  | nil => exact .pure ()
  | cons entry entries ih =>
      refine .bind (hBind entry.1 _) ?_
      intro _
      exact ih

/- Loading declarations binds names and logs them. -/
theorem keeps_load
    (hBind : ∀ name value, Keeps P (bind id name value))
    (hLogged :
      ∀ names app,
        P app → P (app.logged (.resourcesBound names)))
    (declared : Except Failure Declarations) :
    Keeps P (load id declared) := by
  refine .bind (.ofExcept declared) ?_
  intro declarations
  refine .bind (keeps_bindAll hBind declarations.entries) ?_
  intro _
  refine .bind ?_ fun _ => .pure _
  exact hLogged declarations.keys

variable {name : String}

/-
  Finding the factory of a reference makes one with the
  arguments of the context and remembers it, unless one is
  remembered already.
-/
theorem keeps_factoryOf
    (hCreate :
      ∀ usage app, P app →
        P ((Factory.create usage
          (app.contexts.get id).arguments).perform app).2)
    (hRemember :
      ∀ factory app, factory < app.factories.size →
        (app.contexts.get id).factories.get? name = none →
          P app → P (app.remembering id name factory))
    (importer : Importer)
    (reference : Reference) :
    Keeps P (factoryOf importer id name reference) := by
  intro app hApp
  rcases furnished_factoryOf importer id name reference app
    with ⟨occurrences, hFurnished⟩
  generalize
    (factoryOf importer id name reference).perform app =
      outcome at *
  cases hFurnished with
  | remembered _ => exact hApp
  | pathless _ _ => exact hApp
  | missing _ _ _ => exact hApp
  | broken _ _ _ _ => exact hApp
  | @made _ found _ hNew _ _ _ hMade =>
      have hCreated := hCreate found.usage app hApp
      rw [hMade] at hCreated
      exact
        hRemember _ _ (Nat.lt_succ_self _) hNew hCreated

/- A lookup finds a factory and resolves with it. -/
theorem keeps_lookup
    {importer : Importer}
    (hFactoryOf :
      ∀ reference,
        Keeps P (factoryOf importer id name reference))
    (hResolve :
      ∀ factory value,
        Keeps P
          (Factory.resolve factory value (some name)
            (some id))) :
    Keeps P (lookup importer id name) := by
  refine .get_bind ?_
  intro app hApp
  dsimp only
  cases (app.contexts.get id).bindings.get? name with
  | none => exact hApp
  | some value =>
      dsimp only
      cases value.reference? with
      | none => exact hApp
      | some reference =>
          have hLookup :
              Keeps P
                (factoryOf importer id name reference >>=
                  fun factory =>
                    Factory.resolve factory value (some name)
                      (some id)) := by
            refine .bind (hFactoryOf reference) ?_
            intro factory
            exact hResolve factory value
          exact hLookup app hApp

end Context

end Keyspaces

------------------------------------------------------------
-- Recollection
------------------------------------------------------------

namespace Keyspaces

namespace Context

open Keyspaces.Action Application

/- Binding a name forgets nothing. -/
theorem recalls_bind
    (id : ContextId)
    (name : String)
    (value : Value)
    (first : Application) :
    Keeps (Recalls first) (bind id name value) := by
  refine .get_bind ?_
  intro app hRecalls
  dsimp only
  split
  · exact hRecalls
  · exact hRecalls.trans (.of_log_eq rfl)

/- Loading declarations forgets nothing. -/
theorem recalls_load
    (id : ContextId)
    (declared : Except Failure Declarations)
    (first : Application) :
    Keeps (Recalls first) (load id declared) := by
  apply keeps_load
  · intro name value
    exact recalls_bind id name value first
  · intro names app hRecalls
    exact hRecalls.trans (.logged app _)

/- Looking a name up forgets nothing. -/
theorem recalls_lookup
    (importer : Importer)
    (id : ContextId)
    (name : String)
    (first : Application) :
    Keeps (Recalls first) (lookup importer id name) := by
  apply keeps_lookup
  · intro reference
    apply keeps_factoryOf
    · intro usage app hRecalls
      have hCreate :=
        Factory.undisturbed_create usage
          (app.contexts.get id).arguments app
      exact hRecalls.trans hCreate.recalls
    · intro factory app _ _ hRecalls
      exact hRecalls.trans (.of_log_eq rfl)
  · intro factory value app hRecalls
    have hResolve :=
      Factory.undisturbed_resolve factory value (some name)
        (some id) app
    exact hRecalls.trans hResolve.recalls

end Context

namespace Operation

open Keyspaces.Action Application

/-
  Operations on handles and sessions, and those that only ask.
  At most handles and sessions change.
-/
def IsQuiet : Operation → Prop
| .getCluster _ _ => True
| .listNames _ => True
| .connect _ => True
| .execute _ _ _ _ => True
| .prepare _ _ => True
| .shutdownHandle _ => True
| .closeSession _ => True
| _ => False

/- A quiet operation leaves all but handles and sessions. -/
theorem steady_perform
    (importer : Importer)
    {operation : Operation}
    (hQuiet : operation.IsQuiet)
    (app : Application) :
    Steady app (operation.perform importer app) := by
  cases operation with
  | getCluster registry name => exact .refl app
  | listNames registry => exact .refl app
  | connect handle =>
      exact
        after_discard (motive := Steady app)
          (Handle.steady_connect handle app)
  | execute handle query arguments named =>
      exact
        after_discard (motive := Steady app)
          (Handle.steady_execute handle query arguments named
            app)
  | prepare handle query =>
      exact
        after_discard (motive := Steady app)
          (Handle.steady_prepare handle query app)
  | shutdownHandle handle =>
      exact Handle.steady_shutdown handle app
  | closeSession session => exact .withSessions app _
  | _ => exact absurd hQuiet id

/-
  What was created and what was resolved is known after every
  operation as well.
-/
theorem recalls_perform
    (importer : Importer)
    (operation : Operation)
    (app : Application) :
    Recalls app (operation.perform importer app) := by
  by_cases hQuiet : operation.IsQuiet
  · exact
      (steady_perform importer hQuiet app).undisturbed.recalls
  cases operation with
  | createRegistry conf => exact .of_log_eq rfl
  | getOrCreate registry name configurator =>
      have hObtained :=
        Registry.undisturbed_getOrCreate registry name
          configurator app
      exact
        after_discard (motive := Recalls app)
          hObtained.recalls
  | shutdownClusters registry name =>
      exact
        (Registry.undisturbed_shutdown registry name
          app).recalls
  | createFactory registry conf => exact .of_log_eq rfl
  | resolve factory value name context =>
      have hResolved :=
        Factory.undisturbed_resolve factory value name
          context app
      exact
        after_discard (motive := Recalls app)
          hResolved.recalls
  | createContext arguments => exact .of_log_eq rfl
  | bind context name value =>
      exact
        Context.recalls_bind context name value app app
          (.refl app)
  | rebind context name value => exact .of_log_eq rfl
  | unbind context name => exact .of_log_eq rfl
  | load context declared =>
      exact
        after_discard (motive := Recalls app)
          (Context.recalls_load context declared app app
            (.refl app))
  | lookup context name =>
      exact
        after_discard (motive := Recalls app)
          (Context.recalls_lookup importer context name app
            app (.refl app))
  | createHandle name cluster => exact .of_log_eq rfl
  | closeCluster cluster => exact .of_log_eq rfl
  | setConf conf => exact .of_log_eq rfl
  | setFaults faults => exact .of_log_eq rfl
  | _ => exact absurd trivial hQuiet

end Operation

end Keyspaces
