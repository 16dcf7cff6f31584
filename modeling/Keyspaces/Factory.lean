import Keyspaces.Handle
import Keyspaces.Registry
import Keyspaces.Resource

/-
  This file defines factories: how they are made from what a
  path finds, and how they resolve references.

  Main definitions:
    * `KeyspaceFactory.resolve`
    * `Recorder.resolve`
    * `Factory.create`
    * `Factory.resolve`
-/

namespace Keyspaces

------------------------------------------------------------
-- Factories of Keyspaces
------------------------------------------------------------

namespace KeyspaceFactory

/- Make a factory of keyspaces. -/
def create
    (registry : Option RegistryId)
    (conf : Option Config) : KeyspaceFactory :=
  { registry := registry.getD Application.processRegistry
    conf := conf
    resolved := none }

/-
  Shut a cluster down that could not be connected with, if it
  was created for this and is still registered.
-/
def rollBack
    (registry : RegistryId)
    (name : String)
    (cluster : ClusterId)
    (existing : Option ClusterId) : Action Unit := do
  let registered ← Registry.get? registry name
  if existing != some cluster && registered == some cluster then
    Registry.shutdown registry (some name)

/- Connect a handle, and roll back when this fails. -/
def connect
    (handle : HandleId)
    (undo : Action Unit) : Action Unit :=
  tryCatch (discard (Handle.connect handle)) fun failure => do
    undo
    throw failure

/-
  Make the handle that a reference describes. The factory only
  changes when everything succeeds.
-/
def configure
    (id : FactoryId)
    (factory : KeyspaceFactory)
    (reference : Reference)
    (name : Option String) : Action HandleId := do
  let conf := factory.conf.getD (← get).conf
  let resource ← Action.ofExcept
    (Resource.ofReference conf reference)
  let existing ←
    Registry.get? factory.registry resource.clusterName
  let cluster ← Registry.getOrCreate factory.registry
    resource.clusterName resource.configurator
  let handle ←
    Handle.create (some resource.keyspaceName) cluster
  let connects ← Action.ofExcept
    (conf.read Setting.connectOnResolve)
  if connects.isTruthy then
    connect handle
      (rollBack factory.registry resource.clusterName cluster
        existing)
  let label := (name.filter (!·.isEmpty)).getD
    resource.keyspaceName
  Action.write
    (.keyspaceCreated factory.registry resource.clusterName
      handle label resource.configurator.record)
  modify (·.setFactory id (.keyspaces
    { factory with
      resolved :=
        some ⟨resource.configurator, cluster, handle⟩ }))
  pure handle

/-
  The handle for a value, which has to be a reference. It is
  made once.
-/
def resolve
    (id : FactoryId)
    (factory : KeyspaceFactory)
    (value : Value)
    (name : Option String) : Action HandleId := do
  let reference ← Action.ofExcept
    (Resource.expectReference value)
  match factory.resolved with
  | some resolution => pure resolution.handle
  | none => configure id factory reference name

end KeyspaceFactory

------------------------------------------------------------
-- Recorders
------------------------------------------------------------

/- What a recorder answers to a call. -/
structure Recording where
  recorder : Nat
  call : Nat
  name : Option String
  arguments : List String
  context : Option ContextId
  value : Value

namespace Recorder

/- Count a call, and fail or answer with an account of it. -/
def resolve
    (id : FactoryId)
    (recorder : Recorder)
    (value : Value)
    (name : Option String)
    (context : Option ContextId) : Action Recording := do
  let call := recorder.calls + 1
  modify (·.setFactory id
    (.recorder { recorder with calls := call }))
  match recorder.faults.lookup call with
  | some failure => throw failure
  | none =>
      pure
        { recorder := recorder.number
          call := call
          name := name
          arguments := recorder.arguments
          context := context
          value := value }

end Recorder

------------------------------------------------------------
-- All Factories
------------------------------------------------------------

namespace Argument

/- The name of an argument. -/
def name : Argument → String
| .registry _ => "registry"
| .conf _ => "conf"

/- The registry among arguments. -/
def registry? (arguments : List Argument) : Option RegistryId :=
  arguments.findSome? fun
    | .registry id => some id
    | .conf _ => none

/- The configuration among arguments. -/
def conf? (arguments : List Argument) : Option Config :=
  arguments.findSome? fun
    | .registry _ => none
    | .conf given => given

end Argument

/- What a reference or another value is resolved to. -/
inductive Resolved
| value (value : Value)
| handle (id : HandleId)
| recording (recording : Recording)

namespace Factory

/- A factory is a recorder. -/
def isRecorder : Factory → Bool
| .recorder _ => true
| _ => false

/- Add a factory. -/
def add (factory : Factory) : Action FactoryId := do
  let app ← get
  set { app with factories := app.factories.add factory }
  pure app.factories.size

/- The factory that is made with arguments, if one can be. -/
def ofUsage
    (recorders : Nat)
    (arguments : List Argument) :
    Importable.Usage → Except Failure Factory
| .keyspaces =>
    .ok (.keyspaces (KeyspaceFactory.create
      (Argument.registry? arguments)
      (Argument.conf? arguments)))
| .recorder faults =>
    .ok (.recorder
      { number := recorders + 1
        arguments :=
          (arguments.map Argument.name).mergeSort
            fun a b => a ≤ b
        faults := faults
        calls := 0 })
| .broken failure => .error failure
| .object kindName signature =>
    match signature.failure? (arguments.map Argument.name) with
    | some failure => .error failure
    | none => .ok (.inert kindName)
| .constant kindName => .error (.notCallable kindName)

/- Make a factory of a kind with arguments. -/
def create
    (usage : Importable.Usage)
    (arguments : List Argument) : Action FactoryId := do
  let app ← get
  let recorders :=
    (app.factories.toList.filter isRecorder).length
  let factory ← Action.ofExcept
    (ofUsage recorders arguments usage)
  add factory

/- Resolve a value through a factory. -/
def resolve
    (id : FactoryId)
    (value : Value)
    (name : Option String)
    (context : Option ContextId) : Action Resolved := do
  match (← get).factories.get id with
  | .keyspaces found =>
      let handle ← found.resolve id value name
      pure (.handle handle)
  | .recorder found =>
      let recording ← found.resolve id value name context
      pure (.recording recording)
  | .inert kindName =>
      throw (.noMember kindName "resolve")

end Factory

end Keyspaces
