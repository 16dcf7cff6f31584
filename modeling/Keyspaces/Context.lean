import Keyspaces.Declarations
import Keyspaces.Factory

/-
  This file defines contexts, in which values are bound to
  names. A reference is resolved through a factory that is
  made once for its binding.

  Main definitions:
    * `Context.bind`
    * `Context.rebind`
    * `Context.unbind`
    * `Context.load`
    * `Context.lookup`
-/

namespace Keyspaces

namespace Context

/- The names that are bound, sorted. -/
def names (context : Context) : List String :=
  context.bindings.keys.mergeSort fun a b => a ≤ b

/- The diagnostic record of a context. -/
def record (context : Context) : String :=
  "<Context " ++ Text.join ", " context.names ++ ">"

/- Make a context with arguments for its factories. -/
def create (arguments : List Argument) : Action ContextId := do
  let app ← get
  set { app with
    contexts :=
      app.contexts.add ⟨arguments, .empty, .empty⟩ }
  pure app.contexts.size

------------------------------------------------------------
-- Bindings
------------------------------------------------------------

/- Bind a name, which may not be bound yet. -/
def bind
    (id : ContextId)
    (name : String)
    (value : Value) : Action Unit := do
  let context := (← get).contexts.get id
  if context.bindings.contains name then
    throw (.alreadyBound name)
  else
    modify (·.setContext id
      { context with
        bindings := context.bindings.insert name value })

/- Bind a name anew. Its factory is forgotten. -/
def rebind
    (id : ContextId)
    (name : String)
    (value : Value) : Action Unit :=
  modify fun app =>
    let context := app.contexts.get id
    app.setContext id
      { context with
        bindings := context.bindings.insert name value
        factories := context.factories.erase name }

/- Forget the binding of a name and its factory. -/
def unbind
    (id : ContextId)
    (name : String) : Action Unit :=
  modify fun app =>
    let context := app.contexts.get id
    app.setContext id
      { context with
        bindings := context.bindings.erase name
        factories := context.factories.erase name }

/- Bind names in order up to the first that is bound. -/
def bindAll
    (id : ContextId) :
    List (String × Reference) → Action Unit
| [] => pure ()
| (name, reference) :: rest => do
    bind id name reference.toValue
    bindAll id rest

/- Bind what is declared, and answer with the names. -/
def load
    (id : ContextId)
    (declared : Except Failure Declarations) :
    Action (List String) := do
  let declarations ← Action.ofExcept declared
  bindAll id declarations.entries
  Action.write (.resourcesBound declarations.keys)
  pure declarations.keys

------------------------------------------------------------
-- Looking Up Names
------------------------------------------------------------

/- The factory of a reference bound to a name. -/
def factoryOf
    (importer : Importer)
    (id : ContextId)
    (name : String)
    (reference : Reference) : Action FactoryId := do
  let context := (← get).contexts.get id
  match context.factories.get? name with
  | some factory => pure factory
  | none => do
      match reference.factory.filter (!·.isEmpty) with
      | none => throw (.withoutFactory name)
      | some path => do
          let found ← Action.ofExcept (importer.find path)
          let factory ←
            Factory.create found.usage context.arguments
          modify (·.setContext id
            { context with
              factories :=
                context.factories.insert name factory })
          pure factory

/-
  What a name stands for: the value bound to it, or what its
  factory resolves it to when this is a reference.
-/
def lookup
    (importer : Importer)
    (id : ContextId)
    (name : String) : Action Resolved := do
  let context := (← get).contexts.get id
  match context.bindings.get? name with
  | none => throw (.notBound name)
  | some value =>
      match value.reference? with
      | none => pure (.value value)
      | some reference => do
          let factory ← factoryOf importer id name reference
          Factory.resolve factory value (some name) (some id)

end Context

end Keyspaces
