import Keyspaces.Event
import Keyspaces.Importable
import Keyspaces.Reference

/-
  This file defines the state of an application that uses
  keyspaces: its configuration, its clusters and sessions, and
  the registries, handles, factories and contexts that manage
  them. An action changes the state even when it fails.

  Main definitions:
    * `Handle`
    * `Registry`
    * `Factory`
    * `Context`
    * `Application`
    * `Action`
-/

namespace Keyspaces

------------------------------------------------------------
-- What an Application Holds
------------------------------------------------------------

/- Factories are numbered as they are made. -/
abbrev FactoryId :=
  Nat

/- Contexts are numbered as they are made. -/
abbrev ContextId :=
  Nat

/-
  A keyspace of a cluster, the session with it if there was
  one, and the statements prepared on this session.
-/
structure Handle where
  name : Option String
  cluster : ClusterId
  session : Option SessionId
  statements : Table String Statement
deriving Inhabited, Repr

/-
  Clusters by their names, and the configuration they are
  created with unless it is that of the process.
-/
structure Registry where
  conf : Option Config
  clusters : Table String ClusterId
deriving Inhabited

/- What a factory of keyspaces resolved a reference to. -/
structure Resolution where
  configurator : Configurator
  cluster : ClusterId
  handle : HandleId

/-
  A factory of keyspaces resolves one reference and answers
  with the same handle from then on.
-/
structure KeyspaceFactory where
  registry : RegistryId
  conf : Option Config
  resolved : Option Resolution

/-
  A recorder counts the calls on it, some of which fail, and
  knows the names of the arguments it was made with.
-/
structure Recorder where
  number : Nat
  arguments : List String
  faults : List (Nat × Failure)
  calls : Nat

/- An object that references name as their factory. -/
inductive Factory
| keyspaces (factory : KeyspaceFactory)
| recorder (recorder : Recorder)
| inert (kindName : String)

instance : Inhabited Factory :=
  ⟨.inert "NoneType"⟩

/- A named argument for the factories of a context. -/
inductive Argument
| registry (id : RegistryId)
| conf (conf : Option Config)

/-
  Values bound to names, and the factories made for those that
  are references.
-/
structure Context where
  arguments : List Argument
  bindings : Table String Value
  factories : Table String FactoryId
deriving Inhabited

------------------------------------------------------------
-- Applications
------------------------------------------------------------

/- The state of an application and what it logged. -/
structure Application where
  conf : Config
  fleet : Fleet
  registries : Pool Registry
  handles : Pool Handle
  factories : Pool Factory
  contexts : Pool Context
  log : List Event

namespace Application

/- The registry that factories share unless given another. -/
def processRegistry : RegistryId := 0

/- An application in which nothing was made yet. -/
def start
    (conf : Config)
    (faults : Faults) : Application :=
  { conf := conf
    fleet := .empty faults
    registries := Pool.empty.add ⟨none, .empty⟩
    handles := .empty
    factories := .empty
    contexts := .empty
    log := [] }

/- Change what is registered in a registry. -/
def setRegistered
    (app : Application)
    (id : RegistryId)
    (clusters : Table String ClusterId) : Application :=
  { app with
    registries := app.registries.set id
      { app.registries.get id with clusters := clusters } }

/- Change a handle. -/
def setHandle
    (app : Application)
    (id : HandleId)
    (handle : Handle) : Application :=
  { app with handles := app.handles.set id handle }

/- Change a factory. -/
def setFactory
    (app : Application)
    (id : FactoryId)
    (factory : Factory) : Application :=
  { app with factories := app.factories.set id factory }

/- Change a context. -/
def setContext
    (app : Application)
    (id : ContextId)
    (context : Context) : Application :=
  { app with contexts := app.contexts.set id context }

/- Change the clusters and sessions. -/
def withFleet
    (app : Application)
    (change : Fleet → Fleet) : Application :=
  { app with fleet := change app.fleet }

end Application

------------------------------------------------------------
-- Actions
------------------------------------------------------------

/-
  An action changes an application and answers or fails. What
  it changed before it fails stays changed.
-/
abbrev Action (α : Type) :=
  ExceptT Failure (StateM Application) α

namespace Action

/- What an action answers, and the application after it. -/
def perform {α : Type}
    (action : Action α)
    (app : Application) : Except Failure α × Application :=
  action.run.run app

/- Answer or fail as given, without a change. -/
def ofExcept {α : Type} : Except Failure α → Action α
| .ok answer => pure answer
| .error failure => throw failure

/- Log an event. -/
def write (event : Event) : Action Unit :=
  modify fun app => { app with log := app.log ++ [event] }

/- Fail when a call is one of those that fail. -/
def attempt (call : Call) : Action Unit := do
  let app ← get
  if app.fleet.faults.failing.contains call then
    throw call.failure

/- Create a cluster with some options. -/
def createCluster
    (options : ClusterOptions) : Action ClusterId := do
  let app ← get
  modify (·.withFleet Fleet.countAttempt)
  attempt (.create app.fleet.attempts)
  modify (·.withFleet (·.addCluster options))
  pure app.fleet.clusters.size

/- Connect a session with a keyspace of a cluster. -/
def connectCluster
    (cluster : ClusterId)
    (keyspace : Option String) : Action SessionId := do
  attempt (.connect cluster)
  let app ← get
  modify (·.withFleet
    (·.addSession (.start cluster keyspace)))
  pure app.fleet.sessions.size

/- Shut a cluster down. -/
def shutdownCluster (cluster : ClusterId) : Action Unit := do
  attempt (.shutdownCluster cluster)
  modify (·.withFleet (·.closeCluster cluster))

/- Shut a session down. -/
def shutdownSession (session : SessionId) : Action Unit := do
  attempt (.shutdownSession session)
  modify (·.withFleet (·.closeSession session))

/- Execute a query on a session. -/
def executeOn
    (session : SessionId)
    (query : String)
    (arguments : List Value)
    (named : List (String × Value)) : Action Execution := do
  attempt (.execute query)
  modify (·.withFleet (·.recordExecuted session query))
  pure ⟨session, query, arguments, named⟩

/-
  Prepare a query on a session. There are queries for which no
  statement is prepared.
-/
def prepareOn
    (session : SessionId)
    (query : String) : Action (Option Statement) := do
  attempt (.prepare query)
  modify (·.withFleet (·.recordPrepared session query))
  let app ← get
  if app.fleet.faults.unprepared.contains query then
    pure none
  else
    let prepared := (app.fleet.sessions.get session).prepared
    pure (some ⟨session, prepared.length, query⟩)

end Action

end Keyspaces
