import Keyspaces.Application

/-
  This file defines what is done with the handle on a
  keyspace. Its session is connected when it is first needed,
  and again when it was shut down.

  Main definitions:
    * `Handle.create`
    * `Handle.connect`
    * `Handle.execute`
    * `Handle.prepare`
    * `Handle.shutdown`
-/

namespace Keyspaces

namespace Handle

/- The diagnostic record of a handle. -/
def record (handle : Handle) : String :=
  "<KeyspaceHandle " ++ Value.nameText handle.name ++ ">"

/- The session of a handle, if it is not shut down. -/
def openSession?
    (handle : Handle)
    (fleet : Fleet) : Option SessionId :=
  handle.session.filter fleet.isOpen

/- Make a handle on a keyspace of a cluster. -/
def create
    (name : Option String)
    (cluster : ClusterId) : Action HandleId := do
  let app ← get
  set { app with
    handles := app.handles.add ⟨name, cluster, none, .empty⟩ }
  pure app.handles.size

/-
  The session of a handle, which is connected if there is none
  or if it is shut down. A new session has no statements.
-/
def connect (id : HandleId) : Action SessionId := do
  let handle := (← get).handles.get id
  match handle.openSession? (← get).fleet with
  | some session => pure session
  | none => do
      Action.write (.connecting handle.name)
      let session ←
        Action.connectCluster handle.cluster handle.name
      modify (·.setHandle id
        { handle with
          session := some session
          statements := .empty })
      pure session

/- Execute a query on the session of a handle. -/
def execute
    (id : HandleId)
    (query : String)
    (arguments : List Value)
    (named : List (String × Value)) : Action Execution := do
  let session ← connect id
  Action.executeOn session query arguments named

/-
  The statement for a query on the session of a handle. It is
  prepared once on each session.
-/
def prepare
    (id : HandleId)
    (query : String) : Action (Option Statement) := do
  let session ← connect id
  let handle := (← get).handles.get id
  match handle.statements.get? query with
  | some statement => pure (some statement)
  | none => do
      match ← Action.prepareOn session query with
      | none => pure none
      | some statement => do
          modify (·.setHandle id
            { handle with
              statements :=
                handle.statements.insert query statement })
          pure (some statement)

/-
  Forget the session of a handle with its statements and shut
  it down. The cluster goes on.
-/
def shutdown (id : HandleId) : Action Unit := do
  let handle := (← get).handles.get id
  modify (·.setHandle id
    { handle with session := none, statements := .empty })
  match handle.session with
  | some session => Action.shutdownSession session
  | none => pure ()

end Handle

end Keyspaces
