import Keyspaces.Cluster.Options
import Keyspaces.Pool

/-
  This file defines the clusters that an application holds and
  the sessions with them, as far as they can be told from
  outside, and which calls to them fail.

  Main definitions:
    * `Call`
    * `Faults`
    * `Cluster`
    * `Session`
    * `Fleet`
-/

namespace Keyspaces

/- Clusters are numbered in the order of their creation. -/
abbrev ClusterId :=
  Nat

/- Sessions are numbered over all clusters. -/
abbrev SessionId :=
  Nat

------------------------------------------------------------
-- Calls
------------------------------------------------------------

/-
  A call that can fail. The calls to create a cluster are
  counted from zero, failed ones included.
-/
inductive Call
| create (count : Nat)
| connect (cluster : ClusterId)
| shutdownCluster (cluster : ClusterId)
| shutdownSession (session : SessionId)
| execute (query : String)
| prepare (query : String)
deriving DecidableEq, Repr

namespace Call

/- What is called, and the number or the query it is for. -/
def subject : Call → String × String
| .create count => ("create", toString (count + 1))
| .connect cluster => ("connect", toString (cluster + 1))
| .shutdownCluster cluster =>
    ("cluster_shutdown", toString (cluster + 1))
| .shutdownSession session =>
    ("session_shutdown", toString (session + 1))
| .execute query => ("execute", query)
| .prepare query => ("prepare", query)

/- The failure of a call. -/
def failure (call : Call) : Failure :=
  let (what, which) := call.subject
  .reported .connection (what ++ " " ++ which ++ " failed")

end Call

/-
  The calls that fail, and the queries for which no statement
  is prepared.
-/
structure Faults where
  failing : List Call
  unprepared : List String
deriving Inhabited, Repr

namespace Faults

/- No call fails. -/
def none : Faults :=
  ⟨[], []⟩

end Faults

------------------------------------------------------------
-- Clusters and Sessions
------------------------------------------------------------

/- A cluster, which no longer runs once it is shut down. -/
structure Cluster where
  options : Option ClusterOptions
  isShutdown : Bool
deriving Repr

/- A cluster that does not exist counts as shut down. -/
instance : Inhabited Cluster :=
  ⟨⟨none, true⟩⟩

/-
  A session with a keyspace of a cluster, and the queries that
  were executed and prepared on it.
-/
structure Session where
  cluster : ClusterId
  keyspace : Option String
  isShutdown : Bool
  executed : List String
  prepared : List String
deriving Repr

/- A session that does not exist counts as shut down. -/
instance : Inhabited Session :=
  ⟨⟨0, none, true, [], []⟩⟩

namespace Session

/- A new session. -/
def start
    (cluster : ClusterId)
    (keyspace : Option String) : Session :=
  ⟨cluster, keyspace, false, [], []⟩

end Session

/- A statement prepared on a session, as its `count`-th. -/
structure Statement where
  session : SessionId
  count : Nat
  query : String
deriving DecidableEq, Repr

/- What was executed on a session. -/
structure Execution where
  session : SessionId
  query : String
  arguments : List Value
  named : List (String × Value)
deriving Repr

------------------------------------------------------------
-- Fleets
------------------------------------------------------------

/-
  All clusters and sessions, how often the creation of a
  cluster was tried, and what fails.
-/
structure Fleet where
  faults : Faults
  attempts : Nat
  clusters : Pool Cluster
  sessions : Pool Session
deriving Inhabited, Repr

namespace Fleet

/- The fleet without clusters. -/
def empty (faults : Faults) : Fleet :=
  ⟨faults, 0, .empty, .empty⟩

/- A cluster is not shut down. -/
def isLive
    (fleet : Fleet)
    (id : ClusterId) : Bool :=
  !(fleet.clusters.get id).isShutdown

/- A session is not shut down. -/
def isOpen
    (fleet : Fleet)
    (id : SessionId) : Bool :=
  !(fleet.sessions.get id).isShutdown

/- Count an attempt to create a cluster. -/
def countAttempt (fleet : Fleet) : Fleet :=
  { fleet with attempts := fleet.attempts + 1 }

/- Add a cluster that runs. -/
def addCluster
    (fleet : Fleet)
    (options : ClusterOptions) : Fleet :=
  { fleet with
    clusters := fleet.clusters.add ⟨some options, false⟩ }

/- Mark a cluster as shut down. -/
def closeCluster
    (fleet : Fleet)
    (id : ClusterId) : Fleet :=
  { fleet with
    clusters := fleet.clusters.set id
      { fleet.clusters.get id with isShutdown := true } }

/- Add a session. -/
def addSession
    (fleet : Fleet)
    (session : Session) : Fleet :=
  { fleet with sessions := fleet.sessions.add session }

/- Change a session. -/
def setSession
    (fleet : Fleet)
    (id : SessionId)
    (session : Session) : Fleet :=
  { fleet with sessions := fleet.sessions.set id session }

/- Mark a session as shut down. -/
def closeSession
    (fleet : Fleet)
    (id : SessionId) : Fleet :=
  fleet.setSession id
    { fleet.sessions.get id with isShutdown := true }

/- Record the execution of a query on a session. -/
def recordExecuted
    (fleet : Fleet)
    (id : SessionId)
    (query : String) : Fleet :=
  let session := fleet.sessions.get id
  fleet.setSession id
    { session with executed := session.executed ++ [query] }

/- Record the preparation of a query on a session. -/
def recordPrepared
    (fleet : Fleet)
    (id : SessionId)
    (query : String) : Fleet :=
  let session := fleet.sessions.get id
  fleet.setSession id
    { session with prepared := session.prepared ++ [query] }

end Fleet

end Keyspaces
