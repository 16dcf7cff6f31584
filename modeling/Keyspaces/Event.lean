import Keyspaces.Fleet
import Keyspaces.Text.Split

/-
  This file defines the events that are logged: which part
  logs them, how severe they are and how they are told. An
  event also tells which registry, cluster or handle it is
  about, so that a log is the history of an application.

  Main definitions:
    * `HandleId`
    * `RegistryId`
    * `Event`
    * `Event.level`
    * `Event.channel`
    * `Event.message`
-/

namespace Keyspaces

/- Handles are numbered as they are made. -/
abbrev HandleId :=
  Nat

/- Registries are numbered, that of the process being first. -/
abbrev RegistryId :=
  Nat

/- How severe an event is. -/
inductive Level
| debug
| info
deriving DecidableEq, Repr

namespace Level

/- The word for a level. -/
def word : Level → String
| .debug => "DEBUG"
| .info => "INFO"

end Level

/-
  Something that happened to clusters and keyspaces. Of a
  cluster that is created, the registry that creates it and
  the name it is created under are known, and of a keyspace
  the registry and the name that its cluster is from.
-/
inductive Event
| resourcesBound (names : List String)
| clusterReused (name : String)
| clusterCreated
    (registry : RegistryId)
    (cluster : ClusterId)
    (name : String)
    (hosts : List Host)
| clusterShutdown (name : String)
| connecting (keyspace : Option String)
| keyspaceCreated
    (registry : RegistryId)
    (clusterName : String)
    (handle : HandleId)
    (label record : String)
deriving Repr

namespace Event

/- The level of an event. -/
def level : Event → Level
| .resourcesBound _ => .debug
| .clusterReused _ => .debug
| .clusterCreated .. => .info
| .clusterShutdown _ => .info
| .connecting _ => .debug
| .keyspaceCreated .. => .info

/- The channel that an event is logged on. -/
def channel : Event → String
| .resourcesBound _ => "cassres.naming"
| .clusterReused _ => "cassres.cassandra.cluster"
| .clusterCreated .. => "cassres.cassandra.cluster"
| .clusterShutdown _ => "cassres.cassandra.cluster"
| .connecting _ => "cassres.cassandra.keyspace"
| .keyspaceCreated .. => "cassres.cassandra.factory"

/- The account of an event. -/
def message : Event → String
| .resourcesBound names =>
    "Bound resources " ++ Text.join ", " names
| .clusterReused name =>
    "Using existing cluster " ++ name
| .clusterCreated _ _ name hosts =>
    "Created cluster " ++ name ++ " with hosts " ++
      Host.recordAll hosts
| .clusterShutdown name =>
    "Shutting down cluster " ++ name
| .connecting keyspace =>
    "Connecting with keyspace " ++ Value.nameText keyspace
| .keyspaceCreated _ _ _ label record =>
    "Keyspace resource " ++ label ++ " created with " ++ record

end Event

end Keyspaces
