import Keyspaces.Importable

/-
  This file defines the modules that can be imported and their
  members: what each module defines, what it takes from other
  modules, and its constants.

  Main definitions:
    * `Importer.standard`
-/

namespace Keyspaces

namespace Importer

open Importable

/- The members of a module by their names. -/
abbrev Members :=
  List (String × Importable)

------------------------------------------------------------
-- Kinds of Members
------------------------------------------------------------

/- A class with what instances are made from. -/
def classMember
    (module name : String)
    (accepted : Accepted)
    (required : List String) : String × Importable :=
  (name, ⟨module, name,
    .object name ⟨name ++ ".__init__()", accepted, required⟩⟩)

/- A class of failures, which takes no named arguments. -/
def failureClass
    (module name : String) : String × Importable :=
  (name, ⟨module, name,
    .object name ⟨name ++ "()", .none, []⟩⟩)

/- A function with the kind of what it answers. -/
def functionMember
    (module name kindName : String)
    (accepted required : List String) : String × Importable :=
  (name, ⟨module, name,
    .object kindName
      ⟨name ++ "()", .only accepted, required⟩⟩)

/- A constant with its kind. -/
def constantMember
    (module name kindName : String) : String × Importable :=
  (name, ⟨module, name, .constant kindName⟩)

/- A member known by a name, defined elsewhere by another. -/
def outsideMember
    (known module name : String) : String × Importable :=
  (known, ⟨module, name,
    .object name ⟨name ++ "()", .all, []⟩⟩)

/- Modules that are members of another. -/
def moduleMembers
    (module : String)
    (names : List String) : Members :=
  names.map fun name => constantMember module name "module"

/- The members with the given names. -/
def picked
    (members : Members)
    (names : List String) : Members :=
  members.filter fun member => names.contains member.1

/- The lock class as modules know it. -/
def lockMember : String × Importable :=
  outsideMember "Lock" "_thread" "allocate_lock"

------------------------------------------------------------
-- Failures and Settings
------------------------------------------------------------

/- The classes of failures. -/
def failureMembers : Members :=
  ["ResourceError", "InvalidInputError", "ConfigurationError",
    "NameNotFoundError"].map
    (failureClass "cassres.exceptions")

/- A class of settings. -/
def settingClass (name : String) : String × Importable :=
  (name, ⟨"cassres.util.conf", name,
    .object name
      ⟨"Setting.__init__()",
        .only ["default", "fmt", "desc"], []⟩⟩)

/- Configurations and the classes of settings. -/
def settingMembers : Members :=
  classMember "cassres.util.conf" "Config" .all [] ::
  ["Setting", "String", "Bool", "Int", "Long", "CSV"].map
    settingClass ++
  [constantMember "cassres.util.conf" "CASSRES_ENV_KEY" "str",
   outsideMember "Iterable" "collections.abc" "Iterable",
   outsideMember "ConfigParser" "configparser" "ConfigParser",
   outsideMember "ConfigParserError" "configparser" "Error",
   outsideMember "lru_cache" "functools" "lru_cache"] ++
  moduleMembers "cassres.util.conf"
    ["importlib", "os", "re", "shlex", "sys"] ++
  picked failureMembers ["ConfigurationError"]

------------------------------------------------------------
-- References
------------------------------------------------------------

/- References, declarations and contexts. -/
def namingMembers : Members :=
  let module := "cassres.naming"
  [classMember module "RefAddr"
     (.only ["addr_type", "content"]) ["addr_type"],
   classMember module "Reference"
     (.only ["class_name", "factory", "addrs"])
     ["class_name"],
   functionMember module "parse_resources" "list"
     ["source"] ["source"],
   functionMember module "load_factory" "type"
     ["path"] ["path"],
   classMember module "Context" .all [],
   constantMember module "logger" "Logger",
   constantMember module "RESOURCE_ATTRIBUTES" "tuple",
   lockMember] ++
  moduleMembers module ["importlib", "logging", "ET"] ++
  picked failureMembers
    ["ConfigurationError", "NameNotFoundError"]

------------------------------------------------------------
-- Clusters and Keyspaces
------------------------------------------------------------

/- Hosts and how they are configured. -/
def hostMembers : Members :=
  let module := "cassres.cassandra.hosts"
  [classMember module "CassandraHost"
     (.only ["address", "port"]) ["address", "port"],
   functionMember module "parse_host" "CassandraHost"
     ["host", "default_port"] ["host", "default_port"],
   functionMember module "parse_hosts" "list"
     ["hosts", "default_port"] ["hosts", "default_port"],
   classMember module "HostConfigurator" .all ["hosts"]] ++
  picked failureMembers ["ConfigurationError"] ++
  picked settingMembers ["CSV"]

/- Handles of keyspaces. -/
def keyspaceMembers : Members :=
  let module := "cassres.cassandra.keyspace"
  [classMember module "KeyspaceHandle"
     (.only ["name", "cluster"]) ["name", "cluster"],
   constantMember module "logger" "Logger",
   lockMember] ++
  moduleMembers module ["logging"]

/- The policies of connections. -/
def policyMembers : Members :=
  let module := "cassres.cassandra.policies"
  [failureClass module "NoReconnectionPolicy",
   classMember module "ContactPointsOnlyPolicy"
     (.only ["contact_points"]) ["contact_points"],
   functionMember module "reconnection_policy"
     "ConstantReconnectionPolicy"
     ["configurator"] ["configurator"]] ++
  moduleMembers module ["socket"] ++
  ["ConstantReconnectionPolicy", "HostDistance",
    "ReconnectionPolicy", "RoundRobinPolicy"].map
    fun name => outsideMember name "cassandra.policies" name

/- Registries of clusters. -/
def clusterMembers : Members :=
  let module := "cassres.cassandra.cluster"
  [functionMember module "cluster_options" "dict"
     ["configurator", "conf"] ["configurator"],
   classMember module "ClusterRegistry"
     (.only ["cluster_factory", "conf"]) [],
   functionMember module "default_registry" "ClusterRegistry"
     [] [],
   constantMember module "logger" "Logger",
   lockMember,
   outsideMember "Cluster" "cassandra.cluster" "Cluster",
   outsideMember "ExecutionProfile" "cassandra.cluster"
     "ExecutionProfile",
   outsideMember "DefaultEndPoint" "cassandra.connection"
     "DefaultEndPoint",
   constantMember module "EXEC_PROFILE_DEFAULT" "object"] ++
  moduleMembers module ["logging", "socket", "cassres"] ++
  picked policyMembers
    ["ContactPointsOnlyPolicy", "reconnection_policy"]

/- The path of the factory of keyspaces. -/
def keyspaceFactoryPath : String :=
  "cassres.cassandra.factory.KeyspaceResourceFactory"

/- The factory of keyspaces and how it reads references. -/
def factoryMembers : Members :=
  let module := "cassres.cassandra.factory"
  let fields := ["cluster_name", "keyspace_name", "configurator"]
  [("KeyspaceResourceFactory",
     ⟨module, "KeyspaceResourceFactory", .keyspaces⟩),
   functionMember module "parse_reference" "ResourceConfig"
     ["reference", "conf"] ["reference"],
   ("ResourceConfig", ⟨module, "ResourceConfig",
     .object "ResourceConfig"
       ⟨"ResourceConfig.__new__()", .only fields, fields⟩⟩),
   constantMember module "logger" "Logger",
   lockMember,
   outsideMember "namedtuple" "collections" "namedtuple"] ++
  ["HOSTS", "CLUSTER_NAME", "KEYSPACE", "AUTO_DISCOVER_HOSTS",
    "USE_HOST_TIMEOUT_TRACKER", "RETRY_DOWNED_HOST_DELAY",
    "RETRY_DOWNED_HOSTS_QUEUE_SIZE"].map
    (constantMember module · "str") ++
  ["REQUIRED", "OPTIONS", "DISCOVERY_OPTIONS",
    "HOST_TIMEOUT_OPTIONS"].map
    (constantMember module · "tuple") ++
  moduleMembers module ["logging", "cassres"] ++
  picked clusterMembers ["default_registry"] ++
  picked hostMembers ["HostConfigurator"] ++
  picked keyspaceMembers ["KeyspaceHandle"] ++
  picked failureMembers
    ["ConfigurationError", "InvalidInputError"] ++
  picked namingMembers ["Reference"] ++
  picked settingMembers ["Bool", "Int", "Long"]

------------------------------------------------------------
-- Modules
------------------------------------------------------------

/- The settings of keyspace resources and their modules. -/
def settingModuleMembers : Members :=
  let module := "cassres.cassandra"
  [constantMember module "default_port" "Int",
   constantMember module "compression" "Bool",
   constantMember module "metrics_enabled" "Bool",
   constantMember module "protocol_version" "Int",
   constantMember module "connect_on_resolve" "Bool"] ++
  moduleMembers module
    ["cluster", "factory", "hosts", "keyspace", "policies"] ++
  picked settingMembers ["Bool", "Int"]

/- The configuration of the process. -/
def processMembers : Members :=
  let module := "cassres"
  [functionMember module "get_conf" "Config" [] [],
   constantMember module "__version__" "str",
   constantMember module "__version_info__" "tuple"] ++
  moduleMembers module
    ["cassandra", "exceptions", "logging", "naming", "os",
     "util"] ++
  picked settingMembers ["Config"]

/- The check of declarations. -/
def checkMembers : Members :=
  let module := "cassres.check"
  [functionMember module "check" "int"
     ["references", "conf", "out"] ["references", "conf"],
   functionMember module "main" "int"
     ["args", "out", "conf"] [],
   constantMember module "KEYSPACE_FACTORY" "str",
   constantMember module "argparser" "ArgumentParser"] ++
  moduleMembers module ["argparse", "cassres", "sys"] ++
  picked factoryMembers
    ["KeyspaceResourceFactory", "parse_reference"] ++
  picked failureMembers ["ResourceError"] ++
  picked namingMembers ["parse_resources"] ++
  picked settingMembers ["Config"]

/- The modules that can always be imported. -/
def standard : Importer :=
  ⟨[("cassres", processMembers),
    ("cassres.cassandra", settingModuleMembers),
    ("cassres.cassandra.cluster", clusterMembers),
    ("cassres.cassandra.factory", factoryMembers),
    ("cassres.cassandra.hosts", hostMembers),
    ("cassres.cassandra.keyspace", keyspaceMembers),
    ("cassres.cassandra.policies", policyMembers),
    ("cassres.check", checkMembers),
    ("cassres.exceptions", failureMembers),
    ("cassres.naming", namingMembers),
    ("cassres.util", moduleMembers "cassres.util" ["conf"]),
    ("cassres.util.conf", settingMembers)]⟩

end Importer

end Keyspaces
