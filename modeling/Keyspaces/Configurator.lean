import Keyspaces.Host

/-
  This file defines the configuration of the connections with
  a cluster: its hosts, and options that keep their defaults
  unless they are set.

  Main definitions:
    * `HostOption`
    * `HostOption.name`
    * `HostOption.default`
    * `Configurator`
    * `Configurator.set`
    * `Configurator.create`
    * `Configurator.record`
    * `Configurator.written`
-/

namespace Keyspaces

------------------------------------------------------------
-- Options
------------------------------------------------------------

/-
  The options of the connection pool, the transport, the
  discovery of hosts, the treatment of hosts that are down and
  the tracking of timeouts.
-/
inductive HostOption
| maxActive
| maxWaitTimeWhenExhausted
| lifo
| useThriftFramedTransport
| maxFrameSize
| useSocketKeepalive
| maxConnectTimeMillis
| maxLastSuccessTimeMillis
| cassandraThriftSocketTimeout
| autoDiscoverHosts
| runAutoDiscoveryAtStartup
| autoDiscoveryDelayInSeconds
| retryDownedHosts
| retryDownedHostsDelayInSeconds
| retryDownedHostsQueueSize
| useHostTimeoutTracker
| hostTimeoutCounter
| hostTimeoutSuspensionDurationInSeconds
| hostTimeoutUnsuspendCheckDelay
| hostTimeoutWindow
deriving DecidableEq, Repr

namespace HostOption

/- The options in the order in which they are recorded. -/
def all : List HostOption :=
  [.maxActive,
   .maxWaitTimeWhenExhausted,
   .lifo,
   .useThriftFramedTransport,
   .maxFrameSize,
   .useSocketKeepalive,
   .maxConnectTimeMillis,
   .maxLastSuccessTimeMillis,
   .cassandraThriftSocketTimeout,
   .autoDiscoverHosts,
   .runAutoDiscoveryAtStartup,
   .autoDiscoveryDelayInSeconds,
   .retryDownedHosts,
   .retryDownedHostsDelayInSeconds,
   .retryDownedHostsQueueSize,
   .useHostTimeoutTracker,
   .hostTimeoutCounter,
   .hostTimeoutSuspensionDurationInSeconds,
   .hostTimeoutUnsuspendCheckDelay,
   .hostTimeoutWindow]

/- The name that an option is recorded under. -/
def name : HostOption → String
| .maxActive => "max_active"
| .maxWaitTimeWhenExhausted =>
    "max_wait_time_when_exhausted"
| .lifo => "lifo"
| .useThriftFramedTransport =>
    "use_thrift_framed_transport"
| .maxFrameSize => "max_frame_size"
| .useSocketKeepalive => "use_socket_keepalive"
| .maxConnectTimeMillis => "max_connect_time_millis"
| .maxLastSuccessTimeMillis =>
    "max_last_success_time_millis"
| .cassandraThriftSocketTimeout =>
    "cassandra_thrift_socket_timeout"
| .autoDiscoverHosts => "auto_discover_hosts"
| .runAutoDiscoveryAtStartup =>
    "run_auto_discovery_at_startup"
| .autoDiscoveryDelayInSeconds =>
    "auto_discovery_delay_in_seconds"
| .retryDownedHosts => "retry_downed_hosts"
| .retryDownedHostsDelayInSeconds =>
    "retry_downed_hosts_delay_in_seconds"
| .retryDownedHostsQueueSize =>
    "retry_downed_hosts_queue_size"
| .useHostTimeoutTracker => "use_host_timeout_tracker"
| .hostTimeoutCounter => "host_timeout_counter"
| .hostTimeoutSuspensionDurationInSeconds =>
    "host_timeout_suspension_duration_in_seconds"
| .hostTimeoutUnsuspendCheckDelay =>
    "host_timeout_unsuspend_check_delay"
| .hostTimeoutWindow => "host_timeout_window"

/- The value of an option that is not set. -/
def default : HostOption → Value
| .maxActive => .int 50
| .maxWaitTimeWhenExhausted => .int (-1)
| .lifo => .bool true
| .useThriftFramedTransport => .bool true
| .maxFrameSize => .int 2147483647
| .useSocketKeepalive => .bool false
| .maxConnectTimeMillis => .int (-1)
| .maxLastSuccessTimeMillis => .int (-1)
| .cassandraThriftSocketTimeout => .int 0
| .autoDiscoverHosts => .bool false
| .runAutoDiscoveryAtStartup => .bool false
| .autoDiscoveryDelayInSeconds => .int 30
| .retryDownedHosts => .bool true
| .retryDownedHostsDelayInSeconds => .int 10
| .retryDownedHostsQueueSize => .int (-1)
| .useHostTimeoutTracker => .bool false
| .hostTimeoutCounter => .int 10
| .hostTimeoutSuspensionDurationInSeconds => .int 10
| .hostTimeoutUnsuspendCheckDelay => .int 10
| .hostTimeoutWindow => .int 500

/- The option with a name. -/
def ofName? (name : String) : Option HostOption :=
  all.find? fun option => option.name == name

/- Every option is among those that are recorded. -/
theorem mem_all (option : HostOption) : option ∈ all := by
  cases option <;> decide

end HostOption

------------------------------------------------------------
-- Configurators
------------------------------------------------------------

/- The hosts of a cluster and the value of each option. -/
structure Configurator where
  hosts : List Host
  option : HostOption → Value

namespace Configurator

/- The configuration of hosts with all options unset. -/
def ofHosts (hosts : List Host) : Configurator :=
  ⟨hosts, HostOption.default⟩

/- Set an option. -/
def set
    (configurator : Configurator)
    (option : HostOption)
    (value : Value) : Configurator :=
  { configurator with
    option := fun other =>
      if other = option then value
      else configurator.option other }

/- Set options in order. -/
def setAll
    (configurator : Configurator)
    (options : List (HostOption × Value)) : Configurator :=
  options.foldl (fun c entry => c.set entry.1 entry.2)
    configurator

/- Set options given by name, all of which have to exist. -/
def setNamed
    (configurator : Configurator) :
    List (String × Value) → Except Failure Configurator
| [] => .ok configurator
| (name, value) :: entries =>
    match HostOption.ofName? name with
    | some option =>
        (configurator.set option value).setNamed entries
    | none => .error (.unknownOption (.text name))

/- Parse the hosts, and set options given by name. -/
def create
    (hosts defaultPort : Value)
    (options : List (String × Value)) :
    Except Failure Configurator := do
  let hosts ← Host.parseAll hosts defaultPort
  (ofHosts hosts).setNamed options

/- The addresses of the hosts. -/
def addresses (configurator : Configurator) : List String :=
  configurator.hosts.map Host.address

/- The text of an option and its value. -/
def optionRecord
    (configurator : Configurator)
    (option : HostOption) : String :=
  option.name ++ "=" ++ (configurator.option option).record

/- The diagnostic record of a configuration that has one. -/
def record (configurator : Configurator) : String :=
  "HostConfigurator<hosts=" ++
    Text.join "," (configurator.hosts.map Host.record) ++
    ", " ++
    Text.join ", "
      (HostOption.all.map configurator.optionRecord) ++ ">"

/- The ports and options of a configuration have texts. -/
def isWritable (configurator : Configurator) : Bool :=
  configurator.hosts.all Host.isWritable &&
    HostOption.all.all fun option =>
      (configurator.option option).isWritable

/- The diagnostic record of a configuration, if it has one. -/
def written
    (configurator : Configurator) : Except Failure String :=
  Failure.writing configurator.isWritable configurator.record

end Configurator

end Keyspaces
