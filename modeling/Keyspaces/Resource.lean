import Keyspaces.Config
import Keyspaces.Configurator
import Keyspaces.Reference

/-
  This file defines keyspace resources: what a reference says
  about a keyspace, its cluster and the connections with it.

  Main definitions:
    * `Resource`
    * `Resource.Row`
    * `Resource.plainRows`
    * `Resource.required`
    * `Resource.optionsOf`
    * `Resource.parse`
-/

namespace Keyspaces

open Text

/- A keyspace, its cluster and the connections with it. -/
structure Resource where
  clusterName : String
  keyspaceName : String
  configurator : Configurator

namespace Resource

------------------------------------------------------------
-- Attributes
------------------------------------------------------------

/-
  A row of a table of attributes: the name of an attribute,
  the option it sets and the domain of its values.
-/
structure Row where
  name : String
  option : HostOption
  domain : Setting.Domain
deriving DecidableEq, Repr

/- The domain of integers of 32 bits. -/
def int : Setting.Domain := .integer 32

/- The domain of integers of 64 bits. -/
def long : Setting.Domain := .integer 64

/- The attributes that always apply. -/
def plainRows : List Row :=
  [⟨"maxActive", .maxActive, int⟩,
   ⟨"maxWaitTimeWhenExhausted",
     .maxWaitTimeWhenExhausted, int⟩,
   ⟨"lifo", .lifo, .flag⟩,
   ⟨"useThriftFramedTransport",
     .useThriftFramedTransport, .flag⟩,
   ⟨"maxFrameSize", .maxFrameSize, int⟩,
   ⟨"useSocketKeepalive", .useSocketKeepalive, .flag⟩,
   ⟨"maxConnectTimeMillis", .maxConnectTimeMillis, long⟩,
   ⟨"maxLastSuccessTimeMillis",
     .maxLastSuccessTimeMillis, long⟩,
   ⟨"cassandraThriftSocketTimeout",
     .cassandraThriftSocketTimeout, int⟩]

/- The attribute that turns the discovery of hosts on. -/
def discoveryRow : Row :=
  ⟨"autoDiscoverHosts", .autoDiscoverHosts, .flag⟩

/- The attributes that apply when discovery is on. -/
def discoveryRows : List Row :=
  [⟨"runAutoDiscoveryAtStartup",
     .runAutoDiscoveryAtStartup, .flag⟩,
   ⟨"autoDiscoveryDelayInSeconds",
     .autoDiscoveryDelayInSeconds, int⟩]

/- The attribute that turns the tracking of timeouts on. -/
def trackerRow : Row :=
  ⟨"useHostTimeoutTracker", .useHostTimeoutTracker, .flag⟩

/- The attributes that apply when tracking is on. -/
def trackerRows : List Row :=
  [⟨"hostTimeoutCounter", .hostTimeoutCounter, int⟩,
   ⟨"hostTimeoutSuspensionDurationInSeconds",
     .hostTimeoutSuspensionDurationInSeconds, int⟩,
   ⟨"hostTimeoutUnsuspendCheckDelay",
     .hostTimeoutUnsuspendCheckDelay, int⟩,
   ⟨"hostTimeoutWindow", .hostTimeoutWindow, int⟩]

/- The attribute with the delay between attempts. -/
def delayRow : Row :=
  ⟨"retryDownedHostDelayInSeconds",
    .retryDownedHostsDelayInSeconds, int⟩

/- The attribute that applies when there is a delay. -/
def queueRow : Row :=
  ⟨"retryDownedHostsQueueSize",
    .retryDownedHostsQueueSize, int⟩

/- The attribute with the hosts of the cluster. -/
def hostsAttribute : String := "hosts"

/- The attribute with the name of the cluster. -/
def clusterAttribute : String := "clusterName"

/- The attribute with the name of the keyspace. -/
def keyspaceAttribute : String := "keyspace"

------------------------------------------------------------
-- Reading Attributes
------------------------------------------------------------

/- The trimmed text of an attribute, empty if it is missing. -/
def trimmedContent
    (reference : Reference)
    (name : String) : Except Failure String :=
  match reference.content? name with
  | none => .ok ""
  | some content => content.toText.map trim

/-
  The trimmed content of an attribute that has to be there
  and not blank.
-/
def required
    (reference : Reference)
    (name : String) : Except Failure String := do
  let content ← trimmedContent reference name
  if content.isEmpty then
    .error (.requiredAttribute name)
  else
    .ok content

/-
  The coerced content of the attribute of a row, if it is
  there.
-/
def readRow
    (reference : Reference)
    (row : Row) : Except Failure (Option Value) :=
  match reference.content? row.name with
  | none => .ok none
  | some content =>
      ((Setting.ofDomain row.domain .null).coerce content
        row.name).map some

/- The options that the attributes of some rows set. -/
def readRows
    (reference : Reference) :
    List Row → Except Failure (List (HostOption × Value))
| [] => .ok []
| row :: rows => do
    let value ← readRow reference row
    let options ← readRows reference rows
    .ok (match value with
      | some value => (row.option, value) :: options
      | none => options)

/-
  The options set by an attribute, and when it is true also
  those set by the attributes that depend on it.
-/
def readGated
    (reference : Reference)
    (gate : Row)
    (rows : List Row) :
    Except Failure (List (HostOption × Value)) := do
  match ← readRow reference gate with
  | none => .ok []
  | some value =>
      if value.isTruthy then
        let options ← readRows reference rows
        .ok ((gate.option, value) :: options)
      else
        .ok [(gate.option, value)]

/- The delay is too short for hosts to be retried. -/
def disablesRetry : Value → Bool
| .int n => n < 1
| _ => false

/-
  The options set by the delay between attempts and the size
  of the queue. A delay of less than a second disables the
  retrying of hosts that are down.
-/
def readRetry
    (reference : Reference) :
    Except Failure (List (HostOption × Value)) := do
  match ← readRow reference delayRow with
  | none => .ok []
  | some delay =>
      let queue ← readRows reference [queueRow]
      let retry :=
        if disablesRetry delay then
          [(.retryDownedHosts, .bool false)]
        else
          []
      .ok ((delayRow.option, delay) :: retry ++ queue)

/- All options that the attributes of a reference set. -/
def optionsOf
    (reference : Reference) :
    Except Failure (List (HostOption × Value)) := do
  let plain ← readRows reference plainRows
  let discovery ←
    readGated reference discoveryRow discoveryRows
  let tracker ← readGated reference trackerRow trackerRows
  let retry ← readRetry reference
  .ok (plain ++ discovery ++ tracker ++ retry)

/- Read a keyspace resource from a reference. -/
def ofReference
    (conf : Config)
    (reference : Reference) : Except Failure Resource := do
  let hosts ← required reference hostsAttribute
  let clusterName ← required reference clusterAttribute
  let keyspaceName ← required reference keyspaceAttribute
  let options ← optionsOf reference
  let defaultPort ← conf.read Setting.defaultPort
  let hosts ← Host.parseAll (.text hosts) defaultPort
  .ok
    { clusterName := clusterName
      keyspaceName := keyspaceName
      configurator :=
        (Configurator.ofHosts hosts).setAll options }

/- The reference that a value has to be. -/
def expectReference
    (value : Value) : Except Failure Reference :=
  match value.reference? with
  | some reference => .ok reference
  | none => .error (.showing value (.notReference value))

/- Read a keyspace resource from a value. -/
def parse
    (conf : Config)
    (value : Value) : Except Failure Resource := do
  let reference ← expectReference value
  ofReference conf reference

end Resource

end Keyspaces
