import Keyspaces.Cluster.Reconnection
import Keyspaces.Config

/-
  This file defines the options that a cluster is created
  with, derived from the configuration of its hosts and from
  the settings of the process.

  Main definitions:
    * `ExecutionProfile`
    * `ClusterOptions`
    * `ClusterOptions.seconds`
    * `ClusterOptions.ofConfigurator`
-/

namespace Keyspaces

open Number

/-
  How requests are executed: the seconds after which they time
  out, and the addresses they are restricted to, if they are.
-/
structure ExecutionProfile where
  requestTimeout : Double
  contactPoints : Option (List String)
deriving DecidableEq, Repr

/-
  The options of a cluster. Those that are absent are left to
  the driver.
-/
structure ClusterOptions where
  contactPoints : List Host
  compression : Value
  metricsEnabled : Value
  reconnection : ReconnectionPolicy
  protocolVersion : Option Value
  connectTimeout : Option Double
  controlConnectionTimeout : Option Double
  socketKeepalive : Bool
  refreshWindow : Option Value
  profile : ExecutionProfile
deriving Repr

namespace ClusterOptions

/- The seconds after which requests time out by default. -/
def defaultRequestTimeout : Double :=
  (Double.ofIntRatio? 10 1).getD Double.notANumber

/- A number of milliseconds in seconds. -/
def toSeconds (millis : Value) : Except Failure Double :=
  let ofInt := fun n : Int =>
    match Double.ofIntRatio? n 1000 with
    | some x => .ok x
    | none => .error .quotientTooLarge
  match millis with
  | .int n => ofInt n
  | .bool b => ofInt (Value.boolInt b)
  | .float x => .ok (x.div 1000)
  | _ => .error (.incomparable "/" millis.kindName)

/-
  The seconds of a timeout that is given in milliseconds. One
  that is not positive is not set.
-/
def seconds (millis : Value) : Except Failure (Option Double) := do
  if ← millis.isPositive then
    (toSeconds millis).map some
  else
    .ok none

/- A version that is set, zero counting as unset. -/
def versionOf (version : Value) : Option Value :=
  if version.isTruthy then some version else none

/- The options of a cluster with the configured hosts. -/
def ofConfigurator
    (conf : Config)
    (configurator : Configurator) :
    Except Failure ClusterOptions := do
  let compression ← conf.read Setting.compression
  let metricsEnabled ← conf.read Setting.metricsEnabled
  let reconnection ←
    ReconnectionPolicy.ofConfigurator configurator
  let version ← conf.read Setting.protocolVersion
  let connectTimeout ←
    seconds (configurator.option .maxConnectTimeMillis)
  let requestTimeout ←
    seconds (configurator.option .cassandraThriftSocketTimeout)
  let discovers :=
    (configurator.option .autoDiscoverHosts).isTruthy
  .ok
    { contactPoints := configurator.hosts
      compression := compression
      metricsEnabled := metricsEnabled
      reconnection := reconnection
      protocolVersion := versionOf version
      connectTimeout := connectTimeout
      controlConnectionTimeout := requestTimeout
      socketKeepalive :=
        (configurator.option .useSocketKeepalive).isTruthy
      refreshWindow :=
        if discovers then
          some
            (configurator.option .autoDiscoveryDelayInSeconds)
        else
          none
      profile :=
        { requestTimeout :=
            requestTimeout.getD defaultRequestTimeout
          contactPoints :=
            if discovers then none
            else some configurator.addresses } }

end ClusterOptions

end Keyspaces
