import Keyspaces.DottedPath
import Keyspaces.Setting
import Keyspaces.Table

/-
  This file defines the settings of keyspace resources and how
  a setting is found by its key, a dotted path of which the
  last part names the setting and the rest its module.

  Main definitions:
    * `Setting.Named`
    * `Setting.defaultPort`
    * `Setting.Catalog`
    * `Setting.Catalog.standard`
    * `Setting.Catalog.find`
-/

namespace Keyspaces

namespace Setting

------------------------------------------------------------
-- Named Settings
------------------------------------------------------------

/- A setting and the key it is configured under. -/
structure Named where
  key : String
  setting : Setting

/- The port of hosts given without one. -/
def defaultPort : Named :=
  ⟨"cassres.cassandra.default_port",
    ofDomain (.integer 32) (.int 9042)⟩

/- Whether traffic with a cluster is compressed. -/
def compression : Named :=
  ⟨"cassres.cassandra.compression",
    ofDomain .flag (.bool true)⟩

/- Whether a cluster collects metrics. -/
def metricsEnabled : Named :=
  ⟨"cassres.cassandra.metrics_enabled",
    ofDomain .flag (.bool false)⟩

/-
  The version of the protocol, which is negotiated with the
  cluster if it is not set.
-/
def protocolVersion : Named :=
  ⟨"cassres.cassandra.protocol_version",
    ofDomain (.integer 32) .null⟩

/-
  Whether the session of a keyspace is connected when the
  keyspace is resolved and not on first use.
-/
def connectOnResolve : Named :=
  ⟨"cassres.cassandra.connect_on_resolve",
    ofDomain .flag (.bool false)⟩

------------------------------------------------------------
-- Catalogs
------------------------------------------------------------

/- The settings that keys can name. -/
structure Catalog where
  settings : List Named

namespace Catalog

/- The settings of keyspace resources. -/
def standard : Catalog :=
  ⟨[defaultPort, compression, metricsEnabled,
    protocolVersion, connectOnResolve]⟩

/- Add settings to a catalog. -/
def extend
    (catalog : Catalog)
    (settings : List Named) : Catalog :=
  ⟨catalog.settings ++ settings⟩

/- The setting with a key, if there is one. -/
def get?
    (catalog : Catalog)
    (key : String) : Option Setting :=
  (catalog.settings.find? fun named => named.key == key).map
    Named.setting

/- Find the setting that a key names. -/
def find
    (catalog : Catalog)
    (key : String) : Except Failure (Option Setting) :=
  match DottedPath.divide? key with
  | none => .ok none
  | some (module, _) =>
      (DottedPath.checkModule module).map fun _ =>
        catalog.get? key

end Catalog

end Setting

end Keyspaces
