import Keyspaces.Application

/-
  This file defines what is done with a registry of clusters:
  to get the one with a name or create it, and to shut them
  down.

  Main definitions:
    * `Registry.names`
    * `Registry.getOrCreate`
    * `Registry.shutdown`
-/

namespace Keyspaces

namespace Registry

/- The names of the registered clusters, sorted. -/
def names (registry : Registry) : List String :=
  registry.clusters.keys.mergeSort fun a b => a ≤ b

/- The diagnostic record of a registry. -/
def record (registry : Registry) : String :=
  "<ClusterRegistry " ++ Text.join ", " registry.names ++ ">"

/- The cluster with a name, if it is not shut down. -/
def liveCluster?
    (registry : Registry)
    (fleet : Fleet)
    (name : String) : Option ClusterId :=
  (registry.clusters.get? name).filter fleet.isLive

/- Make a registry with a configuration. -/
def create (conf : Option Config) : Action RegistryId := do
  let app ← get
  set { app with
    registries := app.registries.add ⟨conf, .empty⟩ }
  pure app.registries.size

/- The cluster that is registered under a name. -/
def get?
    (id : RegistryId)
    (name : String) : Action (Option ClusterId) := do
  let app ← get
  pure ((app.registries.get id).clusters.get? name)

/-
  The cluster that is registered under a name. One is created
  with the given hosts if there is none or if it is shut down.
-/
def getOrCreate
    (id : RegistryId)
    (name : String)
    (configurator : Configurator) : Action ClusterId := do
  let app ← get
  let registry := app.registries.get id
  match registry.liveCluster? app.fleet name with
  | some cluster => do
      Action.write (.clusterReused name)
      pure cluster
  | none => do
      let conf := registry.conf.getD app.conf
      let options ← Action.ofExcept
        (ClusterOptions.ofConfigurator conf configurator)
      let cluster ← Action.createCluster options
      modify (·.setRegistered id
        (registry.clusters.insert name cluster))
      Action.write
        (.clusterCreated id cluster name configurator.hosts)
      pure cluster

/-
  Shut clusters down in order. After a failure the rest is not
  asked to.
-/
def shutdownAll :
    List (String × ClusterId) → Action Unit
| [] => pure ()
| (name, cluster) :: rest => do
    Action.write (.clusterShutdown name)
    Action.shutdownCluster cluster
    shutdownAll rest

/- The entries with a name, or all of them. -/
def selected
    (registry : Registry) :
    Option String → List (String × ClusterId)
| none => registry.clusters.entries
| some name =>
    ((registry.clusters.get? name).map
      fun cluster => (name, cluster)).toList

/- What is left when the selected entries are removed. -/
def remaining
    (registry : Registry) :
    Option String → Table String ClusterId
| none => .empty
| some name => registry.clusters.erase name

/-
  Forget the cluster with a name, or all clusters, and shut
  down what is forgotten.
-/
def shutdown
    (id : RegistryId)
    (name : Option String) : Action Unit := do
  let registry := (← get).registries.get id
  modify (·.setRegistered id (registry.remaining name))
  shutdownAll (registry.selected name)

end Registry

end Keyspaces
