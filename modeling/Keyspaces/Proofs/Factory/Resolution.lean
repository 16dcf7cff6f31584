import Keyspaces.Proofs.Sharing

/-
  The first resolution of a reference that returns. Its
  cluster is the live one with the name in the reference, or
  the single one that is created for it, and the session of
  its handle is either connected once or left to the first use
  of the handle.

  Main declarations:
    * `Registry.Provided`
    * `Handle.Readied`
    * `KeyspaceFactory.FirstResolved`
    * `Factory.firstResolved_of_resolve`
-/

------------------------------------------------------------
-- The Keyspace That Is Named
------------------------------------------------------------

namespace Keyspaces

/-
  The trimmed text of the attribute with the name of the
  keyspace.
-/
def Reference.keyspaceName?
    (reference : Reference) : Option String :=
  (reference.content? "keyspace").map fun content =>
    Text.trim content.plain

/- The name of the keyspace in a value that is a reference. -/
def Value.keyspaceName? (value : Value) : Option String :=
  value.reference?.bind Reference.keyspaceName?

namespace Resource

/- The keyspace of a resource is the one that is named. -/
theorem keyspaceName?_of_ofReference
    {conf : Config}
    {reference : Reference}
    {resource : Resource}
    (h : ofReference conf reference = .ok resource) :
    reference.keyspaceName? = some resource.keyspaceName := by
  simp only [ofReference, Outcome.bind_eq_ok_iff] at h
  rcases h with
    ⟨_, _, _, _, keyspaceName, hKeyspace, _, _, _, _, _, _, h⟩
  cases h
  exact content?_of_required hKeyspace

/- So is the keyspace of what is parsed. -/
theorem keyspaceName?_of_parse
    {conf : Config}
    {value : Value}
    {resource : Resource}
    (h : parse conf value = .ok resource) :
    value.keyspaceName? = some resource.keyspaceName := by
  rcases parse_eq_ok_iff.mp h with
    ⟨reference, hValue, hResource⟩
  rw [Value.keyspaceName?, hValue]
  exact keyspaceName?_of_ofReference hResource

end Resource

end Keyspaces

------------------------------------------------------------
-- Providing a Cluster
------------------------------------------------------------

namespace Keyspaces

namespace Registry

/-
  How a registry provided a cluster under a name. Either a
  live one was registered, which is shared, and no other was
  created. Or what was registered was not live, and a single
  cluster was created with the options that the configuration
  of the registry makes of the configurator, and registered.
-/
inductive Provided
    (before after : Application)
    (id : RegistryId)
    (name : String)
    (configurator : Configurator)
    (cluster : ClusterId) : Prop
| shared
    (hRegistered : before.registered? id name = some cluster)
    (hLive : before.fleet.isLive cluster = true)
    (hClusters :
      after.fleet.clusters = before.fleet.clusters)
    (hAttempts :
      after.fleet.attempts = before.fleet.attempts)
    (hEntries :
      ∀ other key,
        after.registered? other key =
          before.registered? other key)
| created
    {options : ClusterOptions}
    (hDead :
      ∀ old, before.registered? id name = some old →
        before.fleet.isLive old = false)
    (hOptions :
      ClusterOptions.ofConfigurator
          ((before.registries.get id).conf.getD before.conf)
          configurator =
        .ok options)
    (hNew : cluster = before.fleet.clusters.size)
    (hClusters :
      after.fleet.clusters =
        before.fleet.clusters.add ⟨some options, false⟩)
    (hAttempts :
      after.fleet.attempts = before.fleet.attempts + 1)
    (hEntries :
      ∀ other key,
        after.registered? other key =
          if other = id ∧ key = name then some cluster
          else before.registered? other key)

variable {before after : Application}
variable {id : RegistryId}
variable {name : String}
variable {configurator : Configurator}
variable {cluster : ClusterId}

namespace Provided

/- A cluster that a registry answers with was provided. -/
theorem of_obtained
    (hObtained :
      Obtained before id name configurator
        (.ok cluster, after)) :
    Provided before after id name configurator cluster := by
  cases hObtained with
  | reused hLive =>
      rcases (liveCluster?_eq_some_iff before id name
        cluster).mp hLive with ⟨hRegistered, hRuns⟩
      exact
        .shared hRegistered hRuns rfl rfl fun _ _ => rfl
  | created hDead hOptions _ =>
      exact
        .created
          (fun old => isLive_eq_false_of_registered hDead)
          hOptions rfl rfl rfl
          (fun other key =>
            before.registered?_created id other name key
              configurator _)

/- It stays provided while clusters and entries stay. -/
theorem of_kept
    {later : Application}
    (h : Provided before after id name configurator cluster)
    (hClusters : later.fleet.clusters = after.fleet.clusters)
    (hAttempts : later.fleet.attempts = after.fleet.attempts)
    (hRegistries : later.registries = after.registries) :
    Provided before later id name configurator cluster := by
  have hEntries : ∀ other key,
      later.registered? other key =
        after.registered? other key := by
    intro other key
    rw [Application.registered?, hRegistries]
    rfl
  cases h with
  | shared hRegistered hLive hSame hCount hOld =>
      exact
        .shared hRegistered hLive (hClusters.trans hSame)
          (hAttempts.trans hCount)
          (fun other key =>
            (hEntries other key).trans (hOld other key))
  | created hDead hOptions hNew hAdded hCount hChanged =>
      exact
        .created hDead hOptions hNew (hClusters.trans hAdded)
          (hAttempts.trans hCount)
          (fun other key =>
            (hEntries other key).trans (hChanged other key))

/- What is provided is registered under the name. -/
theorem registered
    (h : Provided before after id name configurator cluster) :
    after.registered? id name = some cluster := by
  cases h with
  | shared hRegistered _ _ _ hEntries =>
      rw [hEntries, hRegistered]
  | created _ _ _ _ _ hEntries =>
      rw [hEntries, if_pos ⟨rfl, rfl⟩]

/- What is provided is live. -/
theorem live
    (h : Provided before after id name configurator cluster) :
    after.fleet.isLive cluster = true := by
  unfold Fleet.isLive
  cases h with
  | shared _ hLive hClusters _ _ =>
      rw [hClusters]
      exact hLive
  | created _ _ hNew hClusters _ _ =>
      rw [hClusters, hNew, Pool.get_add_self]
      rfl

end Provided

end Registry

end Keyspaces

------------------------------------------------------------
-- Readying a Handle
------------------------------------------------------------

namespace Keyspaces

/- The keyspace of an event that tells of a connection. -/
def Event.connection? : Event → Option (Option String)
| .connecting keyspace => some keyspace
| _ => none

/-
  The keyspaces that connections were asked for with, failed
  ones included.
-/
def Application.connections
    (app : Application) : List (Option String) :=
  app.log.filterMap Event.connection?

namespace Application

@[simp]
theorem connections_logged
    (app : Application)
    (event : Event) :
    (app.logged event).connections =
      app.connections ++ event.connection?.toList := by
  simp only [connections, logged, List.filterMap_append]
  cases hEvent : event.connection? with
  | none => simp [hEvent]
  | some keyspace => simp [hEvent]

/- Handles, sessions and connections are as before. -/
structure Unconnected (before after : Application) :
    Prop where
  handles : after.handles = before.handles
  sessions : after.fleet.sessions = before.fleet.sessions
  connections : after.connections = before.connections

end Application

/- A registry that is asked for a cluster connects nothing. -/
theorem Registry.Obtained.unconnected
    {app : Application}
    {id : RegistryId}
    {name : String}
    {configurator : Configurator}
    {outcome : Except Failure ClusterId × Application}
    (hObtained : Obtained app id name configurator outcome) :
    Application.Unconnected app outcome.2 where
  handles := by cases hObtained <;> rfl
  sessions := by cases hObtained <;> rfl
  connections := by
    cases hObtained with
    | reused _ =>
        rw [Application.connections_logged]
        exact List.append_nil _
    | unmapped _ _ => rfl
    | refused _ _ _ => rfl
    | created _ _ _ =>
        rw [Application.created,
          Application.connections_logged]
        exact List.append_nil _

/- Nor does a factory that keeps what it resolved. -/
theorem Application.unconnected_keeping
    (app : Application)
    (id : FactoryId)
    (factory : KeyspaceFactory)
    (resource : Resource)
    (resolution : Resolution)
    (label : String) :
    Unconnected app
      (app.keeping id factory resource resolution
        label) where
  handles := rfl
  sessions := rfl
  connections :=
    (connections_logged app _).trans (List.append_nil _)

namespace Handle

open Keyspaces.Action

/-
  A handle that has no session opens a new one on its cluster,
  with its keyspace.
-/
theorem eq_connectedAs_of_connect
    {app after : Application}
    {id : HandleId}
    {session : SessionId}
    (hNone : (app.handles.get id).session = none)
    (hConnect :
      (connect id).perform app = (.ok session, after)) :
    session = app.fleet.sessions.size ∧
      after = connectedAs app id := by
  have hConnected := connected_connect app id
  rw [hConnect] at hConnected
  cases hConnected with
  | reused hOpen => simp [openSession?, hNone] at hOpen
  | opened _ _ => exact ⟨rfl, rfl⟩

/-
  A new handle on a keyspace of a cluster was made ready.
  Either one connection was asked for, with the keyspace, and
  the handle has the session that was opened, or none was and
  it has no session.
-/
structure Readied
    (before after : Application)
    (keyspace : String)
    (cluster : ClusterId)
    (connects : Bool) : Prop where
  handles :
    after.handles =
      before.handles.add
        { name := some keyspace
          cluster := cluster
          session :=
            if connects then some before.fleet.sessions.size
            else none
          statements := .empty }
  sessions :
    after.fleet.sessions =
      if connects then
        before.fleet.sessions.add
          (.start cluster (some keyspace))
      else
        before.fleet.sessions
  connections :
    after.connections =
      before.connections ++
        if connects then [some keyspace] else []

namespace Readied

variable {before after : Application}
variable {keyspace : String}
variable {cluster : ClusterId}
variable {connects : Bool}

/- A handle is only made. -/
theorem withHandle
    (before : Application)
    (keyspace : String)
    (cluster : ClusterId) :
    Readied before
      (before.withHandle (some keyspace) cluster) keyspace
      cluster false where
  handles := rfl
  sessions := rfl
  connections := (List.append_nil _).symm

/- A handle is made and connected. -/
theorem connectedAs
    (before : Application)
    (keyspace : String)
    (cluster : ClusterId) :
    Readied before
      (Handle.connectedAs
        (before.withHandle (some keyspace) cluster)
        before.handles.size)
      keyspace cluster true := by
  have hMade :
      (before.withHandle (some keyspace) cluster).handles.get
          before.handles.size =
        ⟨some keyspace, cluster, none, .empty⟩ :=
    Pool.get_add_self _ _
  unfold Handle.connectedAs
  rw [hMade]
  exact
    { handles := Pool.set_add_self _ _ _
      sessions := rfl
      connections :=
        Application.connections_logged before
          (.connecting (some keyspace)) }

/- A handle is ready once it is connected, if it is to be. -/
theorem of_ready
    (hReady :
      connects = false ∧
          after =
            before.withHandle (some keyspace) cluster ∨
        connects = true ∧
          ∃ session,
            (connect before.handles.size).perform
                (before.withHandle (some keyspace) cluster) =
              (.ok session, after)) :
    Readied before after keyspace cluster connects := by
  rcases hReady with
    ⟨rfl, rfl⟩ | ⟨rfl, session, hConnect⟩
  · exact withHandle before keyspace cluster
  · have hNone :
        ((before.withHandle (some keyspace)
          cluster).handles.get before.handles.size).session =
            none := by
      rw [Application.withHandle, Pool.get_add_self]
    rw [(eq_connectedAs_of_connect hNone hConnect).2]
    exact connectedAs before keyspace cluster

/- Steps that connect nothing before and after do not matter. -/
theorem of_unconnected
    {first last : Application}
    (hFirst : Application.Unconnected first before)
    (h : Readied before after keyspace cluster connects)
    (hLast : Application.Unconnected after last) :
    Readied first last keyspace cluster connects where
  handles := by
    rw [hLast.handles, h.handles, hFirst.handles,
      hFirst.sessions]
  sessions := by
    rw [hLast.sessions, h.sessions, hFirst.sessions]
  connections := by
    rw [hLast.connections, h.connections, hFirst.connections]

/-
  A handle that was not connected opens its session when it is
  first used.
-/
theorem opens
    (h : Readied before after keyspace cluster false)
    {handle : HandleId}
    (hNew : handle = before.handles.size)
    {session : SessionId}
    {next : Application}
    (hConnect :
      (connect handle).perform after =
        (.ok session, next)) :
    session = before.fleet.sessions.size ∧
      next.fleet.sessions =
        before.fleet.sessions.add
          (.start cluster (some keyspace)) := by
  subst handle
  have hHandle :
      after.handles.get before.handles.size =
        ⟨some keyspace, cluster, none, .empty⟩ := by
    rw [h.handles]
    exact Pool.get_add_self _ _
  have hSessions :
      after.fleet.sessions = before.fleet.sessions :=
    h.sessions
  have hNone :
      (after.handles.get before.handles.size).session =
        none := by
    rw [hHandle]
  rcases eq_connectedAs_of_connect hNone hConnect with
    ⟨hSession, rfl⟩
  rw [hSessions] at hSession
  refine ⟨hSession, ?_⟩
  unfold Handle.connectedAs
  rw [hHandle, ← hSessions]
  rfl

end Readied

end Handle

end Keyspaces

------------------------------------------------------------
-- First Resolutions
------------------------------------------------------------

namespace Keyspaces

namespace KeyspaceFactory

/-
  What a factory of keyspaces did when it resolved a value for
  the first time. The value is a reference that describes the
  resource, with the trimmed names. Its cluster was provided
  by the registry of the factory, is live and is registered.
  A new handle is on it, with the name of the keyspace, and
  connected if the setting says so. The factory keeps the
  configurator, the cluster and the handle.
-/
structure FirstResolved
    (before after : Application)
    (id : FactoryId)
    (factory : KeyspaceFactory)
    (value : Value)
    (resource : Resource)
    (resolution : Resolution)
    (connects : Bool) : Prop where
  parsed :
    Resource.parse (factory.conf.getD before.conf) value =
      .ok resource
  clusterName :
    value.clusterName? = some resource.clusterName
  keyspaceName :
    value.keyspaceName? = some resource.keyspaceName
  kept :
    after.factories =
      before.factories.set id
        (.keyspaces
          { factory with resolved := some resolution })
  configurator :
    resolution.configurator = resource.configurator
  provided :
    Registry.Provided before after factory.registry
      resource.clusterName resource.configurator
      resolution.cluster
  registered :
    after.registered? factory.registry resource.clusterName =
      some resolution.cluster
  live : after.fleet.isLive resolution.cluster = true
  handle : resolution.handle = before.handles.size
  decided :
    (factory.conf.getD before.conf).read
        Setting.connectOnResolve =
      .ok (.bool connects)
  readied :
    Handle.Readied before after resource.keyspaceName
      resolution.cluster connects
  opens :
    connects = false →
      ∀ session next,
        (Handle.connect resolution.handle).perform after =
            (.ok session, next) →
          session = before.fleet.sessions.size ∧
            next.fleet.sessions =
              before.fleet.sessions.add
                (.start resolution.cluster
                  (some resource.keyspaceName))

/- A first resolution that is configured does all of it. -/
theorem Configured.firstResolved
    {before after : Application}
    {id : FactoryId}
    {factory : KeyspaceFactory}
    {value : Value}
    {reference : Reference}
    {name : Option String}
    {handle : HandleId}
    (hValue : value.reference? = some reference)
    (hConfigured :
      Configured before id factory reference name
        (.ok handle, after)) :
    ∃ resource resolution connects,
      handle = resolution.handle ∧
        FirstResolved before after id factory value resource
          resolution connects := by
  cases hConfigured with
  | @resolved resource cluster obtained ready found
      hResource hObtain hRead hReady =>
      rcases Config.read_connectOnResolve hRead with
        ⟨connects, rfl⟩
      have hParsed :
          Resource.parse (factory.conf.getD before.conf)
              value =
            .ok resource :=
        Resource.parse_eq_ok_iff.mpr ⟨_, hValue, hResource⟩
      have hObtained :=
        Registry.obtained_getOrCreate before factory.registry
          resource.clusterName resource.configurator
      rw [hObtain] at hObtained
      have hMade := hObtained.unconnected
      have hSteady := steady_of_ready hReady
      have hHandle :
          obtained.handles.size = before.handles.size :=
        congrArg Pool.size hMade.handles
      have hFactories :
          ready.factories = before.factories :=
        hSteady.factories.trans hObtained.factories
      let resolution : Resolution :=
        ⟨resource.configurator, cluster,
          obtained.handles.size⟩
      let label :=
        (name.filter (!·.isEmpty)).getD resource.keyspaceName
      let kept :=
        ready.keeping id factory resource resolution label
      have hReadied :
          Handle.Readied before kept resource.keyspaceName
            cluster connects :=
        (Handle.Readied.of_ready hReady).of_unconnected hMade
          (ready.unconnected_keeping id factory resource
            resolution label)
      have hProvided :
          Registry.Provided before kept factory.registry
            resource.clusterName resource.configurator
            cluster :=
        (Registry.Provided.of_obtained hObtained).of_kept
          hSteady.clusters hSteady.attempts
          hSteady.registries
      refine ⟨resource, resolution, connects, rfl, ?_⟩
      exact
        { parsed := hParsed
          clusterName := Resource.clusterName?_of_parse hParsed
          keyspaceName :=
            Resource.keyspaceName?_of_parse hParsed
          kept := by
            rw [Application.keeping, ← hFactories]
            rfl
          configurator := rfl
          provided := hProvided
          registered := hProvided.registered
          live := hProvided.live
          handle := hHandle
          decided := hRead
          readied := hReadied
          opens := by
            rintro rfl session next hConnect
            exact hReadied.opens hHandle hConnect }

end KeyspaceFactory

namespace Factory

open KeyspaceFactory

/-
  A factory of keyspaces without a handle that answers a
  resolution has resolved the value for the first time, and
  answers with the handle that it made.
-/
theorem firstResolved_of_resolve
    {before after : Application}
    {id : FactoryId}
    {factory : KeyspaceFactory}
    {value : Value}
    {name : Option String}
    {context : Option ContextId}
    {answer : Resolved}
    (hFactory : before.factories.get id = .keyspaces factory)
    (hFirst : factory.resolved = none)
    (hAnswers :
      (resolve id value name context).perform before =
        (.ok answer, after)) :
    ∃ resource resolution connects,
      answer = .handle resolution.handle ∧
        FirstResolved before after id factory value resource
          resolution connects := by
  rw [perform_resolve_keyspaces hFactory] at hAnswers
  have hAnswered :=
    answered_resolve before id factory value name
  cases hPerform :
      (factory.resolve id value name).perform before with
  | mk outcome final =>
      rw [hPerform] at hAnswers hAnswered
      rcases outcome with failure | handle
      · simp at hAnswers
      · cases hAnswers
        cases hAnswered with
        | known _ hResolved => simp [hFirst] at hResolved
        | configured hValue _ hConfigured =>
            rcases hConfigured.firstResolved hValue with
              ⟨resource, resolution, connects, rfl, h⟩
            exact ⟨resource, resolution, connects, rfl, h⟩

namespace Sample

/- A configuration that connects on resolution. -/
def connecting : Config :=
  .ofList [(Setting.connectOnResolve.key, .bool true)]

/- The second of two factories is the one that connects. -/
def factory : KeyspaceFactory :=
  .create none (some connecting)

/- Only the first factory resolved its reference. -/
def before : Application :=
  (Application.start .empty .none).run
    [.operation .standard (.createFactory none none),
     .operation .standard
       (.createFactory none (some connecting)),
     .operation .standard
       (.resolve 0 Resource.Sample.reference.toValue none
         none)]

/- The second factory resolves the same reference. -/
def after : Application :=
  ((resolve 1 Resource.Sample.reference.toValue none
    none).perform before).2

end Sample

/- It connects a handle of its own with the same cluster. -/
theorem firstResolved_sample :
    ∃ resource resolution,
      FirstResolved Sample.before Sample.after 1
          Sample.factory Resource.Sample.reference.toValue
          resource resolution true ∧
        resolution.cluster = 0 ∧ resolution.handle = 1 := by
  have hFactory :
      Sample.before.factories.get 1 =
        .keyspaces Sample.factory :=
    rfl
  have hAnswers :
      (resolve 1 Resource.Sample.reference.toValue none
          none).perform Sample.before =
        (.ok (.handle 1), Sample.after) :=
    rfl
  rcases firstResolved_of_resolve hFactory rfl hAnswers with
    ⟨resource, resolution, connects, _, h⟩
  have hDecided :
      Sample.connecting.read Setting.connectOnResolve =
        .ok (.bool true) :=
    rfl
  have hConnects := h.decided.symm.trans hDecided
  cases hConnects
  have hHandles :=
    congrArg (fun handles => (handles.get 1).cluster)
      h.readied.handles
  exact ⟨resource, resolution, h, hHandles.symm, h.handle⟩

end Factory

end Keyspaces
