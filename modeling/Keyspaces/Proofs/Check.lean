import Keyspaces.Check
import Keyspaces.Proofs.Cluster.Options
import Keyspaces.Proofs.Context.Lookup
import Keyspaces.Proofs.Declarations
import Keyspaces.Proofs.Resource
import Mathlib.Data.List.Forall2

/-
  The check agrees with the resolution of what it checks: it
  finds a declared keyspace invalid exactly when looking its
  name up fails, for the same reason, and finds the keyspace
  and the cluster that a successful lookup answers with. There
  is one exception: with a default port that cannot be shown,
  lookups fail but the check comes to no findings.

  Main declarations:
    * `Check.session`
    * `Check.Agrees`
    * `Check.Obscured`
    * `Check.exists_inspectAll`
    * `Check.agrees_of_awaits`
    * `Check.Compares`
    * `Check.agrees_with_lookup`
-/

------------------------------------------------------------
-- Sessions
------------------------------------------------------------

namespace Keyspaces

namespace Check

open Keyspaces.Action

/-
  A new context whose factories are given a new registry and a
  configuration, which is also that of the registry, and into
  which declarations are loaded.
-/
def session
    (conf : Config)
    (declared : Except Failure Declarations) :
    Action (RegistryId × ContextId) := do
  let registry ← Registry.create (some conf)
  let context ← Context.create
    [.registry registry, .conf (some conf)]
  discard (Context.load context declared)
  pure (registry, context)

/- The application in which the registry was made. -/
def withRegistry
    (app : Application)
    (conf : Config) : Application :=
  { app with
    registries := app.registries.add ⟨some conf, .empty⟩ }

/- The context before anything is loaded into it. -/
def newContext
    (app : Application)
    (conf : Config) : Context :=
  ⟨[.registry app.registries.size, .conf (some conf)],
    .empty, .empty⟩

/- The application in which the context was made as well. -/
def withContext
    (app : Application)
    (conf : Config) : Application :=
  { withRegistry app conf with
    contexts := app.contexts.add (newContext app conf) }

/- The application in which the declarations were loaded. -/
def withDeclarations
    (app : Application)
    (conf : Config)
    (declarations : Declarations) : Application :=
  ((withContext app conf).setContext app.contexts.size
    ((newContext app conf).binding
      declarations.entries)).logged
        (.resourcesBound declarations.keys)

/- Loading declarations into a new context succeeds. -/
theorem perform_session
    (app : Application)
    (conf : Config)
    (declarations : Declarations) :
    (session conf (.ok declarations)).perform app =
      (.ok (app.registries.size, app.contexts.size),
        withDeclarations app conf declarations) := by
  have hRegistry :
      (Registry.create (some conf)).perform app =
        (.ok app.registries.size, withRegistry app conf) :=
    rfl
  have hContext :
      (Context.create
          [.registry app.registries.size,
            .conf (some conf)]).perform
          (withRegistry app conf) =
        (.ok app.contexts.size, withContext app conf) :=
    rfl
  have hNew :
      (withContext app conf).contexts.get app.contexts.size =
        newContext app conf :=
    Pool.get_add_self app.contexts _
  have hBind :
      (Context.bindAll app.contexts.size
          declarations.entries).perform
          (withContext app conf) =
        (.ok (),
          (withContext app conf).setContext app.contexts.size
            ((newContext app conf).binding
              declarations.entries)) := by
    rw [Context.perform_bindAll _ declarations.distinct, hNew]
    intro entry _
    rw [hNew]
    rfl
  have hLoad :
      (Context.load app.contexts.size
          (.ok declarations)).perform
          (withContext app conf) =
        (.ok declarations.keys,
          withDeclarations app conf declarations) := by
    rw [Context.load,
      perform_bind_of_ok (perform_ofExcept _ _),
      perform_bind_of_ok hBind]
    rfl
  rw [session, perform_bind_of_ok hRegistry,
    perform_bind_of_ok hContext, perform_bind,
    perform_discard, hLoad]
  rfl

/- Every declared name awaits its lookup. -/
theorem awaits_session
    {app : Application}
    (hCreates :
      ∀ count,
        Call.create count ∉ app.fleet.faults.failing)
    (conf : Config)
    {declarations : Declarations}
    {name : String}
    {reference : Reference}
    (hDeclared :
      declarations.get? name = some reference) :
    Context.Awaits app.contexts.size name reference
      app.registries.size conf
      (withDeclarations app conf declarations) := by
  have hContext :
      (withDeclarations app conf declarations).contexts.get
          app.contexts.size =
        (newContext app conf).binding declarations.entries :=
    Pool.get_set_self _ _ _
  constructor
  case arguments =>
    rw [hContext]
    rfl
  case isBound =>
    rw [hContext,
      Context.get?_binding _ declarations.distinct,
      ← Table.get?_eq_value?, hDeclared]
    rfl
  case unresolved =>
    rw [hContext]
    rfl
  case settings =>
    exact
      congrArg Registry.conf
        (Pool.get_add_self app.registries _)
  case creates => exact hCreates

end Check

end Keyspaces

------------------------------------------------------------
-- Agreement on One Name
------------------------------------------------------------

namespace Keyspaces

namespace Check

open Keyspaces.Action

/-
  A finding agrees with how the lookup of a name ended. After
  a failure the report has its message. After a success it has
  the name of the keyspace and that of the cluster, which is
  registered.
-/
def Agrees
    (registry : RegistryId)
    (name : String)
    (finding : Finding) :
    Except Failure Resolved × Application → Prop
| (.error failure, _) =>
    finding.isGood = false ∧
      finding.lines = [name ++ ": " ++ failure.message]
| (.ok answer, after) =>
    ∃ resource handle,
      finding = .keyspace name resource ∧
        answer = .handle handle ∧
        (after.handles.get handle).name =
          some resource.keyspaceName ∧
        after.registered? registry resource.clusterName =
          some (after.handles.get handle).cluster

/- The settings of a cluster can be read. -/
structure Readable (conf : Config) : Prop where
  compression :
    ∃ value, conf.read Setting.compression = .ok value
  metrics :
    ∃ value, conf.read Setting.metricsEnabled = .ok value
  version :
    ∃ value, conf.read Setting.protocolVersion = .ok value

/- No cluster that is read is refused if none fails to start. -/
theorem not_error_of_ofReference
    {conf settings : Config}
    {reference : Reference}
    {resource : Resource}
    {registry : RegistryId}
    {app after : Application}
    {failure : Failure}
    (hReadable : Readable settings)
    (hResource :
      Resource.ofReference conf reference = .ok resource)
    (hSettings :
      (app.registries.get registry).conf = some settings)
    (hCreates :
      ∀ count,
        Call.create count ∉ app.fleet.faults.failing) :
    (Registry.getOrCreate registry resource.clusterName
          resource.configurator).perform app ≠
      (.error failure, after) := by
  intro hFails
  have hObtained :=
    Registry.obtained_getOrCreate app registry
      resource.clusterName resource.configurator
  rw [hFails] at hObtained
  cases hObtained with
  | unmapped _ hOptions =>
      rcases Resource.exists_options hResource
          hReadable.compression hReadable.metrics
          hReadable.version with
        ⟨options, hMapped⟩
      rw [hSettings, Option.getD_some, hMapped] at hOptions
      contradiction
  | refused _ _ hRefused => exact hCreates _ hRefused

/-
  A handle that was made on a cluster that was obtained has
  the name of the keyspace, and its cluster is registered.
-/
theorem agrees_of_getOrCreate
    {registry : RegistryId}
    {resource : Resource}
    {before after : Application}
    {cluster : ClusterId}
    (hObtain :
      (Registry.getOrCreate registry resource.clusterName
          resource.configurator).perform before =
        (.ok cluster, after))
    (name : String)
    (id : FactoryId)
    (factory : KeyspaceFactory)
    (resolution : Resolution)
    (label : String) :
    Agrees registry name (.keyspace name resource)
      (.ok (.handle after.handles.size),
        (after.withHandle (some resource.keyspaceName)
          cluster).keeping id factory resource resolution
            label) := by
  have hAnswer :=
    Registry.obtained_getOrCreate before registry
      resource.clusterName resource.configurator
  rw [hObtain] at hAnswer
  have hRegistered := hAnswer.registered.1
  have hHandle :
      (after.withHandle (some resource.keyspaceName)
          cluster).handles.get after.handles.size =
        ⟨some resource.keyspaceName, cluster, none, .empty⟩ :=
    Pool.get_add_self after.handles _
  have hName := congrArg Handle.name hHandle
  have hCluster := congrArg Handle.cluster hHandle
  refine
    ⟨resource, after.handles.size, rfl, rfl, hName, ?_⟩
  exact hRegistered.trans (congrArg some hCluster).symm

/- A fault in the configuration is reported by the check. -/
theorem inspect_of_kind
    {conf : Config}
    {name : String}
    {reference : Reference}
    {failure : Failure}
    (hFails :
      Resource.ofReference conf reference = .error failure)
    (hKind : failure.kind = .configuration) :
    inspect conf (name, reference) =
      .ok (.invalid name failure) := by
  unfold inspect
  rw [hFails]
  dsimp only
  rw [hKind]
  rfl

/- What is found to be invalid could not be read. -/
theorem invalid_of_inspect
    {conf : Config}
    {name : String}
    {reference : Reference}
    {finding : Finding}
    {failure : Failure}
    (hFails :
      Resource.ofReference conf reference = .error failure)
    (hFinding :
      inspect conf (name, reference) = .ok finding) :
    finding = .invalid name failure := by
  unfold inspect at hFinding
  rw [hFails] at hFinding
  dsimp only at hFinding
  split at hFinding
  · exact (Except.ok.inj hFinding).symm
  · contradiction

/- What is found of a keyspace that can be read. -/
theorem keyspace_of_inspect
    {conf : Config}
    {name : String}
    {reference : Reference}
    {finding : Finding}
    {resource : Resource}
    (hResource :
      Resource.ofReference conf reference = .ok resource)
    (hFinding :
      inspect conf (name, reference) = .ok finding) :
    finding = .keyspace name resource := by
  unfold inspect at hFinding
  rw [hResource] at hFinding
  exact (Except.ok.inj hFinding).symm

variable {importer : Importer}
variable {member : Importable}
variable {conf : Config}
variable {id : ContextId}
variable {name : String}
variable {reference : Reference}
variable {registry : RegistryId}
variable {app : Application}

/-
  The first lookup of a name fails if its reference cannot be
  read, with the reason for this.
-/
theorem lookup_of_error
    {failure : Failure}
    (hConnects :
      conf.read Setting.connectOnResolve =
        .ok (.bool false))
    (hFind :
      importer.find Importer.keyspaceFactoryPath = .ok member)
    (hUsage : member.usage = .keyspaces)
    (hFactory :
      reference.factory = some Importer.keyspaceFactoryPath)
    (hAwaits :
      Context.Awaits id name reference registry conf app)
    (hFails :
      Resource.ofReference conf reference =
        .error failure) :
    ∃ after,
      (Context.lookup importer id name).perform app =
        (.error failure, after) := by
  have hLookup :=
    Context.perform_lookup_of_awaits hAwaits hFactory
      (by decide) hFind hUsage
  have hConfigured :=
    KeyspaceFactory.configured_configure
      (Context.prepared app id name
        (.create (some registry) (some conf)))
      app.factories.size
      (.create (some registry) (some conf))
      reference (some name)
  rcases hConfigured.without_session rfl hConnects with
    ⟨found, hResource, hOutcome⟩ | ⟨resource, hResource, _⟩
  · rw [hResource] at hFails
    cases hFails
    rw [hLookup, hOutcome]
    exact ⟨_, rfl⟩
  · rw [hResource] at hFails
    contradiction

/-
  What the check finds of a name agrees with the first lookup
  of it, if the session is not to be connected at once.
-/
theorem agrees_of_awaits
    {finding : Finding}
    (hReadable : Readable conf)
    (hConnects :
      conf.read Setting.connectOnResolve =
        .ok (.bool false))
    (hFind :
      importer.find Importer.keyspaceFactoryPath = .ok member)
    (hUsage : member.usage = .keyspaces)
    (hFactory :
      reference.factory = some Importer.keyspaceFactoryPath)
    (hAwaits :
      Context.Awaits id name reference registry conf app)
    (hFinding :
      inspect conf (name, reference) = .ok finding) :
    Agrees registry name finding
      ((Context.lookup importer id name).perform app) := by
  have hLookup :=
    Context.perform_lookup_of_awaits hAwaits hFactory
      (by decide) hFind hUsage
  have hConfigured :=
    KeyspaceFactory.configured_configure
      (Context.prepared app id name
        (.create (some registry) (some conf)))
      app.factories.size
      (.create (some registry) (some conf))
      reference (some name)
  rcases hConfigured.without_session rfl hConnects with
    ⟨failure, hResource, hOutcome⟩ |
      ⟨resource, hResource, hObtained⟩
  · rw [hLookup, hOutcome,
      invalid_of_inspect hResource hFinding]
    exact ⟨rfl, rfl⟩
  · rcases hObtained with
      ⟨failure, after, hFails⟩ |
        ⟨cluster, after, resolution, label, hObtain,
          hOutcome⟩
    · exact
        absurd hFails
          (not_error_of_ofReference hReadable hResource
            hAwaits.settings hAwaits.creates)
    · rw [hLookup, hOutcome,
        keyspace_of_inspect hResource hFinding]
      exact agrees_of_getOrCreate hObtain name _ _ _ _

end Check

end Keyspaces

------------------------------------------------------------
-- Agreement on All Names
------------------------------------------------------------

namespace Keyspaces

namespace Importer

/- Other modules do not hide the factory of keyspaces. -/
theorem find_keyspaceFactory
    (modules : List (String × Members)) :
    ∃ member,
      (standard.extend modules).find keyspaceFactoryPath =
          .ok member ∧
        member.usage = .keyspaces :=
  ⟨_, rfl, rfl⟩

end Importer

namespace Check

open Keyspaces.Action

/-
  The default port is asked for, to parse the hosts of some
  entry with, and what is there cannot be shown.
-/
def Obscured
    (conf : Config)
    (entries : List (String × Reference)) : Prop :=
  ∃ entry ∈ entries, Resource.Obscured conf entry.2

/- The check comes to a finding unless the entry is obscured. -/
theorem exists_inspect
    {conf : Config}
    {entry : String × Reference}
    (hTextual : entry.2.Textual)
    (hClear : ¬ Resource.Obscured conf entry.2) :
    ∃ finding, inspect conf entry = .ok finding := by
  cases hResource : Resource.ofReference conf entry.2 with
  | error failure =>
      have hKind :=
        Resource.failsAs_ofReference hTextual hClear failure
          hResource
      exact ⟨_, inspect_of_kind hResource hKind⟩
  | ok resource =>
      refine ⟨.keyspace entry.1 resource, ?_⟩
      unfold inspect
      rw [hResource]

/- That an entry is obscured is not reported but escapes. -/
theorem inspect_of_obscured
    {conf : Config}
    {entry : String × Reference}
    (hTextual : entry.2.Textual)
    (hObscured : Resource.Obscured conf entry.2) :
    inspect conf entry = .error .unwritableInteger := by
  unfold inspect
  rw [Resource.ofReference_of_obscured hTextual hObscured]
  rfl

/- Entries are inspected one by one if none is obscured. -/
theorem exists_inspectAll
    {conf : Config}
    {agrees : String × Reference → Finding → Prop}
    {entries : List (String × Reference)}
    (hTextual : ∀ entry ∈ entries, entry.2.Textual)
    (hClear : ¬ Obscured conf entries)
    (hAgrees :
      ∀ entry ∈ entries, ∀ finding,
        inspect conf entry = .ok finding →
          agrees entry finding) :
    ∃ findings,
      inspectAll conf entries = .ok findings ∧
        List.Forall₂ agrees entries findings := by
  induction entries with
  | nil => exact ⟨[], rfl, .nil⟩
  | cons entry entries ih =>
      rw [Obscured, List.exists_mem_cons_iff, not_or]
        at hClear
      rw [List.forall_mem_cons] at hTextual hAgrees
      rcases exists_inspect hTextual.1 hClear.1 with
        ⟨finding, hFinding⟩
      have hHead := hAgrees.1 finding hFinding
      rcases ih hTextual.2 hClear.2 hAgrees.2 with
        ⟨findings, hFindings, hRest⟩
      refine ⟨finding :: findings, ?_, .cons hHead hRest⟩
      rw [inspectAll, hFinding, hFindings]
      rfl

/- The check fails at the first entry that is obscured. -/
theorem inspectAll_of_obscured
    {conf : Config}
    {entries : List (String × Reference)}
    (hTextual : ∀ entry ∈ entries, entry.2.Textual)
    (hObscured : Obscured conf entries) :
    inspectAll conf entries = .error .unwritableInteger := by
  induction entries with
  | nil =>
      rcases hObscured with ⟨entry, hEntry, _⟩
      contradiction
  | cons entry entries ih =>
      rw [List.forall_mem_cons] at hTextual
      rw [inspectAll]
      by_cases hFirst : Resource.Obscured conf entry.2
      · rw [inspect_of_obscured hTextual.1 hFirst]
        rfl
      · rw [Obscured, List.exists_mem_cons_iff,
          or_iff_right hFirst] at hObscured
        rcases exists_inspect hTextual.1 hFirst with
          ⟨finding, hFinding⟩
        rw [hFinding, ih hTextual.2 hObscured]
        rfl

/- What is selected is declared with the right factory. -/
theorem mem_select_keyspaces
    {declarations : Declarations}
    {names : List String}
    {entry : String × Reference}
    (hEntry :
      entry ∈ select names (keyspaces declarations)) :
    declarations.get? entry.1 = some entry.2 ∧
      entry.2.factory = some Importer.keyspaceFactoryPath := by
  have hKeyspace := (List.mem_filter.mp hEntry).1
  rcases List.mem_filter.mp hKeyspace with
    ⟨hDeclared, hFactory⟩
  constructor
  · exact
      (Table.mem_entries_iff declarations entry.1
        entry.2).mp hDeclared
  · simpa using hFactory

/- What is selected of a source is textual. -/
theorem textual_of_mem_select
    {declarations : Declarations}
    (hTextual : declarations.Textual)
    (names : List String) :
    ∀ entry ∈ select names (keyspaces declarations),
      entry.2.Textual := by
  intro entry hEntry
  exact
    hTextual entry.1 entry.2 (mem_select_keyspaces hEntry).1

/-
  How the check of entries compares with lookups of their
  names in a context, whatever other names were looked up
  before. There is one finding for each entry, and it agrees
  with the lookup. If an entry is obscured there are none, and
  the lookup of this entry fails.
-/
structure Compares
    (importer : Importer)
    (registry : RegistryId)
    (context : ContextId)
    (loaded : Application)
    (conf : Config)
    (entries : List (String × Reference)) : Prop where
  agrees :
    ¬ Obscured conf entries →
      ∃ findings,
        inspectAll conf entries = .ok findings ∧
          List.Forall₂
            (fun entry finding =>
              ∀ others : List String, entry.1 ∉ others →
                Agrees registry entry.1 finding
                  ((Context.lookup importer context
                      entry.1).perform
                    (Context.lookupAll importer context
                      others loaded)))
            entries findings
  escapes :
    Obscured conf entries →
      inspectAll conf entries = .error .unwritableInteger
  fails :
    ∀ entry ∈ entries, Resource.Obscured conf entry.2 →
      ∀ others : List String, entry.1 ∉ others →
        ∃ after,
          (Context.lookup importer context entry.1).perform
              (Context.lookupAll importer context others
                loaded) =
            (.error .unwritableInteger, after)

/-
  The check of declarations compares like this with lookups of
  them in a new context.
-/
theorem compares_withDeclarations
    {declarations : Declarations}
    {conf : Config}
    {app : Application}
    (hTextual : declarations.Textual)
    (hReadable : Readable conf)
    (hConnects :
      conf.read Setting.connectOnResolve =
        .ok (.bool false))
    (hCreates :
      ∀ count,
        Call.create count ∉ app.fleet.faults.failing)
    (modules : List (String × Importer.Members))
    (names : List String) :
    Compares (Importer.standard.extend modules)
      app.registries.size app.contexts.size
      (withDeclarations app conf declarations) conf
      (select names (keyspaces declarations)) := by
  rcases Importer.find_keyspaceFactory modules with
    ⟨member, hFind, hUsage⟩
  have hEntries := textual_of_mem_select hTextual names
  -- Lookups of other names leave an entry as it was loaded.
  have hAwaits :
      ∀ entry ∈ select names (keyspaces declarations),
        ∀ others : List String, entry.1 ∉ others →
          Context.Awaits app.contexts.size entry.1 entry.2
            app.registries.size conf
            (Context.lookupAll
              (Importer.standard.extend modules)
              app.contexts.size others
              (withDeclarations app conf declarations)) := by
    intro entry hEntry others hOthers
    exact
      Context.awaits_lookupAll
        (Importer.standard.extend modules) hOthers
        (awaits_session hCreates conf
          (mem_select_keyspaces hEntry).1)
  constructor
  case agrees =>
    intro hClear
    apply exists_inspectAll hEntries hClear
    intro entry hEntry finding hFinding others hOthers
    exact
      agrees_of_awaits hReadable hConnects hFind hUsage
        (mem_select_keyspaces hEntry).2
        (hAwaits entry hEntry others hOthers) hFinding
  case escapes =>
    exact inspectAll_of_obscured hEntries
  case fails =>
    intro entry hEntry hObscured others hOthers
    exact
      lookup_of_error hConnects hFind hUsage
        (mem_select_keyspaces hEntry).2
        (hAwaits entry hEntry others hOthers)
        (Resource.ofReference_of_obscured
          (hEntries entry hEntry) hObscured)

/-
  The check of what a source declares compares like this with
  the lookups in a session into which the source was loaded.
-/
theorem agrees_with_lookup
    {read : Value → Except Failure (List UInt8)}
    {source : Declarations.Source}
    {declarations : Declarations}
    {conf : Config}
    {app : Application}
    (hSource :
      Declarations.ofSource read source = .ok declarations)
    (hReadable : Readable conf)
    (hConnects :
      conf.read Setting.connectOnResolve =
        .ok (.bool false))
    (hCreates :
      ∀ count,
        Call.create count ∉ app.fleet.faults.failing)
    (modules : List (String × Importer.Members))
    (names : List String) :
    ∃ registry context loaded,
      (session conf
            (Declarations.ofSource read source)).perform
          app =
          (.ok (registry, context), loaded) ∧
        Compares (Importer.standard.extend modules) registry
          context loaded conf
          (select names (keyspaces declarations)) := by
  rw [hSource]
  exact
    ⟨_, _, _, perform_session app conf declarations,
      compares_withDeclarations
        (Declarations.textual_of_ofSource hSource) hReadable
        hConnects hCreates modules names⟩

namespace Sample

/- A document that declares one keyspace. -/
def document : String :=
  "<Resource name='r' factory='" ++
    Importer.keyspaceFactoryPath ++
    "' hosts='a' clusterName='C' keyspace='K'/>"

/- The document as a source. -/
def source : Declarations.Source :=
  .value (.text document)

/- No file can be read. -/
def read (path : Value) : Except Failure (List UInt8) :=
  .error (.fileNotFound path)

/- The names of the declared keyspaces that can be read. -/
def names : List String :=
  match Declarations.ofSource read source with
  | .ok declarations =>
      ((keyspaces declarations).filter fun entry =>
        (Resource.ofReference .empty entry.2).isOk).map
          Prod.fst
  | .error _ => []

theorem names_eq : names = ["r"] := by
  decide +kernel

/- What is declared is a keyspace that can be read. -/
theorem exists_declarations :
    ∃ declarations reference resource,
      Declarations.ofSource read source = .ok declarations ∧
        ("r", reference) ∈ keyspaces declarations ∧
          Resource.ofReference .empty reference =
            .ok resource := by
  have hNames : "r" ∈ names := by
    rw [names_eq]
    exact List.mem_cons_self
  unfold names at hNames
  cases hSource : Declarations.ofSource read source with
  | error failure =>
      rw [hSource] at hNames
      contradiction
  | ok declarations =>
      rw [hSource] at hNames
      rcases List.mem_map.mp hNames with
        ⟨⟨name, reference⟩, hEntry, rfl⟩
      rcases List.mem_filter.mp hEntry with ⟨hMember, hRead⟩
      cases hResource :
          Resource.ofReference .empty reference with
      | error failure =>
          rw [hResource] at hRead
          exact absurd hRead Bool.false_ne_true
      | ok resource =>
          exact
            ⟨declarations, reference, resource, rfl, hMember,
              hResource⟩

/- A default port that cannot be shown obscures what is. -/
theorem exists_obscured :
    ∃ declarations reference,
      Declarations.ofSource read source = .ok declarations ∧
        ("r", reference) ∈ select [] (keyspaces declarations) ∧
          Resource.Obscured Config.Sample.obscuring
            reference := by
  rcases exists_declarations with
    ⟨declarations, reference, resource, hSource, hEntry,
      hRead⟩
  have hSelected :
      ("r", reference) ∈ select [] (keyspaces declarations) :=
    List.mem_filter.mpr ⟨hEntry, rfl⟩
  have hTextual :=
    textual_of_mem_select
      (Declarations.textual_of_ofSource hSource) [] _ hSelected
  exact
    ⟨declarations, reference, hSource, hSelected,
      Config.Sample.overlong_obscuring,
      Resource.complete_of_ofReference hTextual hRead⟩

end Sample

/- The check of the sample compares with its lookups. -/
theorem agrees_with_lookup_sample :
    ∃ declarations reference,
      Declarations.ofSource Sample.read Sample.source =
          .ok declarations ∧
        ("r", reference) ∈ select [] (keyspaces declarations) ∧
          ∃ registry context loaded,
            (session .empty
                  (Declarations.ofSource Sample.read
                    Sample.source)).perform
                (.start .empty .none) =
                (.ok (registry, context), loaded) ∧
              Compares (Importer.standard.extend []) registry
                context loaded .empty
                (select [] (keyspaces declarations)) := by
  rcases Sample.exists_declarations with
    ⟨declarations, reference, _, hSource, hEntry, _⟩
  have hSelected :
      ("r", reference) ∈ select [] (keyspaces declarations) :=
    List.mem_filter.mpr ⟨hEntry, rfl⟩
  have hReadable : Readable .empty :=
    ⟨⟨_, rfl⟩, ⟨_, rfl⟩, ⟨_, rfl⟩⟩
  exact
    ⟨declarations, reference, hSource, hSelected,
      agrees_with_lookup hSource hReadable rfl
        (fun _ => List.not_mem_nil) [] []⟩

/-
  With a default port that cannot be shown, the lookup of the
  sample fails, and the check does not find it invalid.
-/
theorem not_agrees_obscured :
    let conf := Config.Sample.obscuring
    ∃ declarations reference registry context loaded,
      Declarations.ofSource Sample.read Sample.source =
          .ok declarations ∧
        ("r", reference) ∈ select [] (keyspaces declarations) ∧
          Readable conf ∧
            conf.read Setting.connectOnResolve =
                .ok (.bool false) ∧
              (session conf (.ok declarations)).perform
                  (.start .empty .none) =
                (.ok (registry, context), loaded) ∧
                (∃ failure after,
                  (Context.lookup
                      (Importer.standard.extend []) context
                      "r").perform loaded =
                    (.error failure, after)) ∧
                  ∀ findings,
                    inspectAll conf
                        (select [] (keyspaces declarations)) ≠
                      .ok findings := by
  intro conf
  rcases Sample.exists_obscured with
    ⟨declarations, reference, hSource, hSelected, hObscured⟩
  have hTextual := Declarations.textual_of_ofSource hSource
  have hReadable : Readable conf :=
    ⟨⟨_, rfl⟩, ⟨_, rfl⟩, ⟨_, rfl⟩⟩
  have hCreates :
      ∀ count,
        Call.create count ∉
          (Application.start .empty .none).fleet.faults.failing :=
    fun _ => List.not_mem_nil
  have hCompares :=
    compares_withDeclarations hTextual hReadable rfl hCreates
      [] []
  refine
    ⟨declarations, reference, _, _, _, hSource, hSelected,
      hReadable, rfl, perform_session _ _ _, ?_, ?_⟩
  · exact
      ⟨_,
        hCompares.fails _ hSelected hObscured []
          List.not_mem_nil⟩
  · intro findings hFindings
    rw [hCompares.escapes ⟨_, hSelected, hObscured⟩]
      at hFindings
    cases hFindings

end Check

end Keyspaces
