import Keyspaces.Proofs.Host
import Keyspaces.Proofs.Resource.Reading

/-
  Which references describe a keyspace resource, and what they
  describe: the trimmed names, the hosts, and the value of
  every option.

  Main declarations:
    * `Reference.Gives`
    * `Resource.Acceptable`
    * `Resource.Describes`
    * `Resource.ofReference_eq_ok_iff`
    * `Resource.Obscured`
    * `Resource.parse_specification`
    * `Reference.clusterName?`
    * `Resource.clusterName?_of_parse`
-/

------------------------------------------------------------
-- Required Attributes
------------------------------------------------------------

namespace Keyspaces

namespace Reference

/- The trimmed text of an attribute, which is not empty. -/
def Gives
    (reference : Reference)
    (name text : String) : Prop :=
  text ≠ "" ∧
    ∃ s, reference.Carries name (.text s) ∧
      Text.trim s = text

/- An attribute gives one text only. -/
theorem Gives.unique
    {reference : Reference}
    {name text other : String}
    (hText : reference.Gives name text)
    (hOther : reference.Gives name other) :
    text = other := by
  rcases hText with ⟨_, s, hCarries, rfl⟩
  rcases hOther with ⟨_, t, hRead, rfl⟩
  have hSame := hCarries.unique hRead
  cases hSame
  rfl

end Reference

namespace Resource

variable {reference : Reference}

/- A text or nothing has a text. -/
theorem failsAs_trimmedContent
    (hTextual : reference.Textual)
    (kinds : Failure.Kind → Prop)
    (name : String) :
    Outcome.FailsAs kinds (trimmedContent reference name) := by
  unfold trimmedContent
  cases hContent : reference.content? name with
  | none => exact .ok ""
  | some content =>
      have hCarries :=
        (Reference.content?_eq_some_iff reference name
          content).mp hContent
      rcases hTextual.carries hCarries with ⟨s, rfl⟩
      exact .ok _

/- A required attribute is read as the text that it gives. -/
theorem required_eq_ok_iff
    (hTextual : reference.Textual)
    (name text : String) :
    required reference name = .ok text ↔
      reference.Gives name text := by
  unfold required trimmedContent Reference.Gives
  cases hContent : reference.content? name with
  | none =>
      have hNone :=
        (Reference.content?_eq_none_iff reference
          name).mp hContent
      refine iff_of_false (fun hText => nomatch hText) ?_
      rintro ⟨_, s, hCarries, _⟩
      exact hNone _ hCarries
  | some content =>
      have hCarries :=
        (Reference.content?_eq_some_iff reference name
          content).mp hContent
      rcases hTextual.carries hCarries with ⟨s, rfl⟩
      have hText :
          (Value.text s).toText.map Text.trim =
            .ok (Text.trim s) :=
        rfl
      simp only [hText, bind, Except.bind,
        String.isEmpty_iff]
      split
      case isTrue hBlank =>
        refine iff_of_false (by simp) ?_
        rintro ⟨hText, t, hOther, rfl⟩
        cases hCarries.unique hOther
        exact hText hBlank
      case isFalse hText =>
        constructor
        · intro hSame
          cases hSame
          exact ⟨hText, s, hCarries, rfl⟩
        · rintro ⟨_, t, hOther, rfl⟩
          cases hCarries.unique hOther
          rfl

end Resource

end Keyspaces

------------------------------------------------------------
-- Descriptions
------------------------------------------------------------

namespace Keyspaces

namespace Resource

/-
  A reference describes a resource: its names are given, each
  attribute that applies is accepted, and its hosts can be
  parsed with the default port.
-/
structure Acceptable
    (conf : Config)
    (reference : Reference) : Prop where
  clusterName : ∃ text, reference.Gives "clusterName" text
  keyspaceName : ∃ text, reference.Gives "keyspace" text
  options : ∀ option, reference.Accepts option
  hosts :
    ∃ text port hosts,
      reference.Gives "hosts" text ∧
        conf.read Setting.defaultPort = .ok port ∧
          Host.parseAll (.text text) port = .ok hosts

/-
  The resource that a reference describes. An option that the
  attributes do not determine has its default.
-/
structure Describes
    (conf : Config)
    (reference : Reference)
    (resource : Resource) : Prop where
  clusterName :
    reference.Gives "clusterName" resource.clusterName
  keyspaceName :
    reference.Gives "keyspace" resource.keyspaceName
  hosts :
    ∃ text port,
      reference.Gives "hosts" text ∧
        conf.read Setting.defaultPort = .ok port ∧
          Host.parseAll (.text text) port =
            .ok resource.configurator.hosts
  determined :
    ∀ option value, reference.Determines option value →
      resource.configurator.option option = value
  undetermined :
    ∀ option,
      (∀ value, ¬ reference.Determines option value) →
        resource.configurator.option option =
          option.default

variable {conf : Config}
variable {reference : Reference}

/- A reference describes one resource only. -/
theorem Describes.unique
    {resource other : Resource}
    (hResource : Describes conf reference resource)
    (hOther : Describes conf reference other) :
    resource = other := by
  have hCluster :=
    hResource.clusterName.unique hOther.clusterName
  have hKeyspace :=
    hResource.keyspaceName.unique hOther.keyspaceName
  have hHosts :
      resource.configurator.hosts =
        other.configurator.hosts := by
    rcases hResource.hosts with
      ⟨text, port, hText, hPort, hParsed⟩
    rcases hOther.hosts with
      ⟨found, read, hFound, hRead, hHosts⟩
    cases hText.unique hFound
    rw [hPort] at hRead
    cases hRead
    rw [hParsed] at hHosts
    exact Except.ok.inj hHosts
  have hOption :
      resource.configurator.option =
        other.configurator.option := by
    funext option
    by_cases hDetermined :
        ∃ value, reference.Determines option value
    · rcases hDetermined with ⟨value, hValue⟩
      rw [hResource.determined option value hValue,
        hOther.determined option value hValue]
    · rw [not_exists] at hDetermined
      rw [hResource.undetermined option hDetermined,
        hOther.undetermined option hDetermined]
  rcases resource with ⟨_, _, ⟨_, _⟩⟩
  rcases other with ⟨_, _, ⟨_, _⟩⟩
  cases hCluster
  cases hKeyspace
  cases hHosts
  cases hOption
  rfl

------------------------------------------------------------
-- Reading References
------------------------------------------------------------

/- What is read from a reference is what it describes. -/
theorem describes_of_ofReference
    (hTextual : reference.Textual)
    {resource : Resource}
    (hResource : ofReference conf reference = .ok resource) :
    Acceptable conf reference ∧
      Describes conf reference resource := by
  rcases exists_readAs hResource with
    ⟨_, _, options, hReadAs⟩
  have hYields :=
    yields_iff_determines hTextual hReadAs.entries
  simp only [ofReference, Outcome.bind_eq_ok_iff,
    required_eq_ok_iff hTextual] at hResource
  rcases hResource with ⟨text, hText, clusterName, hCluster,
    keyspaceName, hKeyspace, options, hOptions, port, hPort,
    hosts, hHosts, hSame⟩
  cases hSame
  have hParsed :
      Host.parseAll (.text text) port =
        .ok
          ((Configurator.ofHosts hosts).setAll
            options).hosts := by
    rw [Configurator.hosts_setAll]
    exact hHosts
  constructor
  · exact
      { clusterName := ⟨clusterName, hCluster⟩
        keyspaceName := ⟨keyspaceName, hKeyspace⟩
        options :=
          (exists_optionsOf_iff hTextual).mp
            ⟨options, hOptions⟩
        hosts := ⟨text, port, hosts, hText, hPort, hHosts⟩ }
  · constructor
    case clusterName => exact hCluster
    case keyspaceName => exact hKeyspace
    case hosts => exact ⟨text, port, hText, hPort, hParsed⟩
    case determined =>
      intro option value hValue
      apply hReadAs.option_eq_of_yields
      exact (hYields option value).mpr hValue
    case undetermined =>
      intro option hNone
      apply hReadAs.option_eq_default
      intro value hValue
      exact hNone value ((hYields option value).mp hValue)

/- A reference that is acceptable is read. -/
theorem exists_ofReference
    (hTextual : reference.Textual)
    (hAcceptable : Acceptable conf reference) :
    ∃ resource, ofReference conf reference = .ok resource := by
  rcases hAcceptable.clusterName with ⟨clusterName, hCluster⟩
  rcases hAcceptable.keyspaceName with
    ⟨keyspaceName, hKeyspace⟩
  rcases hAcceptable.hosts with
    ⟨text, port, hosts, hText, hPort, hHosts⟩
  rcases (exists_optionsOf_iff hTextual).mpr
      hAcceptable.options with
    ⟨options, hOptions⟩
  simp only [ofReference, Outcome.bind_eq_ok_iff,
    required_eq_ok_iff hTextual]
  exact
    ⟨_, text, hText, clusterName, hCluster, keyspaceName,
      hKeyspace, options, hOptions, port, hPort, hosts,
      hHosts, rfl⟩

/- Reading a reference answers with what it describes. -/
theorem ofReference_eq_ok_iff
    (hTextual : reference.Textual)
    (resource : Resource) :
    ofReference conf reference = .ok resource ↔
      Acceptable conf reference ∧
        Describes conf reference resource := by
  constructor
  · exact describes_of_ofReference hTextual
  · rintro ⟨hAcceptable, hDescribes⟩
    rcases exists_ofReference hTextual hAcceptable with
      ⟨found, hFound⟩
    have hRead := describes_of_ofReference hTextual hFound
    rw [hFound, hRead.2.unique hDescribes]

/- What is parsed is a reference, which is then read. -/
theorem parse_eq_ok_iff
    {value : Value}
    {resource : Resource} :
    parse conf value = .ok resource ↔
      ∃ reference, value.reference? = some reference ∧
        ofReference conf reference = .ok resource := by
  unfold parse expectReference
  cases value.reference? <;> simp [bind, Except.bind]

end Resource

end Keyspaces

------------------------------------------------------------
-- Refused References
------------------------------------------------------------

namespace Keyspaces

namespace Resource

open Outcome

variable {conf : Config}
variable {reference : Reference}

theorem failsAs_required
    (hTextual : reference.Textual)
    (name : String) :
    FailsAs (· = .configuration)
      (required reference name) := by
  refine .bind (failsAs_trimmedContent hTextual _ name) ?_
  intro content _
  split
  · exact .error rfl
  · exact .ok _

theorem failsAs_readRow
    (hTextual : reference.Textual)
    (row : Row) :
    FailsAs (· = .configuration)
      (readRow reference row) := by
  unfold readRow
  cases hContent : reference.content? row.name with
  | none => exact .ok none
  | some content =>
      have hCarries :=
        (Reference.content?_eq_some_iff reference row.name
          content).mp hContent
      rcases hTextual.carries hCarries with ⟨s, rfl⟩
      exact .map some (Setting.failsAs_coerce _ _ rfl _)

theorem failsAs_readRows
    (hTextual : reference.Textual)
    (rows : List Row) :
    FailsAs (· = .configuration)
      (readRows reference rows) := by
  induction rows with
  | nil => exact .ok []
  | cons row rows ih =>
      refine .bind (failsAs_readRow hTextual row) ?_
      intro read _
      refine .bind ih ?_
      intro options _
      exact .ok _

theorem failsAs_readGated
    (hTextual : reference.Textual)
    (gate : Row)
    (rows : List Row) :
    FailsAs (· = .configuration)
      (readGated reference gate rows) := by
  refine .bind (failsAs_readRow hTextual gate) ?_
  intro read _
  cases read with
  | none => exact .ok []
  | some value =>
      dsimp only
      split
      · refine .bind (failsAs_readRows hTextual rows) ?_
        intro options _
        exact .ok _
      · exact .ok _

theorem failsAs_readRetry (hTextual : reference.Textual) :
    FailsAs (· = .configuration) (readRetry reference) := by
  refine .bind (failsAs_readRow hTextual delayRow) ?_
  intro read _
  cases read with
  | none => exact .ok []
  | some delay =>
      refine .bind (failsAs_readRows hTextual _) ?_
      intro queue _
      exact .ok _

/- An attribute is refused as a fault in the configuration. -/
theorem failsAs_optionsOf (hTextual : reference.Textual) :
    FailsAs (· = .configuration) (optionsOf reference) := by
  refine .bind (failsAs_readRows hTextual _) ?_
  intro plain _
  refine .bind (failsAs_readGated hTextual _ _) ?_
  intro discovery _
  refine .bind (failsAs_readGated hTextual _ _) ?_
  intro tracker _
  refine .bind (failsAs_readRetry hTextual) ?_
  intro retry _
  exact .ok _

/-
  All that a reference says is accepted, before its hosts are
  parsed with the default port.
-/
structure Complete (reference : Reference) : Prop where
  hosts : ∃ text, reference.Gives "hosts" text
  clusterName : ∃ text, reference.Gives "clusterName" text
  keyspaceName : ∃ text, reference.Gives "keyspace" text
  options : ∀ option, reference.Accepts option

/- A reference that is read is complete. -/
theorem complete_of_ofReference
    (hTextual : reference.Textual)
    {resource : Resource}
    (hResource : ofReference conf reference = .ok resource) :
    Complete reference := by
  rcases (describes_of_ofReference hTextual hResource).1 with
    ⟨hCluster, hKeyspace, hOptions, text, _, _, hText, _⟩
  exact ⟨⟨text, hText⟩, hCluster, hKeyspace, hOptions⟩

/-
  The default port is asked for, to parse the hosts of a
  reference with, and what is there cannot be shown.
-/
structure Obscured
    (conf : Config)
    (reference : Reference) : Prop where
  overlong : conf.Overlong Setting.defaultPort.key
  complete : Complete reference

/-
  A reference is refused as a fault in the configuration,
  unless there is a default port that cannot be shown.
-/
theorem failsAs_ofReference
    (hTextual : reference.Textual)
    (hClear : ¬ Obscured conf reference) :
    FailsAs (· = .configuration)
      (ofReference conf reference) := by
  refine .bind (failsAs_required hTextual _) ?_
  intro text hText
  refine .bind (failsAs_required hTextual _) ?_
  intro clusterName hCluster
  refine .bind (failsAs_required hTextual _) ?_
  intro keyspaceName hKeyspace
  refine .bind (failsAs_optionsOf hTextual) ?_
  intro options hOptions
  simp only [required_eq_ok_iff hTextual]
    at hText hCluster hKeyspace
  have hComplete : Complete reference :=
    { hosts := ⟨text, hText⟩
      clusterName := ⟨clusterName, hCluster⟩
      keyspaceName := ⟨keyspaceName, hKeyspace⟩
      options :=
        (exists_optionsOf_iff hTextual).mp
          ⟨options, hOptions⟩ }
  have hShown : ¬ conf.Overlong Setting.defaultPort.key :=
    fun hOverlong => hClear ⟨hOverlong, hComplete⟩
  refine .bind (Config.failsAs_read hShown _ _) ?_
  intro port hPort
  rcases Config.read_defaultPort hPort with ⟨n, rfl⟩
  refine .bind (Host.failsAs_parseAll text n) ?_
  intro hosts _
  exact .ok _

/-
  A default port that cannot be shown is not reported as a
  fault in the configuration.
-/
theorem ofReference_of_obscured
    (hTextual : reference.Textual)
    (hObscured : Obscured conf reference) :
    ofReference conf reference = .error .unwritableInteger := by
  rcases hObscured with ⟨hOverlong, hComplete⟩
  rcases hComplete.hosts with ⟨text, hText⟩
  rcases hComplete.clusterName with ⟨clusterName, hCluster⟩
  rcases hComplete.keyspaceName with
    ⟨keyspaceName, hKeyspace⟩
  rcases (exists_optionsOf_iff hTextual).mpr
      hComplete.options with
    ⟨options, hOptions⟩
  rw [← required_eq_ok_iff hTextual]
    at hText hCluster hKeyspace
  have hPort :
      conf.read Setting.defaultPort =
        .error .unwritableInteger :=
    Config.read_of_overlong hOverlong (by decide) _
  unfold ofReference
  rw [hostsAttribute, clusterAttribute, keyspaceAttribute,
    hText, hCluster, hKeyspace, hOptions, hPort]
  rfl

end Resource

end Keyspaces

------------------------------------------------------------
-- The Specification
------------------------------------------------------------

namespace Keyspaces

namespace Resource

/-
  Reading a reference succeeds exactly when it is acceptable,
  answers with the resource that it describes, and fails as a
  fault in the configuration. Only a default port that cannot
  be shown is reported otherwise.
-/
theorem parse_specification
    (conf : Config)
    {reference : Reference}
    (hTextual : reference.Textual) :
    ((∃ resource,
          parse conf reference.toValue = .ok resource) ↔
        Acceptable conf reference) ∧
      (∀ resource,
        parse conf reference.toValue = .ok resource ↔
          Acceptable conf reference ∧
            Describes conf reference resource) ∧
        (¬ Obscured conf reference →
          ∀ failure,
            parse conf reference.toValue = .error failure →
              failure.kind = .configuration) ∧
          (Obscured conf reference →
            parse conf reference.toValue =
              .error .unwritableInteger) := by
  have hParse :
      parse conf reference.toValue =
        ofReference conf reference :=
    rfl
  rw [hParse]
  refine
    ⟨?_, ofReference_eq_ok_iff hTextual,
      failsAs_ofReference hTextual,
      ofReference_of_obscured hTextual⟩
  constructor
  · rintro ⟨resource, hResource⟩
    exact (describes_of_ofReference hTextual hResource).1
  · exact exists_ofReference hTextual

namespace Sample

/-
  A reference with a malformed attribute that does not apply,
  and with a delay that disables the retrying of hosts.
-/
def reference : Reference :=
  ⟨none, none,
    [("hosts", .text " a, b:1 "),
     ("clusterName", .text " C "),
     ("keyspace", .text "K"),
     ("lifo", .null),
     ("autoDiscoverHosts", .text "false"),
     ("runAutoDiscoveryAtStartup", .text "maybe"),
     ("retryDownedHostDelayInSeconds", .text "0")]⟩

end Sample

/- The sample is acceptable. -/
theorem acceptable_sample :
    Sample.reference.Textual ∧
      Acceptable .empty Sample.reference := by
  have hTextual : Sample.reference.Textual := by
    simp [Reference.Textual, Sample.reference]
  exact
    ⟨hTextual,
      (parse_specification .empty hTextual).1.mp ⟨_, rfl⟩⟩

end Resource

end Keyspaces

------------------------------------------------------------
-- The Cluster That Is Named
------------------------------------------------------------

namespace Keyspaces

/-
  The trimmed text of the attribute with the name of the
  cluster.
-/
def Reference.clusterName?
    (reference : Reference) : Option String :=
  (reference.content? "clusterName").map fun content =>
    Text.trim content.plain

/- The name of the cluster in a value that is a reference. -/
def Value.clusterName? (value : Value) : Option String :=
  value.reference?.bind Reference.clusterName?

namespace Resource

/- A required attribute is read as its trimmed content. -/
theorem content?_of_required
    {reference : Reference}
    {name text : String}
    (h : required reference name = .ok text) :
    (reference.content? name).map
        (fun content => Text.trim content.plain) =
      some text := by
  rw [required, Outcome.bind_eq_ok_iff] at h
  rcases h with ⟨trimmed, hTrimmed, h⟩
  split at h
  case isTrue => contradiction
  case isFalse hFilled =>
    cases h
    unfold trimmedContent at hTrimmed
    cases hContent : reference.content? name with
    | none =>
        rw [hContent] at hTrimmed
        cases hTrimmed
        exact absurd rfl hFilled
    | some content =>
        rw [hContent] at hTrimmed
        unfold Value.toText Failure.writing at hTrimmed
        dsimp only at hTrimmed
        split at hTrimmed
        · cases hTrimmed
          rfl
        · contradiction

/- The cluster of a resource is the one that is named. -/
theorem clusterName?_of_ofReference
    {conf : Config}
    {reference : Reference}
    {resource : Resource}
    (h : ofReference conf reference = .ok resource) :
    reference.clusterName? = some resource.clusterName := by
  simp only [ofReference, Outcome.bind_eq_ok_iff] at h
  rcases h with
    ⟨_, _, clusterName, hCluster, _, _, _, _, _, _, _, _, h⟩
  cases h
  exact content?_of_required hCluster

/- So is the cluster of what is parsed. -/
theorem clusterName?_of_parse
    {conf : Config}
    {value : Value}
    {resource : Resource}
    (h : parse conf value = .ok resource) :
    value.clusterName? = some resource.clusterName := by
  rcases parse_eq_ok_iff.mp h with
    ⟨reference, hValue, hResource⟩
  rw [Value.clusterName?, hValue]
  exact clusterName?_of_ofReference hResource

end Resource

end Keyspaces
