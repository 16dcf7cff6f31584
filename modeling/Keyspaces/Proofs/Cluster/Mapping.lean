import Keyspaces.Proofs.Cluster.Options

/-
  Which attributes of a reference reach the options of a
  cluster: the hosts, the timeouts, whether connections are
  kept alive, and those for the discovery and the retrying of
  hosts. All other attributes are carried by the configuration
  of the hosts and leave the options of the cluster as they
  are.

  Main declarations:
    * `Config.Suits`
    * `ClusterOptions.mapped`
    * `ClusterOptions.ofConfigurator_congr`
    * `ClusterOptions.mappedNames`
    * `Reference.Supplies`
    * `ClusterOptions.eq_of_agrees`
-/

------------------------------------------------------------
-- Settings of Clusters
------------------------------------------------------------

namespace Keyspaces

namespace Config

/- A setting is not set, or to a value that it accepts. -/
def Suits
    (conf : Config)
    (named : Setting.Named) : Prop :=
  ∀ value, conf.value? named.key = some value →
    ∃ coerced,
      named.setting.coerce value named.key = .ok coerced

/- A setting that suits is read. -/
theorem Suits.exists_read
    {conf : Config}
    {named : Setting.Named}
    (h : conf.Suits named) :
    ∃ value, conf.read named = .ok value := by
  unfold read resolve
  cases hValue : conf.value? named.key with
  | none => exact ⟨_, rfl⟩
  | some value =>
      rcases h value hValue with ⟨coerced, hCoerced⟩
      exact ⟨coerced, hCoerced⟩

end Config

namespace ClusterOptions

/- The settings that the options of a cluster depend on. -/
def settings : List Setting.Named :=
  [Setting.compression, Setting.metricsEnabled,
   Setting.protocolVersion]

/- The options of a cluster exist if its settings suit. -/
theorem exists_of_suits
    {conf settled : Config}
    {reference : Reference}
    {resource : Resource}
    (hSettings : ∀ named ∈ settings, settled.Suits named)
    (hResource :
      Resource.ofReference conf reference = .ok resource) :
    ∃ options,
      ofConfigurator settled resource.configurator =
        .ok options := by
  simp only [settings, List.forall_mem_cons] at hSettings
  rcases hSettings with
    ⟨hCompression, hMetrics, hVersion, _⟩
  exact
    Resource.exists_options hResource
      hCompression.exists_read hMetrics.exists_read
      hVersion.exists_read

end ClusterOptions

end Keyspaces

------------------------------------------------------------
-- Options That Are Mapped
------------------------------------------------------------

namespace Keyspaces

namespace ClusterOptions

/- The options of hosts that those of a cluster depend on. -/
def mapped : List HostOption :=
  [.maxConnectTimeMillis,
   .cassandraThriftSocketTimeout,
   .useSocketKeepalive,
   .autoDiscoverHosts,
   .autoDiscoveryDelayInSeconds,
   .retryDownedHosts,
   .retryDownedHostsDelayInSeconds,
   .retryDownedHostsQueueSize]

variable {first second : Configurator}

/- A policy depends on whether and how hosts are retried. -/
theorem policy_congr
    (hOptions :
      ∀ option ∈ mapped,
        first.option option = second.option option) :
    ReconnectionPolicy.ofConfigurator first =
      ReconnectionPolicy.ofConfigurator second := by
  unfold ReconnectionPolicy.ofConfigurator
  rw [hOptions .retryDownedHosts (by decide),
    hOptions .retryDownedHostsDelayInSeconds (by decide),
    hOptions .retryDownedHostsQueueSize (by decide)]

/-
  The options of a cluster depend on nothing but the hosts and
  the options that are mapped.
-/
theorem ofConfigurator_congr
    (conf : Config)
    (hHosts : first.hosts = second.hosts)
    (hOptions :
      ∀ option ∈ mapped,
        first.option option = second.option option) :
    ofConfigurator conf first = ofConfigurator conf second := by
  have hAddresses : first.addresses = second.addresses := by
    unfold Configurator.addresses
    rw [hHosts]
  unfold ofConfigurator
  rw [policy_congr hOptions, hHosts, hAddresses,
    hOptions .maxConnectTimeMillis (by decide),
    hOptions .cassandraThriftSocketTimeout (by decide),
    hOptions .useSocketKeepalive (by decide),
    hOptions .autoDiscoverHosts (by decide),
    hOptions .autoDiscoveryDelayInSeconds (by decide)]

end ClusterOptions

end Keyspaces

------------------------------------------------------------
-- Attributes That Are Mapped
------------------------------------------------------------

namespace Keyspaces

namespace Resource

variable {conf : Config}
variable {first second : Reference}
variable {resource other : Resource}

/- A required attribute is read from its content. -/
theorem required_congr
    {name : String}
    (h : first.content? name = second.content? name) :
    required first name = required second name := by
  unfold required trimmedContent
  rw [h]

/- Resources with the same text for hosts have the same. -/
theorem hosts_eq_of_content?_eq
    (hFirst : ofReference conf first = .ok resource)
    (hSecond : ofReference conf second = .ok other)
    (hHosts :
      first.content? hostsAttribute =
        second.content? hostsAttribute) :
    resource.configurator.hosts =
      other.configurator.hosts := by
  rcases exists_readAs hFirst with ⟨_, _, _, hRead⟩
  rcases exists_readAs hSecond with ⟨_, _, _, hOther⟩
  have hText := hRead.given
  rw [required_congr hHosts, hOther.given] at hText
  cases hText
  have hPort := hRead.defaultPort
  rw [hOther.defaultPort] at hPort
  cases hPort
  have hParsed := hRead.hosts
  rw [hOther.hosts] at hParsed
  exact (Except.ok.inj hParsed).symm

end Resource

namespace ClusterOptions

/-
  The names of the attributes that the options of a cluster
  depend on.
-/
def mappedNames : List String :=
  ["hosts",
   "maxConnectTimeMillis",
   "cassandraThriftSocketTimeout",
   "useSocketKeepalive",
   "autoDiscoverHosts",
   "autoDiscoveryDelayInSeconds",
   "retryDownedHostDelayInSeconds",
   "retryDownedHostsQueueSize"]

/- The attribute of an option that is mapped is mapped. -/
theorem attribute_mem_mappedNames :
    ∀ option ∈ mapped, ∀ name ∈ option.attribute?,
      name ∈ mappedNames := by
  decide

/- So is the one on which it depends whether it applies. -/
theorem guard_mem_mappedNames :
    ∀ option ∈ mapped, ∀ guard ∈ Resource.guard? option,
      guard.1.name ∈ mappedNames := by
  decide

/- References that agree on names agree on their options. -/
theorem agreesOn_of_mappedNames
    {first second : Reference}
    (hSame :
      ∀ name ∈ mappedNames,
        first.content? name = second.content? name) :
    ∀ option ∈ mapped, first.AgreesOn second option := by
  intro option hOption
  constructor
  · intro name hName
    apply hSame
    exact attribute_mem_mappedNames option hOption name hName
  · intro gate condition hGuard
    apply hSame
    exact guard_mem_mappedNames option hOption _ hGuard

end ClusterOptions

end Keyspaces

------------------------------------------------------------
-- Attributes That Are Carried
------------------------------------------------------------

namespace Keyspaces

namespace Reference

/-
  The attribute of an option applies: the one on which this
  depends, if there is one, meets the condition for it.
-/
def Opens
    (reference : Reference)
    (option : HostOption) : Prop :=
  ∀ gate condition,
    Resource.guard? option = some (gate, condition) →
      ∃ content value,
        reference.Carries gate.name content ∧
          gate.option.coerce gate.name content = .ok value ∧
            condition value = true

/- The attribute of an option applies and is of some value. -/
def Supplies
    (reference : Reference)
    (option : HostOption)
    (value : Value) : Prop :=
  reference.Opens option ∧
    ∃ name content,
      option.attribute? = some name ∧
        reference.Carries name content ∧
          option.coerce name content = .ok value

end Reference

namespace Configurator

/- A configuration carries all that a reference supplies. -/
def Carries
    (configurator : Configurator)
    (reference : Reference) : Prop :=
  ∀ option value, reference.Supplies option value →
    configurator.option option = value

end Configurator

namespace Resource

/- The attribute on which an option depends is of some row. -/
theorem guard_mem_rows (option : HostOption) :
    ∀ guard ∈ guard? option, guard.1 ∈ rows := by
  cases option <;> decide

/- What is supplied for an option is what is yielded. -/
theorem yields_of_supplies
    {reference : Reference}
    {option : HostOption}
    {value : Value}
    (h : reference.Supplies option value) :
    Yields reference option value := by
  rcases h with ⟨hOpens, name, content, hName, hCarries,
    hCoerce⟩
  constructor
  · intro gate condition hGuard
    rcases hOpens gate condition hGuard with
      ⟨own, found, hOwn, hFound, hCondition⟩
    have hRow := guard_mem_rows option _ hGuard
    have hRead :=
      readRow_of_carries (fits_rows gate hRow) hOwn hFound
    exact ⟨found, hRead, hCondition⟩
  · rcases exists_row hName with ⟨row, hRow, rfl, rfl⟩
    have hRead :=
      readRow_of_carries (fits_rows row hRow) hCarries hCoerce
    exact .inl ⟨row, hRow, rfl, hRead⟩

/- A resource carries all that its reference supplies. -/
theorem carries_of_ofReference
    {conf : Config}
    {reference : Reference}
    {resource : Resource}
    (hResource : ofReference conf reference = .ok resource) :
    resource.configurator.Carries reference := by
  rcases exists_readAs hResource with ⟨_, _, _, hRead⟩
  intro option value hSupplies
  exact hRead.option_eq_of_yields (yields_of_supplies hSupplies)

end Resource

end Keyspaces

------------------------------------------------------------
-- Options of Clusters
------------------------------------------------------------

namespace Keyspaces

namespace ClusterOptions

/-
  All that two references supply is carried by the resources
  that are read from them. The options of both clusters exist
  and are the same if the references agree on the attributes
  that are mapped.
-/
theorem eq_of_agrees
    {conf : Config}
    {first second : Reference}
    {resource other : Resource}
    (hSettings : ∀ named ∈ settings, conf.Suits named)
    (hFirst :
      Resource.parse conf first.toValue = .ok resource)
    (hSecond :
      Resource.parse conf second.toValue = .ok other) :
    resource.configurator.Carries first ∧
      other.configurator.Carries second ∧
        ∃ options found,
          ofConfigurator conf resource.configurator =
              .ok options ∧
            ofConfigurator conf other.configurator =
                .ok found ∧
              ((∀ name ∈ mappedNames,
                  first.content? name =
                    second.content? name) →
                options = found) := by
  have hRead :
      Resource.ofReference conf first = .ok resource :=
    hFirst
  have hOther :
      Resource.ofReference conf second = .ok other :=
    hSecond
  rcases exists_of_suits hSettings hRead with
    ⟨options, hOptions⟩
  rcases exists_of_suits hSettings hOther with
    ⟨found, hFound⟩
  refine
    ⟨Resource.carries_of_ofReference hRead,
      Resource.carries_of_ofReference hOther,
      options, found, hOptions, hFound, ?_⟩
  intro hSame
  have hHosts :=
    Resource.hosts_eq_of_content?_eq hRead hOther
      (hSame _ (by decide))
  have hMapped :
      ∀ option ∈ mapped,
        resource.configurator.option option =
          other.configurator.option option := by
    intro option hOption
    exact
      Resource.option_eq_of_agreesOn hRead hOther
        (agreesOn_of_mappedNames hSame option hOption)
  rw [ofConfigurator_congr conf hHosts hMapped, hFound]
    at hOptions
  exact (Except.ok.inj hOptions).symm

namespace Sample

/- A reference with a delay and some number of connections. -/
def reference (connections : String) : Reference :=
  ⟨none, none,
    [("hosts", .text "a, b:1"),
     ("clusterName", .text "C"),
     ("keyspace", .text "K"),
     ("retryDownedHostDelayInSeconds", .text "30"),
     ("maxActive", .text connections)]⟩

end Sample

/-
  The number of connections is carried, and the options of the
  cluster are the same for any number.
-/
theorem eq_of_agrees_sample :
    ∃ resource other options,
      Resource.parse .empty (Sample.reference "5").toValue =
          .ok resource ∧
        Resource.parse .empty
              (Sample.reference "7").toValue =
            .ok other ∧
          resource.configurator.option .maxActive = .int 5 ∧
            other.configurator.option .maxActive = .int 7 ∧
              ofConfigurator .empty resource.configurator =
                  .ok options ∧
                ofConfigurator .empty other.configurator =
                  .ok options := by
  have hSuits : ∀ named ∈ settings,
      Config.empty.Suits named := by
    intro named _ value hValue
    contradiction
  have hRead :
      ∃ resource other,
        Resource.parse .empty
            (Sample.reference "5").toValue =
          .ok resource ∧
        Resource.parse .empty
            (Sample.reference "7").toValue =
          .ok other ∧
        resource.configurator.option .maxActive = .int 5 ∧
        other.configurator.option .maxActive = .int 7 :=
    ⟨_, _, rfl, rfl, rfl, rfl⟩
  rcases hRead with
    ⟨resource, other, hFirst, hSecond, hFive, hSeven⟩
  rcases eq_of_agrees hSuits hFirst hSecond with
    ⟨_, _, options, found, hOptions, hFound, hEqual⟩
  have hSame : ∀ name ∈ mappedNames,
      (Sample.reference "5").content? name =
        (Sample.reference "7").content? name := by
    simp only [mappedNames, List.forall_mem_cons]
    exact
      ⟨rfl, rfl, rfl, rfl, rfl, rfl, rfl, rfl, by simp⟩
  rw [← hEqual hSame] at hFound
  exact
    ⟨resource, other, options, hFirst, hSecond, hFive, hSeven,
      hOptions, hFound⟩

end ClusterOptions

end Keyspaces
