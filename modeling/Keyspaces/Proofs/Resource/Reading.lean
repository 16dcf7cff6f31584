import Keyspaces.Proofs.Resource.Options

/-
  How a resource is read from a reference, whatever the kinds
  of its contents: which value each option is given, and which
  attributes this value depends on.

  Main declarations:
    * `Resource.ReadAs`
    * `Resource.exists_readAs`
    * `Resource.Yields`
    * `Resource.mem_optionsOf_iff_yields`
    * `HostOption.Admits`
    * `Resource.ReadAs.admits`
    * `Reference.AgreesOn`
    * `Resource.option_eq_of_agreesOn`
-/

------------------------------------------------------------
-- How a Resource Is Read
------------------------------------------------------------

namespace Keyspaces

namespace Resource

/-
  A resource is read from a reference as the text of its hosts,
  the default port and the entries of its options.
-/
structure ReadAs
    (conf : Config)
    (reference : Reference)
    (resource : Resource)
    (text : String)
    (port : Value)
    (options : List (HostOption × Value)) : Prop where
  given : required reference hostsAttribute = .ok text
  defaultPort : conf.read Setting.defaultPort = .ok port
  hosts :
    Host.parseAll (.text text) port =
      .ok resource.configurator.hosts
  entries : optionsOf reference = .ok options
  option :
    ∀ option,
      resource.configurator.option option =
        (Entries.last? option options).getD option.default

/- A resource that is read was read in this way. -/
theorem exists_readAs
    {conf : Config}
    {reference : Reference}
    {resource : Resource}
    (h : ofReference conf reference = .ok resource) :
    ∃ text port options,
      ReadAs conf reference resource text port options := by
  simp only [ofReference, Outcome.bind_eq_ok_iff] at h
  rcases h with ⟨text, hText, _, _, _, _, options, hOptions,
    port, hPort, hosts, hHosts, hSame⟩
  cases hSame
  refine ⟨text, port, options, hText, hPort, ?_, hOptions, ?_⟩
  · rwa [Configurator.hosts_setAll]
  · exact Configurator.option_setAll_eq _ options

end Resource

end Keyspaces

------------------------------------------------------------
-- Entries of Groups
------------------------------------------------------------

namespace Keyspaces

namespace Resource

variable {reference : Reference}
variable {gate : Row}
variable {rows : List Row}
variable {options : List (HostOption × Value)}

/- A value is read from the row of an option. -/
def IsRead
    (reference : Reference)
    (rows : List Row)
    (option : HostOption)
    (value : Value) : Prop :=
  ∃ row ∈ rows,
    row.option = option ∧
      readRow reference row = .ok (some value)

/- A value that meets a condition is read from a row. -/
def Passes
    (reference : Reference)
    (gate : Row)
    (condition : Value → Bool) : Prop :=
  ∃ value,
    readRow reference gate = .ok (some value) ∧
      condition value = true

/- The entry of a single row is what is read from it. -/
theorem isRead_singleton_iff
    {row : Row}
    {read : Option Value}
    (hRead : readRow reference row = .ok read)
    (option : HostOption)
    (value : Value) :
    IsRead reference [row] option value ↔
      (option, value) ∈
        (read.map fun value => (row.option, value)).toList := by
  unfold IsRead
  simp only [List.mem_singleton, exists_eq_left, hRead,
    Option.mem_toList, Option.map_eq_some_iff, Prod.mk.injEq,
    Except.ok.injEq]
  constructor
  · rintro ⟨rfl, rfl⟩
    exact ⟨value, rfl, rfl, rfl⟩
  · rintro ⟨_, rfl, rfl, rfl⟩
    exact ⟨rfl, rfl⟩

/- A row is read alone or among others. -/
theorem isRead_cons_iff
    (row : Row)
    (rows : List Row)
    (option : HostOption)
    (value : Value) :
    IsRead reference (row :: rows) option value ↔
      IsRead reference [row] option value ∨
        IsRead reference rows option value := by
  simp [IsRead]

/- The entries of rows are those that are read from them. -/
theorem mem_readRows_iff
    (hOptions : readRows reference rows = .ok options)
    (option : HostOption)
    (value : Value) :
    (option, value) ∈ options ↔
      IsRead reference rows option value := by
  induction rows generalizing options with
  | nil =>
      cases hOptions
      simp [IsRead]
  | cons row rows ih =>
      simp only [readRows, Outcome.bind_eq_ok_iff] at hOptions
      rcases hOptions with ⟨read, hRead, rest, hRest, hSame⟩
      have hSplit :
          options =
            (read.map
              fun value => (row.option, value)).toList ++
                rest := by
        cases hSame
        cases read <;> rfl
      rw [hSplit, List.mem_append, isRead_cons_iff,
        isRead_singleton_iff hRead, ih hRest]

/-
  The entries of a gate and its rows are what is read from the
  gate and, if it is open, from the rows.
-/
theorem mem_readGated_iff
    (hOptions : readGated reference gate rows = .ok options)
    (option : HostOption)
    (value : Value) :
    (option, value) ∈ options ↔
      IsRead reference [gate] option value ∨
        Passes reference gate Value.isTruthy ∧
          IsRead reference rows option value := by
  cases hRead : readRow reference gate with
  | error failure =>
      rw [readGated, hRead] at hOptions
      contradiction
  | ok read =>
      have hPasses :
          Passes reference gate Value.isTruthy ↔
            read.any Value.isTruthy = true := by
        unfold Passes
        cases read <;> simp [hRead]
      rw [readGated_eq hRead] at hOptions
      rw [isRead_singleton_iff hRead, hPasses]
      by_cases hOpen : read.any Value.isTruthy = true
      · simp only [hOpen, if_true, Outcome.map_eq_ok_iff]
          at hOptions
        rcases hOptions with ⟨rest, hRest, rfl⟩
        rw [List.mem_append, mem_readRows_iff hRest]
        simp [hOpen]
      · simp only [hOpen] at hOptions
        cases hOptions
        simp [hOpen]

/-
  The entries about the retrying of hosts are what is read from
  the delay and, if there is one, from the queue, and that
  hosts are not retried if the delay is too short.
-/
theorem mem_readRetry_iff
    (hOptions : readRetry reference = .ok options)
    (option : HostOption)
    (value : Value) :
    (option, value) ∈ options ↔
      IsRead reference [delayRow] option value ∨
        (Passes reference delayRow fun _ => true) ∧
            IsRead reference [queueRow] option value ∨
          Passes reference delayRow disablesRetry ∧
            option = .retryDownedHosts ∧
              value = .bool false := by
  rw [readRetry, Outcome.bind_eq_ok_iff] at hOptions
  rcases hOptions with ⟨read, hRead, hRest⟩
  rw [isRead_singleton_iff hRead]
  cases read with
  | none =>
      cases hRest
      simp [Passes, hRead]
  | some delay =>
      simp only [Outcome.bind_eq_ok_iff] at hRest
      rcases hRest with ⟨queue, hQueue, hSame⟩
      cases hSame
      rw [← mem_readRows_iff hQueue]
      by_cases hShort : disablesRetry delay = true
      · simp [Passes, hRead, hShort, or_comm]
      · simp [Passes, hRead, hShort]

end Resource

end Keyspaces

------------------------------------------------------------
-- What Options Are Given
------------------------------------------------------------

namespace Keyspaces

namespace Resource

/- All rows. -/
def rows : List Row :=
  plainRows ++ discoveryRow :: discoveryRows ++
    trackerRow :: trackerRows ++ [delayRow, queueRow]

/-
  The row, and the condition on what is read from it, on which
  it depends whether an option is given a value.
-/
def guard? : HostOption → Option (Row × (Value → Bool))
| .runAutoDiscoveryAtStartup
| .autoDiscoveryDelayInSeconds =>
    some (discoveryRow, Value.isTruthy)
| .hostTimeoutCounter
| .hostTimeoutSuspensionDurationInSeconds
| .hostTimeoutUnsuspendCheckDelay
| .hostTimeoutWindow => some (trackerRow, Value.isTruthy)
| .retryDownedHostsQueueSize =>
    some (delayRow, fun _ => true)
| .retryDownedHosts => some (delayRow, disablesRetry)
| _ => none

/-
  A reference yields a value for an option: what is read from
  the row of the option, or that hosts are not retried.
-/
structure Yields
    (reference : Reference)
    (option : HostOption)
    (value : Value) : Prop where
  passes :
    ∀ gate condition,
      guard? option = some (gate, condition) →
        Passes reference gate condition
  read :
    IsRead reference rows option value ∨
      option = .retryDownedHosts ∧ value = .bool false

variable {reference : Reference}

theorem fits_rows : ∀ row ∈ rows, row.Fits := by
  decide

/- No row is about whether hosts are retried. -/
theorem option_ne_retry :
    ∀ row ∈ rows, row.option ≠ .retryDownedHosts := by
  decide

/- The row of an option is unique. -/
theorem eq_of_option_eq
    {row other : Row}
    (hFits : row.Fits)
    (hOther : other.Fits)
    (hSame : row.option = other.option) : row = other := by
  rcases row with ⟨name, option, domain⟩
  rcases other with ⟨found, _, _⟩
  cases hSame
  rcases hFits with ⟨hName, hDomain⟩
  rcases hOther with ⟨hFound, hFoundDomain⟩
  cases hName.symm.trans hFound
  cases hDomain.trans hFoundDomain.symm
  rfl

/- The rows of a group have one guard, or none of them has. -/
def HaveGuard
    (group : List Row)
    (guard : Option (Row × (Value → Bool))) : Prop :=
  group ⊆ rows ∧ ∀ row ∈ group, guard? row.option = guard

theorem haveGuard_plainRows : HaveGuard plainRows none := by
  refine ⟨by decide, ?_⟩
  simp only [plainRows, List.forall_mem_cons]
  exact
    ⟨rfl, rfl, rfl, rfl, rfl, rfl, rfl, rfl, rfl, by simp⟩

theorem haveGuard_discoveryRows :
    HaveGuard discoveryRows
      (some (discoveryRow, Value.isTruthy)) := by
  refine ⟨by decide, ?_⟩
  simp only [discoveryRows, List.forall_mem_cons]
  exact ⟨rfl, rfl, by simp⟩

theorem haveGuard_trackerRows :
    HaveGuard trackerRows
      (some (trackerRow, Value.isTruthy)) := by
  refine ⟨by decide, ?_⟩
  simp only [trackerRows, List.forall_mem_cons]
  exact ⟨rfl, rfl, rfl, rfl, by simp⟩

/- A single row has the guard of its option. -/
theorem haveGuard_singleton
    {row : Row}
    (hRow : row ∈ rows) :
    HaveGuard [row] (guard? row.option) := by
  constructor
  · simpa using hRow
  · simp

variable {group : List Row}
variable {gate : Row}
variable {condition : Value → Bool}
variable {option : HostOption}
variable {value : Value}

/- What is read from rows without a guard is yielded. -/
theorem HaveGuard.yields_of_none
    (h : HaveGuard group none)
    (hRead : IsRead reference group option value) :
    Yields reference option value := by
  rcases hRead with ⟨row, hRow, rfl, hRead⟩
  refine ⟨?_, .inl ⟨row, h.1 hRow, rfl, hRead⟩⟩
  intro gate condition hGuard
  rw [h.2 row hRow] at hGuard
  contradiction

/- What is read from rows behind a guard is yielded. -/
theorem HaveGuard.yields_of_some
    (h : HaveGuard group (some (gate, condition)))
    (hPasses : Passes reference gate condition)
    (hRead : IsRead reference group option value) :
    Yields reference option value := by
  rcases hRead with ⟨row, hRow, rfl, hRead⟩
  refine ⟨?_, .inl ⟨row, h.1 hRow, rfl, hRead⟩⟩
  intro other found hGuard
  rw [h.2 row hRow] at hGuard
  cases hGuard
  exact hPasses

/- What is yielded from rows behind a guard passes it. -/
theorem HaveGuard.passes
    (h : HaveGuard group (some (gate, condition)))
    (hYields : Yields reference option value)
    (hRead : IsRead reference group option value) :
    Passes reference gate condition ∧
      IsRead reference group option value := by
  refine ⟨hYields.passes gate condition ?_, hRead⟩
  rcases hRead with ⟨row, hRow, rfl, _⟩
  exact h.2 row hRow

/- Rows one after the other are read from the parts. -/
theorem isRead_append_iff
    (first second : List Row) :
    IsRead reference (first ++ second) option value ↔
      IsRead reference first option value ∨
        IsRead reference second option value := by
  simp [IsRead, or_and_right, exists_or]

/- A reference has the entries that it yields. -/
theorem mem_optionsOf_iff_yields
    {options : List (HostOption × Value)}
    (hOptions : optionsOf reference = .ok options)
    (option : HostOption)
    (value : Value) :
    (option, value) ∈ options ↔
      Yields reference option value := by
  simp only [optionsOf, Outcome.bind_eq_ok_iff] at hOptions
  rcases hOptions with ⟨plain, hPlain, discovery, hDiscovery,
    tracker, hTracker, retry, hRetry, hSame⟩
  cases hSame
  simp only [List.mem_append, mem_readRows_iff hPlain,
    mem_readGated_iff hDiscovery, mem_readGated_iff hTracker,
    mem_readRetry_iff hRetry]
  constructor
  · rintro (((h | h | ⟨hOpen, h⟩) | h | ⟨hOpen, h⟩) |
      h | ⟨hOpen, h⟩ | ⟨hShort, rfl, rfl⟩)
    · exact haveGuard_plainRows.yields_of_none h
    · exact
        (haveGuard_singleton (by decide)).yields_of_none h
    · exact haveGuard_discoveryRows.yields_of_some hOpen h
    · exact
        (haveGuard_singleton (by decide)).yields_of_none h
    · exact haveGuard_trackerRows.yields_of_some hOpen h
    · exact
        (haveGuard_singleton (by decide)).yields_of_none h
    · exact
        (haveGuard_singleton (by decide)).yields_of_some
          hOpen h
    · refine ⟨?_, .inr ⟨rfl, rfl⟩⟩
      intro gate condition hGuard
      cases hGuard
      exact hShort
  · intro hYields
    rcases hYields.read with hRead | ⟨rfl, rfl⟩
    · rw [rows, isRead_append_iff, isRead_append_iff,
        isRead_append_iff, isRead_cons_iff discoveryRow,
        isRead_cons_iff trackerRow, isRead_cons_iff delayRow]
        at hRead
      have hQueue :
          HaveGuard [queueRow]
            (some (delayRow, fun _ => true)) :=
        haveGuard_singleton (by decide)
      rcases hRead with ((h | h | h) | h | h) | h | h
      · exact .inl (.inl (.inl h))
      · exact .inl (.inl (.inr (.inl h)))
      · have hOpen := haveGuard_discoveryRows.passes hYields h
        exact .inl (.inl (.inr (.inr hOpen)))
      · exact .inl (.inr (.inl h))
      · have hOpen := haveGuard_trackerRows.passes hYields h
        exact .inl (.inr (.inr hOpen))
      · exact .inr (.inl h)
      · exact .inr (.inr (.inl (hQueue.passes hYields h)))
    · have hShort := hYields.passes delayRow disablesRetry rfl
      exact .inr (.inr (.inr ⟨hShort, rfl, rfl⟩))

/- A reference yields one value for an option. -/
theorem Yields.unique
    {other : Value}
    (hValue : Yields reference option value)
    (hOther : Yields reference option other) :
    value = other := by
  rcases hValue.read with ⟨row, hRow, rfl, hRead⟩ | ⟨rfl, rfl⟩
  · rcases hOther.read with
      ⟨found, hFound, hSame, hFoundRead⟩ | ⟨hRetry, _⟩
    · have hEqual : found = row :=
        eq_of_option_eq (fits_rows found hFound)
          (fits_rows row hRow) hSame
      rw [hEqual, hRead] at hFoundRead
      exact Option.some.inj (Except.ok.inj hFoundRead)
    · exact absurd hRetry (option_ne_retry row hRow)
  · rcases hOther.read with
      ⟨found, hFound, hRetry, _⟩ | ⟨_, rfl⟩
    · exact absurd hRetry (option_ne_retry found hFound)
    · rfl

variable {conf : Config}
variable {resource : Resource}
variable {text : String}
variable {port : Value}
variable {options : List (HostOption × Value)}

/- An option has the value that the reference yields. -/
theorem ReadAs.option_eq_of_yields
    (h : ReadAs conf reference resource text port options)
    (hYields : Yields reference option value) :
    resource.configurator.option option = value := by
  have hMember := mem_optionsOf_iff_yields h.entries option
  have hOnly : ∀ other, (option, other) ∈ options →
      other = value := by
    intro other hOther
    exact ((hMember other).mp hOther).unique hYields
  have hSet := (hMember value).mpr hYields
  rw [h.option, Entries.last?_eq_some_of_only hSet hOnly,
    Option.getD_some]

/- An option for which nothing is yielded has its default. -/
theorem ReadAs.option_eq_default
    (h : ReadAs conf reference resource text port options)
    (hNone : ∀ value, ¬ Yields reference option value) :
    resource.configurator.option option = option.default := by
  have hLast : Entries.last? option options = none := by
    rw [Entries.last?_eq_none_iff, List.mem_map]
    rintro ⟨⟨_, value⟩, hMember, rfl⟩
    apply hNone value
    exact
      (mem_optionsOf_iff_yields h.entries _ value).mp hMember
  rw [h.option, hLast, Option.getD_none]

/- The row of an option whose attribute is of some name. -/
theorem exists_row
    {name : String}
    (hName : option.attribute? = some name) :
    ∃ row ∈ rows, row.option = option ∧ row.name = name := by
  have hOption :
      option.attribute? = none ∨
        option ∈ rows.map Row.option := by
    cases option <;> decide
  rcases hOption with hNone | hOption
  · rw [hNone] at hName
    contradiction
  · rcases List.mem_map.mp hOption with ⟨row, hRow, rfl⟩
    have hFits := fits_rows row hRow
    rw [hFits.1] at hName
    exact ⟨row, hRow, rfl, Option.some.inj hName⟩

/- A row whose attribute carries a content is read as this. -/
theorem readRow_of_carries
    {row : Row}
    {content : Value}
    (hFits : row.Fits)
    (hCarries : reference.Carries row.name content)
    (hCoerce : row.option.coerce row.name content = .ok value) :
    readRow reference row = .ok (some value) := by
  rw [← Reference.content?_eq_some_iff] at hCarries
  unfold readRow
  rw [hCarries, hFits.2]
  exact (Outcome.map_eq_ok_iff _ _ _).mpr ⟨value, hCoerce, rfl⟩

/- Where options are read, the delay and the queue are. -/
theorem accepts_of_optionsOf
    (hOptions : optionsOf reference = .ok options) :
    reference.Accepts .retryDownedHostsDelayInSeconds ∧
      reference.Accepts .retryDownedHostsQueueSize := by
  simp only [optionsOf, Outcome.bind_eq_ok_iff] at hOptions
  rcases hOptions with ⟨_, _, _, _, _, _, retry, hRetry, _⟩
  have hRows := exists_readRetry_iff.mp ⟨retry, hRetry⟩
  exact
    ⟨hRows delayRow (by decide), hRows queueRow (by decide)⟩

/- The guard of an attribute that applies is passed. -/
theorem passes_of_activates
    (hOptions : optionsOf reference = .ok options)
    (hOption : option ≠ .retryDownedHosts)
    (hActive : reference.Activates option)
    (hGuard : guard? option = some (gate, condition)) :
    Passes reference gate condition := by
  cases option
  case retryDownedHosts => contradiction
  case retryDownedHostsQueueSize =>
    cases hGuard
    rcases hActive with ⟨content, hCarries⟩
    rcases (accepts_of_optionsOf hOptions).1 trivial _ content
        rfl hCarries with
      ⟨delay, hCoerce⟩
    exact
      ⟨delay,
        readRow_of_carries fits_delayRow hCarries hCoerce,
        rfl⟩
  all_goals cases hGuard
  all_goals
    exact
      ⟨.bool true,
        readRow_of_carries (by decide) hActive rfl, rfl⟩

/- An attribute that applies and sets a value yields it. -/
theorem yields_of_sets
    (hOptions : optionsOf reference = .ok options)
    (hSets : reference.Sets option value) :
    Yields reference option value := by
  rcases hSets with ⟨hActive, name, content, hName, hCarries,
    hCoerce⟩
  have hOption : option ≠ .retryDownedHosts := by
    intro hRetry
    rw [hRetry] at hName
    contradiction
  rcases exists_row hName with ⟨row, hRow, rfl, rfl⟩
  have hRead :=
    readRow_of_carries (fits_rows row hRow) hCarries hCoerce
  refine ⟨?_, .inl ⟨row, hRow, rfl, hRead⟩⟩
  intro gate condition hGuard
  exact passes_of_activates hOptions hOption hActive hGuard

/- What is yielded for an attribute that applies is set. -/
theorem Yields.sets
    (hYields : Yields reference option value)
    (hOption : option ≠ .retryDownedHosts)
    (hActive : reference.Activates option) :
    reference.Sets option value := by
  rcases hYields.read with ⟨row, hRow, rfl, hRead⟩ | ⟨h, _⟩
  · exact
      (readRow_eq_ok_some_iff (fits_rows row hRow) hActive
        hRead value).mp rfl
  · contradiction

/- An option that an attribute sets has the value it sets. -/
theorem ReadAs.option_eq_of_sets
    (h : ReadAs conf reference resource text port options)
    (hSets : reference.Sets option value) :
    resource.configurator.option option = value :=
  h.option_eq_of_yields (yields_of_sets h.entries hSets)

/- The delay that is read decides whether hosts are retried. -/
theorem passes_disablesRetry_iff :
    Passes reference delayRow disablesRetry ↔
      reference.DisablesRetry := by
  constructor
  · rintro ⟨value, hRead, hShort⟩
    have hSets :=
      (readRow_eq_ok_some_iff fits_delayRow trivial hRead
        value).mp rfl
    exact (disablesRetry_iff hSets).mp hShort
  · rintro ⟨delay, hShort, _, name, content, hName, hCarries,
      hCoerce⟩
    cases hName
    refine
      ⟨.int delay,
        readRow_of_carries fits_delayRow hCarries hCoerce, ?_⟩
    exact decide_eq_true hShort

/- Whether hosts are retried is yielded as the delay says. -/
theorem yields_retry_iff (value : Value) :
    Yields reference .retryDownedHosts value ↔
      value = .bool false ∧ reference.DisablesRetry := by
  constructor
  · intro hYields
    have hShort := hYields.passes delayRow disablesRetry rfl
    rw [passes_disablesRetry_iff] at hShort
    rcases hYields.read with ⟨row, hRow, hRetry, _⟩ | hSame
    · exact absurd hRetry (option_ne_retry row hRow)
    · exact ⟨hSame.2, hShort⟩
  · rintro ⟨rfl, hDisables⟩
    refine ⟨?_, .inr ⟨rfl, rfl⟩⟩
    intro gate condition hGuard
    cases hGuard
    exact passes_disablesRetry_iff.mpr hDisables

/- The size of the queue applies where it is yielded. -/
theorem activates_of_yields_queue
    (hYields :
      Yields reference .retryDownedHostsQueueSize value) :
    reference.Activates .retryDownedHostsQueueSize := by
  rcases hYields.passes delayRow _ rfl with
    ⟨delay, hRead, _⟩
  by_contra hNone
  have hUnread := (readDelay_eq_none_iff hRead).mpr hNone
  contradiction

/- An option that is yielded from a textual reference applies. -/
theorem Yields.activates
    (hTextual : reference.Textual)
    (hYields : Yields reference option value) :
    reference.Activates option := by
  have hFlag : ∀ gate, gate.domain = .flag →
      guard? option = some (gate, Value.isTruthy) →
        reference.Carries gate.name (.text "true") := by
    intro gate hDomain hGuard
    rcases hYields.passes gate _ hGuard with
      ⟨found, hRead, hOpen⟩
    exact (readFlag_iff hTextual hDomain hRead).mp hOpen
  cases option
  case runAutoDiscoveryAtStartup => exact hFlag _ rfl rfl
  case autoDiscoveryDelayInSeconds => exact hFlag _ rfl rfl
  case hostTimeoutCounter => exact hFlag _ rfl rfl
  case hostTimeoutSuspensionDurationInSeconds =>
    exact hFlag _ rfl rfl
  case hostTimeoutUnsuspendCheckDelay => exact hFlag _ rfl rfl
  case hostTimeoutWindow => exact hFlag _ rfl rfl
  case retryDownedHostsQueueSize =>
    exact activates_of_yields_queue hYields
  all_goals trivial

/- What a textual reference yields is what it determines. -/
theorem yields_iff_determines
    (hTextual : reference.Textual)
    (hOptions : optionsOf reference = .ok options)
    (option : HostOption)
    (value : Value) :
    Yields reference option value ↔
      reference.Determines option value := by
  by_cases hRetry : option = .retryDownedHosts
  · subst option
    exact yields_retry_iff value
  · rw [Reference.determines_iff_sets hRetry]
    constructor
    · intro hYields
      exact hYields.sets hRetry (hYields.activates hTextual)
    · exact yields_of_sets hOptions

end Resource

end Keyspaces

------------------------------------------------------------
-- Values of Options
------------------------------------------------------------

namespace Keyspaces

namespace HostOption

/- A truth value or an integer that an option can be. -/
def Admits
    (option : HostOption)
    (value : Value) : Prop :=
  match option.domain with
  | .flag => ∃ b, value = .bool b
  | .integer bits =>
      ∃ n, value = .int n ∧ Setting.fits bits n = true
  | _ => False

/- What an option can be has a text. -/
theorem Admits.isWritable
    {option : HostOption}
    {value : Value}
    (h : option.Admits value) : value.isWritable = true := by
  cases option <;>
    first
      | rcases h with ⟨b, rfl⟩
        rfl
      | rcases h with ⟨n, rfl, hFits⟩
        exact Setting.isWritable_of_fits (by decide) hFits

/- An option can be its default. -/
theorem admits_default (option : HostOption) :
    option.Admits option.default := by
  cases option <;>
    first
      | exact ⟨_, rfl⟩
      | exact ⟨_, rfl, rfl⟩

/- An option can be what the content of an attribute says. -/
theorem admits_of_coerce
    {option : HostOption}
    {name : String}
    {content value : Value}
    (hCoerce : option.coerce name content = .ok value) :
    option.Admits value := by
  cases option <;>
    first
      | exact Setting.coerce_flag hCoerce
      | exact Setting.coerce_integer hCoerce

end HostOption

namespace Resource

variable {reference : Reference}
variable {option : HostOption}
variable {value : Value}

/- An option can be what is read from its row. -/
theorem admits_of_readRow
    {row : Row}
    (hFits : row.Fits)
    (hRead : readRow reference row = .ok (some value)) :
    row.option.Admits value := by
  unfold readRow at hRead
  split at hRead
  · cases hRead
  · rcases (Outcome.map_eq_ok_iff _ _ _).mp hRead with
      ⟨coerced, hCoerced, hSame⟩
    cases hSame
    rw [hFits.2] at hCoerced
    exact HostOption.admits_of_coerce hCoerced

/- An option can be what a reference yields for it. -/
theorem Yields.admits
    (h : Yields reference option value) :
    option.Admits value := by
  rcases h.read with ⟨row, hRow, rfl, hRead⟩ | ⟨rfl, rfl⟩
  · exact admits_of_readRow (fits_rows row hRow) hRead
  · exact ⟨false, rfl⟩

/- Each option is something that it can be. -/
theorem ReadAs.admits
    {conf : Config}
    {resource : Resource}
    {text : String}
    {port : Value}
    {options : List (HostOption × Value)}
    (h : ReadAs conf reference resource text port options)
    (option : HostOption) :
    option.Admits (resource.configurator.option option) := by
  by_cases hSome : ∃ value, Yields reference option value
  · rcases hSome with ⟨value, hYields⟩
    rw [h.option_eq_of_yields hYields]
    exact hYields.admits
  · rw [not_exists] at hSome
    rw [h.option_eq_default hSome]
    exact HostOption.admits_default option

end Resource

end Keyspaces

------------------------------------------------------------
-- What Options Depend On
------------------------------------------------------------

namespace Keyspaces

namespace Reference

/-
  Two references agree on an option if the same is found in
  both of them under the name of its attribute and under that
  of the attribute on which it depends whether this applies.
-/
structure AgreesOn
    (first second : Reference)
    (option : HostOption) : Prop where
  own :
    ∀ name, option.attribute? = some name →
      first.content? name = second.content? name
  gate :
    ∀ gate condition,
      Resource.guard? option = some (gate, condition) →
        first.content? gate.name = second.content? gate.name

/- Agreement does not depend on the order of references. -/
theorem AgreesOn.symm
    {first second : Reference}
    {option : HostOption}
    (h : AgreesOn first second option) :
    AgreesOn second first option where
  own name hName := (h.own name hName).symm
  gate gate condition hGuard :=
    (h.gate gate condition hGuard).symm

end Reference

namespace Resource

variable {first second : Reference}
variable {option : HostOption}
variable {value : Value}

/- A row is read from the content of its attribute. -/
theorem readRow_congr
    {row : Row}
    (h : first.content? row.name = second.content? row.name) :
    readRow first row = readRow second row := by
  unfold readRow
  rw [h]

/- References that agree on an option yield the same for it. -/
theorem Yields.of_agreesOn
    (hYields : Yields first option value)
    (hAgrees : first.AgreesOn second option) :
    Yields second option value := by
  constructor
  · intro gate condition hGuard
    rcases hYields.passes gate condition hGuard with
      ⟨found, hRead, hCondition⟩
    rw [readRow_congr (hAgrees.gate gate condition hGuard)]
      at hRead
    exact ⟨found, hRead, hCondition⟩
  · rcases hYields.read with
      ⟨row, hRow, rfl, hRead⟩ | hDisabled
    · have hName := (fits_rows row hRow).1
      rw [readRow_congr (hAgrees.own row.name hName)]
        at hRead
      exact .inl ⟨row, hRow, rfl, hRead⟩
    · exact .inr hDisabled

/-
  An option has the same value in two resources if they were
  read from references that agree on it.
-/
theorem option_eq_of_agreesOn
    {conf settings : Config}
    {resource other : Resource}
    (hFirst : ofReference conf first = .ok resource)
    (hSecond : ofReference settings second = .ok other)
    (hAgrees : first.AgreesOn second option) :
    resource.configurator.option option =
      other.configurator.option option := by
  rcases exists_readAs hFirst with ⟨_, _, _, hRead⟩
  rcases exists_readAs hSecond with ⟨_, _, _, hOther⟩
  by_cases hSome : ∃ value, Yields first option value
  · rcases hSome with ⟨value, hYields⟩
    rw [hRead.option_eq_of_yields hYields,
      hOther.option_eq_of_yields (hYields.of_agreesOn hAgrees)]
  · rw [not_exists] at hSome
    have hNone : ∀ value, ¬ Yields second option value := by
      intro value hYields
      exact hSome value (hYields.of_agreesOn hAgrees.symm)
    rw [hRead.option_eq_default hSome,
      hOther.option_eq_default hNone]

end Resource

end Keyspaces
