import Keyspaces.Proofs.Configurator
import Keyspaces.Proofs.Reference
import Keyspaces.Proofs.Setting
import Keyspaces.Resource

/-
  Which options the attributes of a reference set. Some
  attributes are ignored, however malformed, unless another
  attribute makes them apply.

  Main declarations:
    * `HostOption.attribute?`
    * `Reference.Activates`
    * `Reference.Sets`
    * `Reference.Accepts`
    * `Reference.Determines`
    * `Resource.exists_optionsOf_iff`
-/

------------------------------------------------------------
-- Options and Their Attributes
------------------------------------------------------------

namespace Keyspaces

namespace HostOption

/-
  The attribute that sets an option. Whether hosts that are
  down are retried is not set by an attribute of its own.
-/
def attribute? : HostOption → Option String
| .maxActive => some "maxActive"
| .maxWaitTimeWhenExhausted =>
    some "maxWaitTimeWhenExhausted"
| .lifo => some "lifo"
| .useThriftFramedTransport =>
    some "useThriftFramedTransport"
| .maxFrameSize => some "maxFrameSize"
| .useSocketKeepalive => some "useSocketKeepalive"
| .maxConnectTimeMillis => some "maxConnectTimeMillis"
| .maxLastSuccessTimeMillis =>
    some "maxLastSuccessTimeMillis"
| .cassandraThriftSocketTimeout =>
    some "cassandraThriftSocketTimeout"
| .autoDiscoverHosts => some "autoDiscoverHosts"
| .runAutoDiscoveryAtStartup =>
    some "runAutoDiscoveryAtStartup"
| .autoDiscoveryDelayInSeconds =>
    some "autoDiscoveryDelayInSeconds"
| .retryDownedHosts => none
| .retryDownedHostsDelayInSeconds =>
    some "retryDownedHostDelayInSeconds"
| .retryDownedHostsQueueSize =>
    some "retryDownedHostsQueueSize"
| .useHostTimeoutTracker => some "useHostTimeoutTracker"
| .hostTimeoutCounter => some "hostTimeoutCounter"
| .hostTimeoutSuspensionDurationInSeconds =>
    some "hostTimeoutSuspensionDurationInSeconds"
| .hostTimeoutUnsuspendCheckDelay =>
    some "hostTimeoutUnsuspendCheckDelay"
| .hostTimeoutWindow => some "hostTimeoutWindow"

/- What an option can be: a truth value or an integer. -/
def domain : HostOption → Setting.Domain
| .lifo
| .useThriftFramedTransport
| .useSocketKeepalive
| .autoDiscoverHosts
| .runAutoDiscoveryAtStartup
| .retryDownedHosts
| .useHostTimeoutTracker => .flag
| .maxConnectTimeMillis
| .maxLastSuccessTimeMillis => .integer 64
| _ => .integer 32

/- The value that a content stands for as that of an option. -/
def coerce
    (option : HostOption)
    (name : String)
    (content : Value) : Except Failure Value :=
  (Setting.ofDomain option.domain .null).coerce content
    name

end HostOption

namespace Reference

/-
  The attribute of an option applies. Those for discovery and
  for the tracking of timeouts apply when these are on, and
  the one for the queue when there is a delay.
-/
def Activates (reference : Reference) : HostOption → Prop
| .runAutoDiscoveryAtStartup
| .autoDiscoveryDelayInSeconds =>
    reference.Carries "autoDiscoverHosts" (.text "true")
| .hostTimeoutCounter
| .hostTimeoutSuspensionDurationInSeconds
| .hostTimeoutUnsuspendCheckDelay
| .hostTimeoutWindow =>
    reference.Carries "useHostTimeoutTracker" (.text "true")
| .retryDownedHostsQueueSize =>
    ∃ content,
      reference.Carries "retryDownedHostDelayInSeconds"
        content
| _ => True

/- The attribute of an option applies and sets a value. -/
def Sets
    (reference : Reference)
    (option : HostOption)
    (value : Value) : Prop :=
  reference.Activates option ∧
    ∃ name content,
      option.attribute? = some name ∧
        reference.Carries name content ∧
          option.coerce name content = .ok value

/- If the attribute of an option applies, it sets a value. -/
def Accepts
    (reference : Reference)
    (option : HostOption) : Prop :=
  reference.Activates option →
    ∀ name content,
      option.attribute? = some name →
      reference.Carries name content →
        ∃ value, option.coerce name content = .ok value

/- An option is set to one value only. -/
theorem Sets.unique
    {reference : Reference}
    {option : HostOption}
    {value other : Value}
    (hValue : reference.Sets option value)
    (hOther : reference.Sets option other) :
    value = other := by
  rcases hValue with ⟨_, name, content, hName,
    hCarries, hCoerce⟩
  rcases hOther with ⟨_, found, read, hFound, hRead,
    hCoerced⟩
  rw [hName] at hFound
  cases hFound
  cases hCarries.unique hRead
  rw [hCoerce] at hCoerced
  exact Except.ok.inj hCoerced

/-
  A delay of less than a second is set, so that hosts that are
  down are not retried.
-/
def DisablesRetry (reference : Reference) : Prop :=
  ∃ delay : Int, delay < 1 ∧
    reference.Sets .retryDownedHostsDelayInSeconds
      (.int delay)

/-
  The attributes determine the value of an option: they set
  it, or the delay disables the retrying of hosts.
-/
def Determines
    (reference : Reference) : HostOption → Value → Prop
| .retryDownedHosts, value =>
    value = .bool false ∧ reference.DisablesRetry
| option, value => reference.Sets option value

/- All options but one are determined by what is set. -/
theorem determines_iff_sets
    {reference : Reference}
    {option : HostOption}
    (hOption : option ≠ .retryDownedHosts)
    (value : Value) :
    reference.Determines option value ↔
      reference.Sets option value := by
  cases option
  case retryDownedHosts => contradiction
  all_goals rfl

end Reference

end Keyspaces

------------------------------------------------------------
-- Rows
------------------------------------------------------------

namespace Keyspaces

namespace Resource

/- A row is that of the attribute of its option. -/
def Row.Fits (row : Row) : Prop :=
  row.option.attribute? = some row.name ∧
    row.domain = row.option.domain

instance (row : Row) : Decidable row.Fits :=
  inferInstanceAs (Decidable (_ ∧ _))

variable {reference : Reference}
variable {row gate : Row}
variable {rows : List Row}

/- A row is read if its attribute carries no other content. -/
theorem exists_readRow_iff
    (hFits : row.Fits)
    (hActive : reference.Activates row.option) :
    (∃ read, readRow reference row = .ok read) ↔
      reference.Accepts row.option := by
  unfold readRow Reference.Accepts HostOption.coerce
  rw [hFits.1, hFits.2]
  cases hContent : reference.content? row.name with
  | none =>
      have hNone :=
        (Reference.content?_eq_none_iff reference
          row.name).mp hContent
      refine iff_of_true ⟨none, rfl⟩ ?_
      intro _ name content hName hCarries
      cases hName
      exact absurd hCarries (hNone content)
  | some content =>
      have hCarries :=
        (Reference.content?_eq_some_iff reference row.name
          content).mp hContent
      dsimp only
      constructor
      · rintro ⟨read, hRead⟩ _ name other hName
          hOther
        cases hName
        cases hCarries.unique hOther
        rcases (Outcome.map_eq_ok_iff _ _ _).mp hRead with
          ⟨value, hValue, _⟩
        exact ⟨value, hValue⟩
      · intro hAccepts
        rcases hAccepts hActive row.name content rfl
          hCarries with ⟨value, hValue⟩
        exact
          ⟨some value,
            (Outcome.map_eq_ok_iff _ _ _).mpr
              ⟨value, hValue, rfl⟩⟩

/- What is read from a row is what its option is set to. -/
theorem readRow_eq_ok_some_iff
    (hFits : row.Fits)
    (hActive : reference.Activates row.option)
    {read : Option Value}
    (hRead : readRow reference row = .ok read)
    (value : Value) :
    read = some value ↔
      reference.Sets row.option value := by
  unfold readRow at hRead
  rw [hFits.2] at hRead
  cases hContent : reference.content? row.name with
  | none =>
      have hNone :=
        (Reference.content?_eq_none_iff reference
          row.name).mp hContent
      rw [hContent] at hRead
      cases hRead
      refine iff_of_false (by simp) ?_
      rintro ⟨_, name, content, hName, hCarries, _⟩
      rw [hFits.1] at hName
      cases hName
      exact hNone content hCarries
  | some content =>
      have hCarries :=
        (Reference.content?_eq_some_iff reference row.name
          content).mp hContent
      rw [hContent] at hRead
      rcases (Outcome.map_eq_ok_iff _ _ _).mp hRead with
        ⟨coerced, hCoerced, hSome⟩
      have hSets : reference.Sets row.option coerced :=
        ⟨hActive, row.name, content, hFits.1, hCarries,
          hCoerced⟩
      subst hSome
      constructor
      · intro hSame
        cases hSame
        exact hSets
      · intro hOther
        rw [hSets.unique hOther]

/- The attribute of a flag carries the text of what is read. -/
theorem readFlag_iff
    (hTextual : reference.Textual)
    (hFlag : row.domain = .flag)
    {value : Value}
    (hRead : readRow reference row = .ok (some value)) :
    value.isTruthy = true ↔
      reference.Carries row.name (.text "true") := by
  unfold readRow at hRead
  rw [hFlag] at hRead
  cases hContent : reference.content? row.name with
  | none =>
      rw [hContent] at hRead
      simp at hRead
  | some content =>
      have hCarries :=
        (Reference.content?_eq_some_iff reference row.name
          content).mp hContent
      rcases hTextual.carries hCarries with ⟨s, rfl⟩
      rw [hContent] at hRead
      rcases (Outcome.map_eq_ok_iff _ _ _).mp hRead with
        ⟨coerced, hCoerced, hSome⟩
      cases hSome
      rcases Setting.coerce_flag hCoerced with ⟨b, rfl⟩
      rw [Setting.coerce_flag_text_iff] at hCoerced
      subst hCoerced
      cases b with
      | true => exact iff_of_true rfl hCarries
      | false =>
          refine iff_of_false Bool.false_ne_true ?_
          intro hTrue
          have hSame := hCarries.unique hTrue
          simp at hSame

end Resource

end Keyspaces

------------------------------------------------------------
-- Groups of Rows
------------------------------------------------------------

namespace Keyspaces

namespace Resource

variable {reference : Reference}
variable {gate : Row}
variable {rows : List Row}

/- Rows that apply are read if each of them accepts. -/
theorem exists_readRows_iff
    (hFits : ∀ row ∈ rows, row.Fits)
    (hActive :
      ∀ row ∈ rows, reference.Activates row.option) :
    (∃ options, readRows reference rows = .ok options) ↔
      ∀ row ∈ rows, reference.Accepts row.option := by
  induction rows with
  | nil => exact iff_of_true ⟨[], rfl⟩ (by simp)
  | cons row rows ih =>
      rcases List.forall_mem_cons.mp hFits with
        ⟨hRowFits, hRestFits⟩
      rcases List.forall_mem_cons.mp hActive with
        ⟨hRowActive, hRestActive⟩
      rw [List.forall_mem_cons,
        ← exists_readRow_iff hRowFits hRowActive,
        ← ih hRestFits hRestActive]
      simp only [readRows, Outcome.bind_eq_ok_iff]
      constructor
      · rintro ⟨_, read, hRead, rest, hRest, _⟩
        exact ⟨⟨read, hRead⟩, ⟨rest, hRest⟩⟩
      · rintro ⟨⟨read, hRead⟩, ⟨rest, hRest⟩⟩
        exact ⟨_, read, hRead, rest, hRest, rfl⟩

end Resource

end Keyspaces

------------------------------------------------------------
-- Gates
------------------------------------------------------------

namespace Keyspaces

namespace Resource

variable {reference : Reference}
variable {gate : Row}
variable {rows : List Row}

/- Rows that do not apply accept whatever they carry. -/
theorem accepts_of_inactive
    (hInactive :
      ∀ row ∈ rows, ¬ reference.Activates row.option) :
    ∀ row ∈ rows, reference.Accepts row.option := by
  intro row hRow hActive
  exact absurd hActive (hInactive row hRow)

/- What is read decides whether further rows are read. -/
theorem readGated_eq
    {read : Option Value}
    (hRead : readRow reference gate = .ok read)
    (rows : List Row) :
    readGated reference gate rows =
      let own :=
        (read.map fun value => (gate.option, value)).toList
      if read.any Value.isTruthy then
        (readRows reference rows).map (own ++ ·)
      else
        .ok own := by
  unfold readGated
  rw [hRead]
  cases read with
  | none => rfl
  | some value =>
      cases hOn : value.isTruthy with
      | false =>
          simp only [bind, Except.bind, Option.any, hOn]
          rfl
      | true =>
          simp only [bind, Except.bind, Option.any, hOn,
            if_true]
          cases readRows reference rows <;> rfl

/- Further rows are read if the gate carries that it is on. -/
theorem any_isTruthy_iff
    (hTextual : reference.Textual)
    (hFlag : gate.domain = .flag)
    (hFits : gate.Fits)
    (hActive : reference.Activates gate.option)
    {read : Option Value}
    (hRead : readRow reference gate = .ok read) :
    read.any Value.isTruthy = true ↔
      reference.Carries gate.name (.text "true") := by
  cases read with
  | some value => exact readFlag_iff hTextual hFlag hRead
  | none =>
      refine iff_of_false Bool.false_ne_true ?_
      intro hOn
      have hAccepts :=
        (exists_readRow_iff hFits hActive).mp ⟨none, hRead⟩
      rcases hAccepts hActive gate.name _ hFits.1 hOn with
        ⟨value, hValue⟩
      have hSets : reference.Sets gate.option value :=
        ⟨hActive, gate.name, _, hFits.1, hOn, hValue⟩
      have hSome :=
        (readRow_eq_ok_some_iff hFits hActive hRead
          value).mpr hSets
      contradiction

/- A gate that always applies, and the rows it is for. -/
structure Guards
    (reference : Reference)
    (gate : Row)
    (rows : List Row) : Prop where
  flag : gate.domain = .flag
  gateFits : gate.Fits
  gateActive : reference.Activates gate.option
  fits : ∀ row ∈ rows, row.Fits
  active :
    ∀ row ∈ rows,
      reference.Activates row.option ↔
        reference.Carries gate.name (.text "true")

/- A gate and its rows are read if all of them accept. -/
theorem exists_readGated_iff
    (hTextual : reference.Textual)
    (hGuards : Guards reference gate rows) :
    (∃ options,
        readGated reference gate rows = .ok options) ↔
      ∀ row ∈ gate :: rows,
        reference.Accepts row.option := by
  rw [List.forall_mem_cons,
    ← exists_readRow_iff hGuards.gateFits hGuards.gateActive]
  cases hRead : readRow reference gate with
  | error failure =>
      refine iff_of_false ?_ ?_
      · rintro ⟨options, hOptions⟩
        rw [readGated, hRead] at hOptions
        contradiction
      · rintro ⟨⟨read, hOk⟩, _⟩
        contradiction
  | ok read =>
      have hOn :=
        any_isTruthy_iff hTextual hGuards.flag
          hGuards.gateFits hGuards.gateActive hRead
      rw [readGated_eq hRead]
      by_cases hGate :
          reference.Carries gate.name (.text "true")
      · have hActive : ∀ row ∈ rows,
            reference.Activates row.option := fun row hRow =>
          (hGuards.active row hRow).mpr hGate
        rw [← exists_readRows_iff hGuards.fits hActive]
        simp only [hOn.mpr hGate, if_true,
          Outcome.map_eq_ok_iff]
        constructor
        · rintro ⟨_, options, hOptions, _⟩
          exact ⟨⟨read, rfl⟩, ⟨options, hOptions⟩⟩
        · rintro ⟨_, options, hOptions⟩
          exact ⟨_, options, hOptions, rfl⟩
      · have hInactive : ∀ row ∈ rows,
            ¬ reference.Activates row.option :=
          fun row hRow hActive =>
            hGate ((hGuards.active row hRow).mp hActive)
        have hAccepts := accepts_of_inactive hInactive
        simp only [mt hOn.mp hGate]
        exact
          iff_of_true ⟨_, rfl⟩ ⟨⟨read, rfl⟩, hAccepts⟩

end Resource

end Keyspaces

------------------------------------------------------------
-- Retrying Hosts
------------------------------------------------------------

namespace Keyspaces

namespace Resource

variable {reference : Reference}

theorem fits_delayRow : delayRow.Fits := by
  decide

theorem fits_queueRow : ∀ row ∈ [queueRow], row.Fits := by
  decide

/- The row of the queue applies if there is a delay. -/
theorem activates_queueRow_iff :
    (∀ row ∈ [queueRow], reference.Activates row.option) ↔
      ∃ content, reference.Carries delayRow.name content := by
  rw [List.forall_mem_singleton]
  rfl

/- There is a delay if one is read. -/
theorem readDelay_eq_none_iff
    {read : Option Value}
    (hRead : readRow reference delayRow = .ok read) :
    read = none ↔
      ¬ ∃ content,
        reference.Carries delayRow.name content := by
  unfold readRow at hRead
  rw [not_exists, ← Reference.content?_eq_none_iff]
  cases hContent : reference.content? delayRow.name with
  | none =>
      rw [hContent] at hRead
      cases hRead
      exact iff_of_true rfl rfl
  | some content =>
      rw [hContent] at hRead
      rcases (Outcome.map_eq_ok_iff _ _ _).mp hRead with
        ⟨value, _, rfl⟩
      exact iff_of_false (by simp) (by simp)

/- The delay that is set decides whether hosts are retried. -/
theorem disablesRetry_iff
    {delay : Value}
    (hSets :
      reference.Sets .retryDownedHostsDelayInSeconds delay) :
    disablesRetry delay = true ↔
      reference.DisablesRetry := by
  have hInteger : ∃ n, delay = .int n := by
    rcases hSets with ⟨_, _, _, _, _, hCoerce⟩
    rcases Setting.coerce_integer hCoerce with ⟨n, hDelay, _⟩
    exact ⟨n, hDelay⟩
  rcases hInteger with ⟨n, rfl⟩
  simp only [disablesRetry, decide_eq_true_eq]
  constructor
  · intro hShort
    exact ⟨n, hShort, hSets⟩
  · rintro ⟨m, hShort, hOther⟩
    have hSame : n = m := by
      simpa using hSets.unique hOther
    omega

/- The delay and the queue are read if both accept. -/
theorem exists_readRetry_iff :
    (∃ options, readRetry reference = .ok options) ↔
      ∀ row ∈ [delayRow, queueRow],
        reference.Accepts row.option := by
  rw [List.forall_mem_cons,
    ← exists_readRow_iff fits_delayRow trivial]
  unfold readRetry
  cases hRead : readRow reference delayRow with
  | error failure =>
      refine iff_of_false ?_ ?_
      · rintro ⟨options, hOptions⟩
        contradiction
      · rintro ⟨⟨read, hOk⟩, _⟩
        contradiction
  | ok read =>
      have hNone := readDelay_eq_none_iff hRead
      cases read with
      | none =>
          refine
            iff_of_true ⟨[], rfl⟩ ⟨⟨none, rfl⟩, ?_⟩
          intro row hRow hActive
          rw [List.mem_singleton.mp hRow] at hActive
          exact absurd hActive (hNone.mp rfl)
      | some delay =>
          have hActive :=
            activates_queueRow_iff.mpr
              (not_not.mp (mt hNone.mpr (by simp)))
          rw [← exists_readRows_iff fits_queueRow hActive]
          simp only [Outcome.bind_eq_ok_iff,
            Except.ok.injEq, exists_eq_left']
          constructor
          · rintro ⟨_, queue, hQueue, _⟩
            exact ⟨⟨some delay, rfl⟩, ⟨queue, hQueue⟩⟩
          · rintro ⟨_, queue, hQueue⟩
            exact ⟨_, queue, hQueue, rfl⟩

end Resource

end Keyspaces

------------------------------------------------------------
-- All Options
------------------------------------------------------------

namespace Keyspaces

namespace Resource

variable {reference : Reference}

/- The attributes of discovery depend on its own. -/
theorem guards_discovery (reference : Reference) :
    Guards reference discoveryRow discoveryRows where
  flag := rfl
  gateFits := by decide
  gateActive := trivial
  fits := by decide
  active := by
    simp only [discoveryRows, List.forall_mem_cons]
    exact ⟨Iff.rfl, Iff.rfl, by simp⟩

/- The attributes of tracking depend on its own. -/
theorem guards_tracker (reference : Reference) :
    Guards reference trackerRow trackerRows where
  flag := rfl
  gateFits := by decide
  gateActive := trivial
  fits := by decide
  active := by
    simp only [trackerRows, List.forall_mem_cons]
    exact ⟨Iff.rfl, Iff.rfl, Iff.rfl, Iff.rfl, by simp⟩

theorem fits_plainRows : ∀ row ∈ plainRows, row.Fits := by
  decide

/- The first attributes always apply. -/
theorem activates_plainRows (reference : Reference) :
    ∀ row ∈ plainRows, reference.Activates row.option := by
  simp only [plainRows, List.forall_mem_cons]
  exact
    ⟨trivial, trivial, trivial, trivial, trivial, trivial,
      trivial, trivial, trivial, by simp⟩

/- Every option but one is that of some row. -/
theorem accepts_iff_rows :
    (∀ option, reference.Accepts option) ↔
      (∀ row ∈ plainRows, reference.Accepts row.option) ∧
        (∀ row ∈ discoveryRow :: discoveryRows,
          reference.Accepts row.option) ∧
          (∀ row ∈ trackerRow :: trackerRows,
            reference.Accepts row.option) ∧
            ∀ row ∈ [delayRow, queueRow],
              reference.Accepts row.option := by
  constructor
  · intro hAccepts
    exact
      ⟨fun row _ => hAccepts row.option,
        fun row _ => hAccepts row.option,
        fun row _ => hAccepts row.option,
        fun row _ => hAccepts row.option⟩
  · rintro ⟨hPlain, hDiscovery, hTracker, hRetry⟩ option
    have hRows :
        option = .retryDownedHosts ∨
          option ∈ plainRows.map Row.option ∨
            option ∈
                (discoveryRow :: discoveryRows).map
                  Row.option ∨
              option ∈
                  (trackerRow :: trackerRows).map
                    Row.option ∨
                option ∈
                  [delayRow, queueRow].map Row.option := by
      cases option <;> decide
    rcases hRows with
      rfl | hOption | hOption | hOption | hOption
    · intro _ name content hName
      contradiction
    all_goals
      rcases List.mem_map.mp hOption with ⟨row, hRow, rfl⟩
    · exact hPlain row hRow
    · exact hDiscovery row hRow
    · exact hTracker row hRow
    · exact hRetry row hRow

/- All attributes are read if every option accepts. -/
theorem exists_optionsOf_iff
    (hTextual : reference.Textual) :
    (∃ options, optionsOf reference = .ok options) ↔
      ∀ option, reference.Accepts option := by
  rw [accepts_iff_rows,
    ← exists_readRows_iff fits_plainRows
      (activates_plainRows reference),
    ← exists_readGated_iff hTextual
      (guards_discovery reference),
    ← exists_readGated_iff hTextual
      (guards_tracker reference),
    ← exists_readRetry_iff]
  simp only [optionsOf, Outcome.bind_eq_ok_iff]
  constructor
  · rintro ⟨_, plain, hPlain, discovery, hDiscovery, tracker,
      hTracker, retry, hRetry, _⟩
    exact
      ⟨⟨plain, hPlain⟩, ⟨discovery, hDiscovery⟩,
        ⟨tracker, hTracker⟩, ⟨retry, hRetry⟩⟩
  · rintro ⟨⟨plain, hPlain⟩, ⟨discovery, hDiscovery⟩,
      ⟨tracker, hTracker⟩, ⟨retry, hRetry⟩⟩
    exact
      ⟨_, plain, hPlain, discovery, hDiscovery, tracker,
        hTracker, retry, hRetry, rfl⟩

end Resource

end Keyspaces
