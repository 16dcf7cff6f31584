import Keyspaces.Cluster.Reconnection
import Keyspaces.Proofs.Resource.Reading

/-
  The schedule for reconnecting with hosts that went down is
  the one that the attributes of a reference prescribe: the
  delay, which can disable it, and the size of the queue, which
  bounds it if there is a delay and the size is positive.

  Main declarations:
    * `ReconnectionPolicy.Follows`
    * `ReconnectionPolicy.Prescribes`
    * `Resource.exists_prescribes`
    * `Resource.ReadAs.follows_of_prescribes`
    * `ReconnectionPolicy.follows_iff_prescribes`
-/

------------------------------------------------------------
-- Signs of Integers
------------------------------------------------------------

namespace Keyspaces

namespace Value

/- An integer compares with zero. -/
theorem isPositive_int (n : Int) :
    (Value.int n).isPositive = .ok (decide (0 < n)) := by
  have hCompare : (compare n 0 == .gt) = decide (0 < n) := by
    rw [Bool.eq_iff_iff, beq_iff_eq, Int.compare_eq_gt,
      decide_eq_true_eq]
  exact congrArg Except.ok
    ((Option.some_beq_some ..).trans hCompare)

/- An integer that is not below zero is not negative. -/
theorem isNegative_int
    {n : Int}
    (hSign : 0 ≤ n) :
    (Value.int n).isNegative = .ok false := by
  have hCompare : (compare n 0 == .lt) = false := by
    rw [beq_eq_false_iff_ne]
    intro hLess
    rw [Int.compare_eq_lt] at hLess
    omega
  exact congrArg Except.ok
    ((Option.some_beq_some ..).trans hCompare)

end Value

end Keyspaces

------------------------------------------------------------
-- Policies and Schedules
------------------------------------------------------------

namespace Keyspaces

namespace ReconnectionPolicy

/-
  A configurator has a policy, and the policy has a schedule.
-/
def Follows
    (configurator : Configurator)
    (schedule : Schedule) : Prop :=
  ∃ policy,
    ofConfigurator configurator = .ok policy ∧
      policy.schedule = .ok schedule

/- One schedule is followed at most. -/
theorem Follows.unique
    {configurator : Configurator}
    {schedule other : Schedule}
    (h : Follows configurator schedule)
    (hOther : Follows configurator other) :
    schedule = other := by
  rcases h with ⟨policy, hPolicy, hSchedule⟩
  rcases hOther with ⟨found, hFound, hFollowed⟩
  cases hPolicy.symm.trans hFound
  exact Except.ok.inj (hSchedule.symm.trans hFollowed)

/- Hosts that are not to be retried are left alone. -/
theorem follows_finished
    {configurator : Configurator}
    (hRetry :
      configurator.option .retryDownedHosts = .bool false) :
    Follows configurator .finished := by
  refine ⟨.never, ?_, rfl⟩
  rw [ofConfigurator, hRetry]
  rfl

variable {configurator : Configurator}
variable {delay attempts : Int}

/-
  Hosts that are to be retried have a constant delay, which
  the size of the queue bounds if it is positive.
-/
theorem ofConfigurator_of_delay
    (hRetry :
      configurator.option .retryDownedHosts = .bool true)
    (hDelay :
      configurator.option .retryDownedHostsDelayInSeconds =
        .int delay)
    (hQueue :
      configurator.option .retryDownedHostsQueueSize =
        .int attempts)
    (hSign : 0 ≤ delay) :
    ofConfigurator configurator =
      .ok
        (.constant (.int delay)
          (if 0 < attempts then some (.int attempts)
          else none)) := by
  have hBounded :
      (if 0 < attempts then some (Value.int attempts)
        else none) =
        if decide (0 < attempts) = true then
          some (.int attempts)
        else none := by
    simp only [decide_eq_true_eq]
  unfold ofConfigurator ofDelay
  simp only [hRetry, hDelay, hQueue, Value.isPositive_int,
    Value.isNegative_int hSign]
  rw [hBounded]
  rfl

/- A queue that is not positive does not bound attempts. -/
theorem follows_unbounded
    (hRetry :
      configurator.option .retryDownedHosts = .bool true)
    (hDelay :
      configurator.option .retryDownedHostsDelayInSeconds =
        .int delay)
    (hQueue :
      configurator.option .retryDownedHostsQueueSize =
        .int attempts)
    (hSign : 0 ≤ delay)
    (hUnbounded : attempts ≤ 0) :
    Follows configurator (.repeated (.int delay) none) := by
  refine
    ⟨_, ofConfigurator_of_delay hRetry hDelay hQueue hSign,
      ?_⟩
  rw [if_neg (Int.not_lt.mpr hUnbounded)]
  rfl

/- A queue that is positive bounds attempts. -/
theorem follows_bounded
    (hRetry :
      configurator.option .retryDownedHosts = .bool true)
    (hDelay :
      configurator.option .retryDownedHostsDelayInSeconds =
        .int delay)
    (hQueue :
      configurator.option .retryDownedHostsQueueSize =
        .int attempts)
    (hSign : 0 ≤ delay)
    (hPositive : 0 < attempts)
    (hFits : Setting.fits 32 attempts = true) :
    Follows configurator
      (.repeated (.int delay) (some attempts.toNat)) := by
  refine
    ⟨_, ofConfigurator_of_delay hRetry hDelay hQueue hSign,
      ?_⟩
  have hSmall : ¬ (maxCount : Int) < attempts := by
    unfold Setting.fits at hFits
    simp only [Bool.and_eq_true, decide_eq_true_eq] at hFits
    have hBound : Int.ofNat (Nat.pow 2 (32 - 1)) < maxCount := by
      decide
    omega
  rw [if_pos hPositive]
  simp only [schedule, countOf, if_neg hSmall, Except.map]

end ReconnectionPolicy

end Keyspaces

------------------------------------------------------------
-- What a Reference Prescribes
------------------------------------------------------------

namespace Keyspaces

namespace ReconnectionPolicy

/-
  The schedule that the attributes of a reference prescribe. A
  delay below one second, whatever the queue, leaves no delays
  at all. A longer one is repeated as many times as the queue
  is large, if it is positive, and else without end. So is the
  default when no delay is given, whatever the queue.
-/
inductive Prescribes
    (reference : Reference) : Schedule → Prop
| disabled
    {delay : Int}
    (hDelay :
      reference.Sets .retryDownedHostsDelayInSeconds
        (.int delay))
    (hShort : delay < 1) :
    Prescribes reference .finished
| bounded
    {delay attempts : Int}
    (hDelay :
      reference.Sets .retryDownedHostsDelayInSeconds
        (.int delay))
    (hLong : 1 ≤ delay)
    (hQueue :
      reference.Sets .retryDownedHostsQueueSize
        (.int attempts))
    (hPositive : 0 < attempts) :
    Prescribes reference
      (.repeated (.int delay) (some attempts.toNat))
| unbounded
    {delay attempts : Int}
    (hDelay :
      reference.Sets .retryDownedHostsDelayInSeconds
        (.int delay))
    (hLong : 1 ≤ delay)
    (hQueue :
      reference.Sets .retryDownedHostsQueueSize
        (.int attempts))
    (hUnbounded : attempts ≤ 0) :
    Prescribes reference (.repeated (.int delay) none)
| unqueued
    {delay : Int}
    (hDelay :
      reference.Sets .retryDownedHostsDelayInSeconds
        (.int delay))
    (hLong : 1 ≤ delay)
    (hQueue :
      ∀ content,
        ¬ reference.Carries "retryDownedHostsQueueSize"
            content) :
    Prescribes reference (.repeated (.int delay) none)
| undelayed
    (hDelay :
      ∀ content,
        ¬ reference.Carries "retryDownedHostDelayInSeconds"
            content) :
    Prescribes reference (.repeated (.int 10) none)

end ReconnectionPolicy

namespace Resource

open ReconnectionPolicy

variable {conf : Config}
variable {reference : Reference}
variable {resource : Resource}
variable {text : String}
variable {port : Value}
variable {options : List (HostOption × Value)}

/- A content of an attribute that is accepted is set. -/
theorem exists_sets_of_accepts
    {name : String}
    {content : Value}
    {option : HostOption}
    (hAccepts : reference.Accepts option)
    (hActive : reference.Activates option)
    (hName : option.attribute? = some name)
    (hCarries : reference.Carries name content) :
    ∃ value,
      reference.Sets option value ∧ option.Admits value := by
  rcases hAccepts hActive name content hName hCarries with
    ⟨value, hCoerce⟩
  exact
    ⟨value,
      ⟨hActive, name, content, hName, hCarries, hCoerce⟩,
      HostOption.admits_of_coerce hCoerce⟩

/- A reference prescribes some schedule. -/
theorem exists_prescribes
    (hOptions : optionsOf reference = .ok options) :
    ∃ schedule, Prescribes reference schedule := by
  rcases accepts_of_optionsOf hOptions with
    ⟨hDelayAccepts, hQueueAccepts⟩
  by_cases hDelay :
      ∃ content,
        reference.Carries "retryDownedHostDelayInSeconds"
          content
  · rcases hDelay with ⟨content, hCarries⟩
    rcases exists_sets_of_accepts hDelayAccepts trivial rfl
        hCarries with
      ⟨_, hDelay, delay, rfl, _⟩
    by_cases hShort : delay < 1
    · exact ⟨_, .disabled hDelay hShort⟩
    have hLong := Int.not_lt.mp hShort
    by_cases hQueue :
        ∃ content,
          reference.Carries "retryDownedHostsQueueSize"
            content
    · rcases hQueue with ⟨size, hSize⟩
      rcases exists_sets_of_accepts hQueueAccepts
          ⟨content, hCarries⟩ rfl hSize with
        ⟨_, hQueue, attempts, rfl, _⟩
      by_cases hPositive : 0 < attempts
      · exact ⟨_, .bounded hDelay hLong hQueue hPositive⟩
      · have hNone := Int.not_lt.mp hPositive
        exact ⟨_, .unbounded hDelay hLong hQueue hNone⟩
    · rw [not_exists] at hQueue
      exact ⟨_, .unqueued hDelay hLong hQueue⟩
  · rw [not_exists] at hDelay
    exact ⟨_, .undelayed hDelay⟩

/- Hosts are not retried if the delay disables this. -/
theorem ReadAs.retry_of_disables
    (h : ReadAs conf reference resource text port options)
    (hDisables : reference.DisablesRetry) :
    resource.configurator.option .retryDownedHosts =
      .bool false := by
  apply h.option_eq_of_yields
  rw [yields_retry_iff]
  exact ⟨rfl, hDisables⟩

/- Hosts are retried unless the delay disables this. -/
theorem ReadAs.retry_of_not_disables
    (h : ReadAs conf reference resource text port options)
    (hDisables : ¬ reference.DisablesRetry) :
    resource.configurator.option .retryDownedHosts =
      .bool true := by
  apply h.option_eq_default
  intro value hYields
  rw [yields_retry_iff] at hYields
  exact hDisables hYields.2

/- A delay of at least one second does not disable it. -/
theorem not_disablesRetry_of_sets
    {delay : Int}
    (hDelay :
      reference.Sets .retryDownedHostsDelayInSeconds
        (.int delay))
    (hLong : 1 ≤ delay) :
    ¬ reference.DisablesRetry := by
  rintro ⟨other, hShort, hOther⟩
  have hSame := Value.int.inj (hDelay.unique hOther)
  omega

/- A queue that is not set is not bounded. -/
theorem ReadAs.queue_eq_default
    (h : ReadAs conf reference resource text port options)
    (hUnset :
      ∀ value,
        ¬ reference.Sets .retryDownedHostsQueueSize value) :
    resource.configurator.option .retryDownedHostsQueueSize =
      .int (-1) := by
  apply h.option_eq_default
  intro value hYields
  apply hUnset value
  apply hYields.sets (by simp)
  exact activates_of_yields_queue hYields

/- The schedule that a reference prescribes is followed. -/
theorem ReadAs.follows_of_prescribes
    (h : ReadAs conf reference resource text port options)
    {schedule : Schedule}
    (hPrescribes : Prescribes reference schedule) :
    Follows resource.configurator schedule := by
  cases hPrescribes with
  | @disabled delay hDelay hShort =>
      apply follows_finished
      exact h.retry_of_disables ⟨delay, hShort, hDelay⟩
  | @bounded delay attempts hDelay hLong hQueue hPositive =>
      have hRetry :=
        h.retry_of_not_disables
          (not_disablesRetry_of_sets hDelay hLong)
      have hSize := h.option_eq_of_sets hQueue
      have hFits : Setting.fits 32 attempts = true := by
        rcases h.admits .retryDownedHostsQueueSize with
          ⟨n, hSame, hFits⟩
        rw [hSize] at hSame
        cases hSame
        exact hFits
      exact
        follows_bounded hRetry (h.option_eq_of_sets hDelay)
          hSize (by omega) hPositive hFits
  | @unbounded delay attempts hDelay hLong hQueue hNone =>
      have hRetry :=
        h.retry_of_not_disables
          (not_disablesRetry_of_sets hDelay hLong)
      exact
        follows_unbounded hRetry (h.option_eq_of_sets hDelay)
          (h.option_eq_of_sets hQueue) (by omega) hNone
  | @unqueued delay hDelay hLong hQueue =>
      have hRetry :=
        h.retry_of_not_disables
          (not_disablesRetry_of_sets hDelay hLong)
      have hSize := by
        apply h.queue_eq_default
        rintro value ⟨_, name, content, hName, hCarries, _⟩
        cases hName
        exact hQueue content hCarries
      exact
        follows_unbounded hRetry (h.option_eq_of_sets hDelay)
          hSize (by omega) (by omega)
  | undelayed hDelay =>
      have hUnset : ∀ value,
          ¬ reference.Sets .retryDownedHostsDelayInSeconds
              value := by
        rintro value ⟨_, name, content, hName, hCarries, _⟩
        cases hName
        exact hDelay content hCarries
      have hRetry := by
        apply h.retry_of_not_disables
        rintro ⟨delay, _, hSets⟩
        exact hUnset _ hSets
      have hDefault :
          resource.configurator.option
              .retryDownedHostsDelayInSeconds =
            .int 10 := by
        apply h.option_eq_default
        intro value hYields
        exact hUnset value (hYields.sets (by simp) trivial)
      have hSize := by
        apply h.queue_eq_default
        rintro value ⟨⟨content, hCarries⟩, _⟩
        exact hDelay content hCarries
      exact
        follows_unbounded hRetry hDefault hSize (by omega)
          (by omega)

end Resource

end Keyspaces

------------------------------------------------------------
-- The Schedule
------------------------------------------------------------

namespace Keyspaces

namespace Resource

open ReconnectionPolicy

/- A resource that is read has a schedule. -/
theorem exists_follows
    {conf : Config}
    {reference : Reference}
    {resource : Resource}
    (hResource : ofReference conf reference = .ok resource) :
    ∃ schedule,
      Prescribes reference schedule ∧
        Follows resource.configurator schedule := by
  rcases exists_readAs hResource with ⟨_, _, _, hRead⟩
  rcases exists_prescribes hRead.entries with
    ⟨schedule, hPrescribes⟩
  exact
    ⟨schedule, hPrescribes,
      hRead.follows_of_prescribes hPrescribes⟩

end Resource

namespace ReconnectionPolicy

/-
  A resource that is read has a schedule for reconnecting with
  its hosts, which is the one that the reference prescribes.
-/
theorem follows_iff_prescribes
    {conf : Config}
    {reference : Reference}
    {resource : Resource}
    (hParse :
      Resource.parse conf reference.toValue = .ok resource) :
    (∃ schedule, Follows resource.configurator schedule) ∧
      ∀ schedule,
        Follows resource.configurator schedule ↔
          Prescribes reference schedule := by
  have hResource :
      Resource.ofReference conf reference = .ok resource :=
    hParse
  rcases Resource.exists_readAs hResource with
    ⟨_, _, _, hRead⟩
  rcases Resource.exists_follows hResource with
    ⟨followed, hPrescribed, hFollowed⟩
  refine ⟨⟨followed, hFollowed⟩, ?_⟩
  intro schedule
  constructor
  · intro hFollows
    rw [hFollows.unique hFollowed]
    exact hPrescribed
  · exact hRead.follows_of_prescribes

namespace Sample

/- A reference with a delay and a queue of some size. -/
def reference (delay size : String) : Reference :=
  ⟨none, none,
    [("hosts", .text "a"),
     ("clusterName", .text "C"),
     ("keyspace", .text "K"),
     ("retryDownedHostDelayInSeconds", .text delay),
     ("retryDownedHostsQueueSize", .text size)]⟩

end Sample

/- A delay of thirty seconds is repeated five times. -/
theorem prescribes_sample :
    ∃ resource,
      Resource.parse .empty
          (Sample.reference "30" "5").toValue =
        .ok resource ∧
      Follows resource.configurator
        (.repeated (.int 30) (some 5)) ∧
      Prescribes (Sample.reference "30" "5")
        (.repeated (.int 30) (some 5)) := by
  have hRead :
      ∃ resource,
        Resource.parse .empty
            (Sample.reference "30" "5").toValue =
          .ok resource ∧
        Follows resource.configurator
          (.repeated (.int 30) (some 5)) :=
    ⟨_, rfl, _, rfl, rfl⟩
  rcases hRead with ⟨resource, hParse, hFollows⟩
  have hSchedules := (follows_iff_prescribes hParse).2
  exact
    ⟨resource, hParse, hFollows,
      (hSchedules _).mp hFollows⟩

end ReconnectionPolicy

end Keyspaces
