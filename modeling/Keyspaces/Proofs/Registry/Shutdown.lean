import Keyspaces.Proofs.Registry

/-
  Shutting down the clusters of a registry when the shutdown
  of some of them fails. What is selected is forgotten first
  and asked afterwards, one cluster after the other, up to the
  first that fails. So the clusters behind it are abandoned:
  they are neither asked to shut down nor registered any more.

  Main declarations:
    * `Registry.Asked`
    * `Registry.LosesNothing`
    * `Registry.Abandons`
    * `Registry.Disposes`
    * `Registry.disposes_shutdown`
-/

------------------------------------------------------------
-- Entries That Are Asked
------------------------------------------------------------

namespace Keyspaces

namespace Registry

namespace Closed

variable {app : Application}
variable {entries asked : List (String × ClusterId)}
variable {outcome : Except Failure Unit × Application}

/- The entries that are asked are the first ones. -/
theorem isPrefix
    (h : Closed app entries asked outcome) :
    asked <+: entries := by
  cases h with
  | all _ => exact List.prefix_rfl
  | @upTo served rest entry _ _ =>
      exact ⟨rest, List.append_assoc served [entry] rest⟩

/- The log tells of those that are asked. -/
theorem log
    (h : Closed app entries asked outcome) :
    outcome.2.log =
      app.log ++
        asked.map fun entry => .clusterShutdown entry.1 := by
  cases h with
  | all _ => exact app.log_closeAll entries
  | @upTo served rest entry _ _ =>
      rw [Application.logged, app.log_closeAll served,
        List.map_append, ← List.append_assoc]
      rfl

/- What is registered does not change meanwhile. -/
theorem registries
    (h : Closed app entries asked outcome) :
    outcome.2.registries = app.registries := by
  cases h with
  | all _ => exact app.registries_closeAll entries
  | @upTo served _ _ _ _ =>
      exact app.registries_closeAll served

/-
  A cluster that is asked is shut down, unless the failure of
  its shutdown is the one that ends it all.
-/
theorem obeyed
    (h : Closed app entries asked outcome)
    {entry : String × ClusterId}
    (hEntry : entry ∈ asked) :
    outcome.2.fleet.isLive entry.2 = false ∨
      outcome.1 =
        .error (Call.shutdownCluster entry.2).failure := by
  cases h with
  | all _ =>
      left
      rw [Application.isLive_closeAll,
        if_pos (List.mem_map_of_mem hEntry)]
  | @upTo served rest failing _ _ =>
      rw [List.mem_append, List.mem_singleton] at hEntry
      rcases hEntry with hServed | rfl
      · left
        change
          (app.closeAll served).fleet.isLive entry.2 = false
        rw [Application.isLive_closeAll,
          if_pos (List.mem_map_of_mem hServed)]
      · right
        rfl

/- A cluster that is not asked is as before. -/
theorem get_of_not_mem
    (h : Closed app entries asked outcome)
    {cluster : ClusterId}
    (hOther : cluster ∉ asked.map Prod.snd) :
    outcome.2.fleet.clusters.get cluster =
      app.fleet.clusters.get cluster := by
  cases h with
  | all _ => exact app.get_closeAll_of_not_mem hOther
  | @upTo served rest entry _ _ =>
      rw [List.map_append, List.mem_append, not_or] at hOther
      exact app.get_closeAll_of_not_mem hOther.1

/- All are shut down when the shutdown of none fails. -/
theorem returns_iff
    (h : Closed app entries asked outcome) :
    outcome.1 = .ok () ↔
      ∀ entry ∈ entries,
        Call.shutdownCluster entry.2 ∉
          app.fleet.faults.failing := by
  cases h with
  | all hReturn => exact iff_of_true rfl hReturn
  | upTo _ hFails =>
      refine iff_of_false (fun hOk => nomatch hOk) ?_
      intro hReturn
      refine hReturn _ ?_ hFails
      exact List.mem_append_right _ List.mem_cons_self

/- None of those that are asked fails but the last one. -/
theorem returned
    (h : Closed app entries asked outcome) :
    ∀ entry ∈ asked.dropLast,
      Call.shutdownCluster entry.2 ∉
        app.fleet.faults.failing := by
  cases h with
  | all hReturn =>
      intro entry hEntry
      exact hReturn entry (List.dropLast_subset _ hEntry)
  | upTo hServed _ =>
      rw [List.dropLast_concat]
      exact hServed

/- All are asked unless one of those that are asked fails. -/
theorem complete_or_failed
    (h : Closed app entries asked outcome) :
    asked = entries ∨
      ∃ entry ∈ asked,
        Call.shutdownCluster entry.2 ∈
          app.fleet.faults.failing := by
  cases h with
  | all _ => exact Or.inl rfl
  | @upTo _ _ entry _ hFails =>
      right
      refine ⟨entry, ?_, hFails⟩
      exact List.mem_append_right _ List.mem_cons_self

/- An entry is reached if none of those before it fails. -/
theorem reaches
    {before after : List (String × ClusterId)}
    {entry : String × ClusterId}
    (h : Closed app (before ++ entry :: after) asked outcome)
    (hBefore :
      ∀ other ∈ before,
        Call.shutdownCluster other.2 ∉
          app.fleet.faults.failing) :
    before ++ [entry] <+: asked := by
  have hOwn :
      before ++ [entry] <+: before ++ entry :: after :=
    ⟨after, List.append_assoc ..⟩
  rcases h.complete_or_failed with
    rfl | ⟨failing, hFailing, hFails⟩
  · exact hOwn
  · rcases List.prefix_or_prefix_of_prefix hOwn
        h.isPrefix with hReached | hShort
    · exact hReached
    · rcases List.prefix_concat_iff.mp hShort with
        rfl | hPrefix
      · exact List.prefix_rfl
      -- The one that fails would come before the entry.
      · exact
          absurd hFails
            (hBefore failing (hPrefix.subset hFailing))

/-
  A cluster is asked if the entries before some entry of its
  own are shut down without a failure.
-/
theorem mem_asked_iff
    (h : Closed app entries asked outcome)
    (cluster : ClusterId) :
    cluster ∈ asked.map Prod.snd ↔
      ∃ before key after,
        entries = before ++ (key, cluster) :: after ∧
          ∀ entry ∈ before,
            Call.shutdownCluster entry.2 ∉
              app.fleet.faults.failing := by
  constructor
  · intro hCluster
    rcases List.mem_map.mp hCluster with
      ⟨⟨key, _⟩, hEntry, rfl⟩
    rcases List.append_of_mem hEntry with
      ⟨before, after, rfl⟩
    rcases h.isPrefix with ⟨rest, rfl⟩
    refine ⟨before, key, after ++ rest, ?_, ?_⟩
    · exact List.append_assoc ..
    · intro entry hBefore
      apply h.returned
      rw [List.dropLast_append_of_ne_nil (by simp)]
      exact List.mem_append_left _ hBefore
  · rintro ⟨before, key, after, rfl, hBefore⟩
    have hEntry : (key, cluster) ∈ asked :=
      (h.reaches hBefore).subset
        (List.mem_append_right _ List.mem_cons_self)
    exact List.mem_map_of_mem hEntry

end Closed

/-
  A shutdown forgets what it selects and then shuts it down
  in order.
-/
theorem exists_closed_shutdown
    (app : Application)
    (id : RegistryId)
    (name : Option String) :
    ∃ asked,
      Closed
        (app.setRegistered id
          ((app.registries.get id).remaining name))
        ((app.registries.get id).selected name) asked
        ((shutdown id name).perform app) := by
  rw [shutdown,
    Action.perform_bind_of_ok (Action.perform_get app),
    Action.perform_bind_of_ok (Action.perform_modify _ app)]
  exact exists_closed_shutdownAll _ _

end Registry

end Keyspaces

------------------------------------------------------------
-- What Happens to a Cluster
------------------------------------------------------------

namespace Keyspaces

namespace Registry

/-
  A shutdown selects a cluster: it is registered, and under
  the name if one is given.
-/
def Selects
    (app : Application)
    (id : RegistryId)
    (name : Option String)
    (cluster : ClusterId) : Prop :=
  ∃ key, app.registered? id key = some cluster ∧
    (name = none ∨ name = some key)

/-
  A cluster was asked to shut down: the log tells so of a name
  that it was registered under, and it is shut down, unless it
  failed to and all ended with this failure.
-/
structure Asked
    (before : Application)
    (id : RegistryId)
    (outcome : Except Failure Unit × Application)
    (cluster : ClusterId) : Prop where
  told :
    ∃ key events,
      before.registered? id key = some cluster ∧
        outcome.2.log = before.log ++ events ∧
          Event.clusterShutdown key ∈ events
  obeyed :
    outcome.2.fleet.isLive cluster = false ∨
      outcome.1 =
        .error (Call.shutdownCluster cluster).failure

/-
  A cluster is as before, registered wherever it was, and was
  not asked to shut down.
-/
structure Untouched
    (before : Application)
    (id : RegistryId)
    (outcome : Except Failure Unit × Application)
    (cluster : ClusterId) : Prop where
  same :
    outcome.2.fleet.clusters.get cluster =
      before.fleet.clusters.get cluster
  registered :
    ∀ registry key,
      before.registered? registry key = some cluster →
        outcome.2.registered? registry key = some cluster
  unasked : ¬ Asked before id outcome cluster

/-
  Every cluster that is selected was asked to shut down or is
  still registered, and the others are untouched.
-/
structure LosesNothing
    (before : Application)
    (id : RegistryId)
    (name : Option String)
    (outcome : Except Failure Unit × Application) :
    Prop where
  selected :
    ∀ cluster, Selects before id name cluster →
      Asked before id outcome cluster ∨
        ∃ key, outcome.2.registered? id key = some cluster
  others :
    ∀ cluster, ¬ Selects before id name cluster →
      Untouched before id outcome cluster

/-
  A shutdown of all clusters abandons one that is registered
  if, under each of its names, it comes behind another one
  whose shutdown fails.
-/
structure Abandons
    (app : Application)
    (id : RegistryId)
    (name : Option String)
    (cluster : ClusterId) : Prop where
  all : name = none
  registered :
    ∃ key, app.registered? id key = some cluster
  behind :
    ∀ before key after,
      (app.registries.get id).clusters.entries =
          before ++ (key, cluster) :: after →
        ∃ entry ∈ before,
          Call.shutdownCluster entry.2 ∈
            app.fleet.faults.failing

/- What is selected is in the entries that are selected. -/
theorem selects_iff
    (app : Application)
    (id : RegistryId)
    (name : Option String)
    (cluster : ClusterId) :
    Selects app id name cluster ↔
      cluster ∈
        ((app.registries.get id).selected name).map
          Prod.snd := by
  simp only [Selects, List.mem_map, Prod.exists,
    exists_eq_right, mem_selected_iff]

namespace Closed

variable {app : Application}
variable {id : RegistryId}
variable {name : Option String}
variable {asked : List (String × ClusterId)}
variable {outcome : Except Failure Unit × Application}

/- A shutdown ended, and these entries were asked. -/
variable
  (h :
    Closed
      (app.setRegistered id
        ((app.registries.get id).remaining name))
      ((app.registries.get id).selected name) asked outcome)

include h

/- What is selected is not registered afterwards. -/
theorem registered?
    (other : RegistryId)
    (key : String) :
    outcome.2.registered? other key =
      if other = id ∧ (name = none ∨ name = some key) then
        none
      else
        app.registered? other key := by
  rw [← Application.registered?_remaining,
    Application.registered?, h.registries]
  rfl

/- The clusters of the entries that are asked are asked. -/
theorem asked_iff (cluster : ClusterId) :
    Asked app id outcome cluster ↔
      cluster ∈ asked.map Prod.snd := by
  have hLog :
      outcome.2.log =
        app.log ++
          asked.map fun entry => .clusterShutdown entry.1 :=
    h.log
  have hRegistered : ∀ entry ∈ asked,
      app.registered? id entry.1 = some entry.2 := by
    intro entry hEntry
    exact
      ((mem_selected_iff app id name entry.1 entry.2).mp
        (h.isPrefix.subset hEntry)).1
  constructor
  · intro hAsked
    rcases hAsked.told with
      ⟨key, events, hKey, hEvents, hEvent⟩
    rw [hLog, List.append_cancel_left_eq] at hEvents
    rw [← hEvents] at hEvent
    rcases List.mem_map.mp hEvent with
      ⟨entry, hEntry, hTold⟩
    cases hTold
    have hSame := (hRegistered entry hEntry).symm.trans hKey
    rw [← Option.some.inj hSame]
    exact List.mem_map_of_mem hEntry
  · intro hCluster
    rcases List.mem_map.mp hCluster with
      ⟨entry, hEntry, rfl⟩
    exact
      { told :=
          ⟨entry.1, _, hRegistered entry hEntry, hLog,
            List.mem_map_of_mem hEntry⟩
        obeyed := h.obeyed hEntry }

/- A cluster that is not selected is untouched. -/
theorem untouched
    {cluster : ClusterId}
    (hOther : ¬ Selects app id name cluster) :
    Untouched app id outcome cluster := by
  have hUnasked : cluster ∉ asked.map Prod.snd := by
    intro hCluster
    apply hOther
    rw [selects_iff]
    exact (h.isPrefix.map Prod.snd).subset hCluster
  constructor
  case same => exact h.get_of_not_mem hUnasked
  case registered =>
    intro registry key hKey
    rw [h.registered?, if_neg ?_]
    · exact hKey
    · rintro ⟨rfl, hName⟩
      exact hOther ⟨key, hKey, hName⟩
  case unasked =>
    rw [h.asked_iff]
    exact hUnasked

/-
  What is abandoned is what is selected without being asked.
  When a single name is given its cluster is always asked.
-/
theorem abandons_iff_not_asked (cluster : ClusterId) :
    Abandons app id name cluster ↔
      Selects app id name cluster ∧
        ¬ Asked app id outcome cluster := by
  rw [h.asked_iff, h.mem_asked_iff]
  constructor
  · rintro ⟨rfl, ⟨key, hKey⟩, hBehind⟩
    refine ⟨⟨key, hKey, Or.inl rfl⟩, ?_⟩
    rintro ⟨before, other, after, hEntries, hReturn⟩
    rcases hBehind before other after hEntries with
      ⟨entry, hEntry, hFails⟩
    exact hReturn entry hEntry hFails
  · rintro ⟨⟨key, hKey, hName⟩, hUnasked⟩
    rcases hName with rfl | rfl
    · refine ⟨rfl, ⟨key, hKey⟩, ?_⟩
      intro before other after hEntries
      by_contra hReturn
      apply hUnasked
      refine ⟨before, other, after, hEntries, ?_⟩
      intro entry hEntry hFails
      exact hReturn ⟨entry, hEntry, hFails⟩
    · refine absurd ?_ hUnasked
      exact
        ⟨[], key, [], selected_some hKey,
          fun _ h => nomatch h⟩

/- It is not registered any more either. -/
theorem abandons_iff (cluster : ClusterId) :
    Abandons app id name cluster ↔
      Selects app id name cluster ∧
        ¬ Asked app id outcome cluster ∧
          ∀ key,
            outcome.2.registered? id key ≠ some cluster := by
  constructor
  · intro hAbandoned
    rcases (h.abandons_iff_not_asked cluster).mp
        hAbandoned with
      ⟨hSelected, hUnasked⟩
    refine ⟨hSelected, hUnasked, ?_⟩
    intro key hKey
    rw [h.registered?,
      if_pos ⟨rfl, Or.inl hAbandoned.all⟩] at hKey
    contradiction
  · rintro ⟨hSelected, hUnasked, _⟩
    exact
      (h.abandons_iff_not_asked cluster).mpr
        ⟨hSelected, hUnasked⟩

/- So nothing is lost unless something is abandoned. -/
theorem losesNothing_iff :
    LosesNothing app id name outcome ↔
      ∀ cluster, ¬ Abandons app id name cluster := by
  constructor
  · intro hNothing cluster hAbandoned
    rcases (h.abandons_iff cluster).mp hAbandoned with
      ⟨hSelected, hUnasked, hForgotten⟩
    rcases hNothing.selected cluster hSelected with
      hAsked | ⟨key, hKey⟩
    · exact hUnasked hAsked
    · exact hForgotten key hKey
  · intro hNone
    constructor
    case selected =>
      intro cluster hSelected
      by_contra hLost
      rw [not_or, not_exists] at hLost
      exact
        hNone cluster
          ((h.abandons_iff cluster).mpr ⟨hSelected, hLost⟩)
    case others =>
      intro cluster hOther
      exact h.untouched hOther

end Closed

end Registry

end Keyspaces

------------------------------------------------------------
-- Shutting a Registry Down
------------------------------------------------------------

namespace Keyspaces

namespace Registry

/-
  What a shutdown leaves, whether it returns or fails. Nothing
  is lost unless a cluster is abandoned, and those abandoned
  are exactly those that are selected, not asked and no longer
  registered. They are left as they were, the live ones live.
  What is not selected is untouched in any case, and the
  shutdown returns exactly if that of no selected cluster
  fails.
-/
structure Disposes
    (before : Application)
    (id : RegistryId)
    (name : Option String)
    (outcome : Except Failure Unit × Application) :
    Prop where
  losesNothing :
    LosesNothing before id name outcome ↔
      ∀ cluster, ¬ Abandons before id name cluster
  abandons :
    ∀ cluster,
      Abandons before id name cluster ↔
        Selects before id name cluster ∧
          ¬ Asked before id outcome cluster ∧
            ∀ key,
              outcome.2.registered? id key ≠ some cluster
  abandoned :
    ∀ cluster, Abandons before id name cluster →
      outcome.2.fleet.clusters.get cluster =
        before.fleet.clusters.get cluster
  untouched :
    ∀ cluster, ¬ Selects before id name cluster →
      Untouched before id outcome cluster
  returns :
    outcome.1 = .ok () ↔
      ∀ cluster, Selects before id name cluster →
        Call.shutdownCluster cluster ∉
          before.fleet.faults.failing

/- Every shutdown disposes of clusters like this. -/
theorem disposes_shutdown
    (app : Application)
    (id : RegistryId)
    (name : Option String) :
    Disposes app id name
      ((shutdown id name).perform app) := by
  rcases exists_closed_shutdown app id name with
    ⟨asked, hClosed⟩
  constructor
  case losesNothing => exact hClosed.losesNothing_iff
  case abandons => exact hClosed.abandons_iff
  case abandoned =>
    intro cluster hAbandoned
    have hUnasked :=
      ((hClosed.abandons_iff_not_asked cluster).mp
        hAbandoned).2
    rw [hClosed.asked_iff] at hUnasked
    exact hClosed.get_of_not_mem hUnasked
  case untouched =>
    intro cluster hOther
    exact hClosed.untouched hOther
  case returns =>
    rw [hClosed.returns_iff]
    simp only [selects_iff, List.forall_mem_map]
    rfl

end Registry

end Keyspaces

------------------------------------------------------------
-- An Abandoned Cluster
------------------------------------------------------------

namespace Keyspaces

namespace Registry

namespace Sample

/- The clusters have a single host. -/
def configurator : Configurator :=
  .ofHosts [⟨"a", .int 9042⟩]

/- The shutdown of the first cluster fails. -/
def start : Application :=
  .start .empty ⟨[.shutdownCluster 0], []⟩

/- Two clusters are registered. -/
def before : Application :=
  ((do
    let _ ← getOrCreate Application.processRegistry "C"
      configurator
    getOrCreate Application.processRegistry "D"
      configurator).perform start).2

/- All clusters are shut down. -/
def outcome : Except Failure Unit × Application :=
  (shutdown Application.processRegistry none).perform before

end Sample

/-
  The second cluster is live, it was not asked to shut down,
  and no name stands for it any more.
-/
theorem not_losesNothing_sample :
    Sample.outcome.1 =
        .error (Call.shutdownCluster 0).failure ∧
      Sample.before.registered?
          Application.processRegistry "D" =
        some 1 ∧
      Sample.outcome.2.fleet.isLive 1 = true ∧
      (∀ key,
        Sample.outcome.2.registered?
            Application.processRegistry key =
          none) ∧
      ¬ LosesNothing Sample.before
        Application.processRegistry none Sample.outcome := by
  have hRegistered :
      Sample.before.registered?
          Application.processRegistry "D" =
        some 1 :=
    rfl
  have hForgotten : ∀ key,
      Sample.outcome.2.registered?
          Application.processRegistry key =
        none := by
    intro key
    rfl
  refine ⟨rfl, hRegistered, rfl, hForgotten, ?_⟩
  intro hNothing
  rcases hNothing.selected 1
      ⟨"D", hRegistered, Or.inl rfl⟩ with
    hAsked | ⟨key, hKey⟩
  · rcases hAsked.told with
      ⟨key, events, hKey, hEvents, hEvent⟩
    have hLog :
        Sample.outcome.2.log =
          Sample.before.log ++ [.clusterShutdown "C"] :=
      rfl
    rw [hLog, List.append_cancel_left_eq] at hEvents
    subst events
    rw [List.mem_singleton] at hEvent
    cases hEvent
    have hFirst :
        Sample.before.registered?
            Application.processRegistry "C" =
          some 0 :=
      rfl
    rw [hFirst] at hKey
    contradiction
  · rw [hForgotten] at hKey
    contradiction

end Registry

end Keyspaces
