import Keyspaces.Proofs.Action

/-
  The history of an application as its log tells it: which
  registry created which cluster under which name, and which
  handle was resolved through which registry with which name
  of a cluster.

  Main declarations:
    * `Application.Created`
    * `Application.Resolved`
    * `Application.Recalls`
-/

------------------------------------------------------------
-- Creations and Resolutions
------------------------------------------------------------

namespace Keyspaces

namespace Application

/- The registry created the cluster under the name. -/
def Created
    (app : Application)
    (registry : RegistryId)
    (cluster : ClusterId)
    (name : String) : Prop :=
  ∃ hosts,
    Event.clusterCreated registry cluster name hosts ∈ app.log

/-
  The handle was resolved through the registry, on the cluster
  with the name.
-/
def Resolved
    (app : Application)
    (registry : RegistryId)
    (name : String)
    (handle : HandleId) : Prop :=
  ∃ label record,
    Event.keyspaceCreated registry name handle label record ∈
      app.log

/- An event adds a creation only if it is one. -/
theorem created_logged_iff
    (app : Application)
    (event : Event)
    (registry : RegistryId)
    (cluster : ClusterId)
    (name : String) :
    (app.logged event).Created registry cluster name ↔
      app.Created registry cluster name ∨
        ∃ hosts,
          event = .clusterCreated registry cluster name
            hosts := by
  simp only [Created, logged, List.mem_append,
    List.mem_singleton, exists_or, eq_comm]

/- An event adds a resolution only if it is one. -/
theorem resolved_logged_iff
    (app : Application)
    (event : Event)
    (registry : RegistryId)
    (name : String)
    (handle : HandleId) :
    (app.logged event).Resolved registry name handle ↔
      app.Resolved registry name handle ∨
        ∃ label record,
          event = .keyspaceCreated registry name handle label
            record := by
  simp only [Resolved, logged, List.mem_append,
    List.mem_singleton, exists_or, eq_comm]

end Application

end Keyspaces

------------------------------------------------------------
-- Recollection
------------------------------------------------------------

namespace Keyspaces

namespace Application

/- What was created and what was resolved is not forgotten. -/
structure Recalls (before after : Application) : Prop where
  created :
    ∀ registry cluster name,
      before.Created registry cluster name →
        after.Created registry cluster name
  resolved :
    ∀ registry name handle,
      before.Resolved registry name handle →
        after.Resolved registry name handle

namespace Recalls

/- Nothing is forgotten while the log only grows. -/
theorem of_prefix
    {before after : Application}
    (hLog : before.log <+: after.log) :
    Recalls before after where
  created := by
    rintro registry cluster name ⟨hosts, hEvent⟩
    exact ⟨hosts, hLog.subset hEvent⟩
  resolved := by
    rintro registry name handle ⟨label, record, hEvent⟩
    exact ⟨label, record, hLog.subset hEvent⟩

theorem of_log_eq
    {before after : Application}
    (hLog : after.log = before.log) :
    Recalls before after := by
  apply of_prefix
  simp [hLog]

theorem refl (app : Application) : Recalls app app :=
  of_log_eq rfl

theorem trans
    {first second third : Application}
    (hFirst : Recalls first second)
    (hSecond : Recalls second third) :
    Recalls first third where
  created := fun registry cluster name hCreated =>
    hSecond.created registry cluster name
      (hFirst.created registry cluster name hCreated)
  resolved := fun registry name handle hResolved =>
    hSecond.resolved registry name handle
      (hFirst.resolved registry name handle hResolved)

instance : IsPreorder Application Recalls where
  refl := refl
  trans _ _ _ := trans

/- Logging one more event forgets none. -/
theorem logged
    (app : Application)
    (event : Event) : Recalls app (app.logged event) :=
  of_prefix (List.prefix_append _ _)

end Recalls

end Application

end Keyspaces
