import Keyspaces.Proofs.Custody

/-
  Resolving one resource harms no other: live clusters stay
  live and registered, and only the entry of the cluster that
  the reference names can change. So without shutdowns all
  handles that were resolved with one name share one live
  cluster, whatever fails in between.

  Main declarations:
    * `Application.Harmless`
    * `Application.Considerate`
    * `Application.considerate_run`
-/

------------------------------------------------------------
-- What May Change
------------------------------------------------------------

namespace Keyspaces

namespace Application

/-
  Entries of registries only change under the name, and what
  was resolved in between was resolved with the name.
-/
structure Confined
    (clusterName? : Option String)
    (before after : Application) : Prop where
  others :
    ∀ registry name, clusterName? ≠ some name →
      after.registered? registry name =
        before.registered? registry name
  named :
    ∀ registry name handle,
      after.Resolved registry name handle →
        before.Resolved registry name handle ∨
          clusterName? = some name

variable {clusterName? : Option String}

namespace Confined

/- Neither entries nor resolutions changed. -/
theorem of_same
    {before after : Application}
    (hRegistries : after.registries = before.registries)
    (hResolved :
      ∀ registry name handle,
        after.Resolved registry name handle ↔
          before.Resolved registry name handle) :
    Confined clusterName? before after where
  others := by
    intro registry name _
    rw [registered?, hRegistries]
    rfl
  named := by
    intro registry name handle h
    exact Or.inl ((hResolved registry name handle).mp h)

theorem of_alike
    {before after : Application}
    (h : Alike before after) :
    Confined clusterName? before after :=
  of_same h.registries h.resolved

theorem refl (app : Application) :
    Confined clusterName? app app :=
  of_same rfl fun _ _ _ => Iff.rfl

theorem trans
    {first second third : Application}
    (hFirst : Confined clusterName? first second)
    (hSecond : Confined clusterName? second third) :
    Confined clusterName? first third where
  others := by
    intro registry name hOther
    exact
      (hSecond.others registry name hOther).trans
        (hFirst.others registry name hOther)
  named := by
    intro registry name handle hResolved
    rcases hSecond.named registry name handle hResolved with
      hMiddle | hName
    · exact hFirst.named registry name handle hMiddle
    · exact Or.inr hName

/- The name is forgotten. -/
theorem forgetting
    (app : Application)
    (id : RegistryId)
    (name : String) :
    Confined (some name) app (app.forgetting id name) where
  others := by
    intro registry key hOther
    have hKey : ¬ (registry = id ∧ key = name) := by
      rintro ⟨_, rfl⟩
      exact hOther rfl
    rw [registered?_forgetting, if_neg hKey]
  named := by
    intro registry key handle hResolved
    rw [resolved_forgetting_iff] at hResolved
    exact Or.inl hResolved

end Confined

end Application

namespace Registry

open Application

/- Asking for a cluster changes at most the entry of its name. -/
theorem Obtained.confined
    {app : Application}
    {id : RegistryId}
    {name : String}
    {configurator : Configurator}
    {outcome : Except Failure ClusterId × Application}
    (hObtained : Obtained app id name configurator outcome) :
    Confined (some name) app outcome.2 where
  others := by
    intro registry key hOther
    cases hObtained with
    | reused _ => rfl
    | unmapped _ _ => rfl
    | refused _ _ _ => rfl
    | created _ _ _ =>
        have hKey : ¬ (registry = id ∧ key = name) := by
          rintro ⟨_, rfl⟩
          exact hOther rfl
        rw [registered?_created, if_neg hKey]
  named := by
    intro registry key handle hResolved
    exact
      Or.inl
        ((hObtained.resolved_iff registry key handle).mp
          hResolved)

theorem confined_of_getOrCreate
    {app obtained : Application}
    {id : RegistryId}
    {name : String}
    {configurator : Configurator}
    {answer : Except Failure ClusterId}
    (hObtain :
      (getOrCreate id name configurator).perform app =
        (answer, obtained)) :
    Confined (some name) app obtained := by
  have hObtained :=
    obtained_getOrCreate app id name configurator
  rw [hObtain] at hObtained
  exact hObtained.confined

end Registry

namespace KeyspaceFactory

open Application

variable {app : Application}
variable {id : FactoryId}
variable {factory : KeyspaceFactory}
variable {reference : Reference}
variable {name : Option String}

/- Rolling back changes at most the entry of the name. -/
theorem RolledBack.confined
    {registry : RegistryId}
    {key : String}
    {cluster : ClusterId}
    {existing : Option ClusterId}
    {outcome : Except Failure Unit × Application}
    (h : RolledBack app registry key cluster existing outcome) :
    Confined (some key) app outcome.2 := by
  have hForgotten := Confined.forgetting app registry key
  cases h with
  | untouched _ => exact .refl app
  | released _ _ =>
      exact
        hForgotten.trans (.of_same rfl fun _ _ _ => Iff.rfl)
  | abandoned _ _ => exact hForgotten

/- A connection that fails and is rolled back does as well. -/
theorem confined_undone
    {registry : RegistryId}
    {key : String}
    {keyspace : Option String}
    {cluster : ClusterId}
    {existing : Option ClusterId}
    {obtained failed undone : Application}
    {connected : Except Failure SessionId}
    {rolledBack : Except Failure Unit}
    (hObtained : Confined (some key) app obtained)
    (hConnect :
      (Handle.connect obtained.handles.size).perform
          (obtained.withHandle keyspace cluster) =
        (connected, failed))
    (hUndo :
      (rollBack registry key cluster existing).perform
          failed =
        (rolledBack, undone)) :
    Confined (some key) app undone := by
  have hSteady :=
    Handle.steady_connect obtained.handles.size
      (obtained.withHandle keyspace cluster)
  have hRolledBack :=
    rolledBack_rollBack failed registry key cluster existing
  rw [hConnect] at hSteady
  rw [hUndo] at hRolledBack
  have hMade :
      Confined (some key) obtained
        (obtained.withHandle keyspace cluster) :=
    .of_same rfl fun _ _ _ => Iff.rfl
  exact
    hObtained.trans
      (hMade.trans
        (.trans (.of_alike hSteady.alike)
          hRolledBack.confined))

/- Keeping what was resolved changes no entry. -/
theorem confined_keeping
    (resource : Resource)
    (resolution : Resolution)
    (label : String) :
    Confined (some resource.clusterName) app
      (app.keeping id factory resource resolution label) where
  others := fun _ _ _ => rfl
  named := by
    intro registry key handle hResolved
    rw [resolved_keeping_iff] at hResolved
    rcases hResolved with hOld | ⟨_, rfl, _⟩
    · exact Or.inl hOld
    · exact Or.inr rfl

/-
  Resolving a reference for the first time changes at most the
  entry of the cluster that it names.
-/
theorem Configured.confined
    {outcome : Except Failure HandleId × Application}
    (hConfigured :
      Configured app id factory reference name outcome) :
    Confined reference.clusterName? app outcome.2 := by
  cases hConfigured with
  | unread _ => exact .refl app
  | unavailable hResource hObtain =>
      rw [Resource.clusterName?_of_ofReference hResource]
      exact Registry.confined_of_getOrCreate hObtain
  | undecided hResource hObtain _ =>
      rw [Resource.clusterName?_of_ofReference hResource]
      exact
        (Registry.confined_of_getOrCreate hObtain).trans
          (.of_same rfl fun _ _ _ => Iff.rfl)
  | unreachable hResource hObtain _ _ hConnect hUndo =>
      rw [Resource.clusterName?_of_ofReference hResource]
      exact
        confined_undone
          (Registry.confined_of_getOrCreate hObtain) hConnect
          hUndo
  | stuck hResource hObtain _ _ hConnect hUndo =>
      rw [Resource.clusterName?_of_ofReference hResource]
      exact
        confined_undone
          (Registry.confined_of_getOrCreate hObtain) hConnect
          hUndo
  | @resolved resource cluster obtained ready connects
      hResource hObtain _ hReady =>
      rw [Resource.clusterName?_of_ofReference hResource]
      have hMade :
          Confined (some resource.clusterName) obtained
            (obtained.withHandle
              (some resource.keyspaceName) cluster) :=
        .of_same rfl fun _ _ _ => Iff.rfl
      have hSteady := steady_of_ready hReady
      exact
        (Registry.confined_of_getOrCreate hObtain).trans
          (hMade.trans
            (.trans (.of_alike hSteady.alike)
              (confined_keeping resource _ _)))

end KeyspaceFactory

namespace Factory

open Keyspaces.Action Application

/- Resolving a value changes at most the entry it names. -/
theorem confined_resolve
    (id : FactoryId)
    (value : Value)
    (name : Option String)
    (context : Option ContextId) :
    Relates (Confined value.clusterName?)
      (resolve id value name context) := by
  intro app
  have hAsked := asked_resolve app id value name context
  generalize (resolve id value name context).perform app =
    outcome at *
  cases hAsked with
  | keyspaces _ hAnswered =>
      cases hAnswered with
      | unfit _ => exact .refl app
      | known _ _ => exact .refl app
      | configured hValue _ hConfigured =>
          rw [Value.clusterName?, hValue]
          exact hConfigured.confined
  | recorder _ => exact .of_same rfl fun _ _ _ => Iff.rfl
  | inert _ => exact .refl app

end Factory

namespace Context

open Keyspaces.Action Application

/- Finding a factory changes no entry. -/
theorem Furnished.confined
    {importer : Importer}
    {id : ContextId}
    {name : String}
    {reference : Reference}
    {app : Application}
    {occurrences : List Occurrence}
    {outcome : Except Failure FactoryId × Application}
    (h :
      Furnished importer id name reference app occurrences
        outcome)
    (clusterName? : Option String) :
    Confined clusterName? app outcome.2 := by
  cases h <;> exact .of_same rfl fun _ _ _ => Iff.rfl

/- The name of the cluster in what a name is bound to. -/
def clusterName?
    (context : Context)
    (name : String) : Option String :=
  (context.bindings.get? name).bind Value.clusterName?

/-
  Looking a name up changes at most the entry that what is
  bound to it names.
-/
theorem confined_lookup
    (importer : Importer)
    (id : ContextId)
    (name : String)
    (app : Application) :
    Confined ((app.contexts.get id).clusterName? name) app
      ((lookup importer id name).perform app).2 := by
  rcases answered_lookup importer id name app with
    ⟨occurrences, hAnswered⟩
  generalize (lookup importer id name).perform app = outcome
    at *
  cases hAnswered with
  | unbound _ => exact .refl app
  | plain _ _ => exact .refl app
  | unfurnished _ _ hFurnished =>
      exact hFurnished.confined _
  | asked hBound _ hFurnished =>
      rw [clusterName?, hBound]
      exact
        (hFurnished.confined _).trans
          (Factory.confined_resolve _ _ _ _ _)

end Context

end Keyspaces

------------------------------------------------------------
-- Runs Without Shutdowns
------------------------------------------------------------

namespace Keyspaces

namespace Application

variable {registry : RegistryId}

/-
  A registry was made, and every handle that was resolved
  through it is on the live cluster registered under the name.
-/
structure Tended
    (registry : RegistryId)
    (app : Application) : Prop where
  coherent : app.Coherent
  made : registry < app.registries.size
  serves :
    ∀ name handle, app.Resolved registry name handle →
      app.Serves registry name handle

/- Making a registry changes no other registry. -/
theorem registered?_addRegistry
    (app : Application)
    (conf : Option Config)
    (hMade : registry < app.registries.size)
    (name : String) :
    ({ app with
      registries :=
        app.registries.add
          ⟨conf, .empty⟩ } : Application).registered? registry
            name =
      app.registered? registry name := by
  unfold registered?
  dsimp only
  rw [Pool.get_add_of_ne _ _ (Nat.ne_of_lt hMade)]

/- A step that shuts no cluster down keeps a registry tended. -/
theorem Tended.perform
    {app : Application}
    (h : Tended registry app)
    {step : Step}
    (hOpen : ¬ step.ShutsDown) :
    Tended registry (step.perform app) := by
  have hAdvances := step.advances_perform app
  refine
    { coherent := hAdvances.coherent h.coherent
      made :=
        Nat.lt_of_lt_of_le h.made
          hAdvances.persists.registryCount
      serves := ?_ }
  intro name handle hResolved
  by_cases hRegistry : step.MakesRegistry
  · cases step with
    | operation importer done =>
        cases done with
        | createRegistry conf =>
            rcases h.serves name handle hResolved with
              ⟨hHandle, hRegistered, hLive⟩
            have hSame :=
              registered?_addRegistry app conf h.made name
            exact ⟨hHandle, hSame.trans hRegistered, hLive⟩
        | _ => exact absurd hRegistry id
    | reconfigure holder conf => exact absurd hRegistry id
  · have hExtends := step.extends_perform hOpen hRegistry app
    have hSpares := hExtends.spares h.coherent
    rcases hSpares.resolved registry name handle hResolved
      with hOld | hServes
    · exact
        (h.serves name handle hOld).of_spares
          hExtends.persists hSpares
    · exact hServes

/- A registry stays tended in a run without shutdowns. -/
theorem Tended.run
    {app : Application}
    (h : Tended registry app)
    {steps : List Step}
    (hOpen : ∀ step ∈ steps, ¬ step.ShutsDown) :
    Tended registry (app.run steps) :=
  run_induction
    (fun step hStep _ hBefore =>
      hBefore.perform (hOpen step hStep))
    h

end Application

end Keyspaces

------------------------------------------------------------
-- Consideration
------------------------------------------------------------

namespace Keyspaces

namespace Application

/-
  What was live stays live and registered, and only the entry
  of one name may change.
-/
structure Harmless
    (clusterName? : Option String)
    (before after : Application) : Prop
    extends Confined clusterName? before after where
  live :
    ∀ cluster, before.fleet.isLive cluster = true →
      after.fleet.isLive cluster = true
  kept :
    ∀ registry name cluster,
      before.registered? registry name = some cluster →
        before.fleet.isLive cluster = true →
          after.registered? registry name = some cluster

/- What is confined and spares the rest harms nothing. -/
theorem Harmless.of_extends
    {clusterName? : Option String}
    {before after : Application}
    (hCoherent : before.Coherent)
    (hConfined : Confined clusterName? before after)
    (hExtends : Extends before after) :
    Harmless clusterName? before after where
  toConfined := hConfined
  live := (hExtends.spares hCoherent).live
  kept := (hExtends.spares hCoherent).kept

/-
  Resolutions and lookups harm no cluster, whether they
  succeed or fail, and change at most the entry of the cluster
  that is named. The history tells of every handle that is
  answered, and does not forget it. A factory resolves through
  the registry that it was made with, and a context through
  the one that the arguments choose that it was made with; the
  first time this is with the name that is given. While no
  cluster is shut down on purpose, handles that were resolved
  with one name through a registry share the live cluster that
  is registered under it.
-/
structure Considerate (app : Application) : Prop where
  resolves :
    ∀ id value name context,
      Harmless value.clusterName? app
        ((Factory.resolve id value name context).perform
          app).2
  looksUp :
    ∀ importer id name,
      Harmless ((app.contexts.get id).clusterName? name) app
        ((Context.lookup importer id name).perform app).2
  answered :
    ∀ id value name context handle after,
      (Factory.resolve id value name context).perform app =
          (.ok (.handle handle), after) →
        ∃ factory clusterName,
          app.factories.get id = .keyspaces factory ∧
            after.Resolved factory.registry clusterName
                handle ∧
              (factory.resolved = none →
                value.clusterName? = some clusterName)
  found :
    ∀ importer id name handle after,
      (Context.lookup importer id name).perform app =
          (.ok (.handle handle), after) →
        Context.Traces app id name handle after
  makes :
    ∀ importer registry conf, ∀ steps : List Step,
      ∃ factory,
        ((Operation.perform importer
              (.createFactory registry conf) app).run
            steps).factories.get app.factories.size =
          .keyspaces factory ∧
            factory.registry =
              registry.getD processRegistry
  opens :
    ∀ importer arguments registry,
      Argument.Chooses arguments registry →
        ∀ steps : List Step,
          Argument.Chooses
            (((Operation.perform importer
                    (.createContext arguments) app).run
                  steps).contexts.get
              app.contexts.size).arguments
            registry
  recalls :
    ∀ steps : List Step, Recalls app (app.run steps)
  shared :
    ∀ registry, registry < app.registries.size →
      (∀ name handle, app.Resolved registry name handle →
          app.Serves registry name handle) →
        ∀ steps : List Step,
          (∀ step ∈ steps, ¬ step.ShutsDown) →
            ∀ name first second,
              (app.run steps).Resolved registry name first →
                (app.run steps).Resolved registry name
                    second →
                  ∃ cluster,
                    ((app.run steps).handles.get
                          first).cluster =
                        cluster ∧
                      ((app.run steps).handles.get
                            second).cluster =
                          cluster ∧
                        (app.run steps).registered? registry
                              name =
                            some cluster ∧
                          (app.run steps).fleet.isLive
                              cluster =
                            true

/-
  A factory that was made with a registry uses it from then
  on, and that of the process if it was made with none.
-/
theorem exists_createFactory
    {app : Application}
    (importer : Importer)
    (registry : Option RegistryId)
    (conf : Option Config)
    (steps : List Step) :
    ∃ factory,
      ((Operation.perform importer
            (.createFactory registry conf) app).run
          steps).factories.get app.factories.size =
        .keyspaces factory ∧
          factory.registry =
            registry.getD processRegistry := by
  have hMade :
      (Operation.perform importer
          (.createFactory registry conf) app).factories =
        app.factories.add
          (.keyspaces
            (KeyspaceFactory.create registry conf)) :=
    rfl
  have hSize :
      app.factories.size <
        (Operation.perform importer
          (.createFactory registry conf)
            app).factories.size :=
    Nat.lt_succ_self _
  have hFactory := Pool.get_add_self app.factories
    (.keyspaces (KeyspaceFactory.create registry conf))
  rw [← hMade] at hFactory
  rcases (advances_run _ steps).persists.factories _ _ hSize
      hFactory with
    ⟨later, hLater, hRegistry, _⟩
  exact ⟨later, hLater, hRegistry⟩

/-
  A context that was made with arguments chooses the registry
  that these choose from then on.
-/
theorem chooses_createContext
    {app : Application}
    (importer : Importer)
    {arguments : List Argument}
    {registry : RegistryId}
    (hChooses : Argument.Chooses arguments registry)
    (steps : List Step) :
    Argument.Chooses
      (((Operation.perform importer
              (.createContext arguments) app).run
            steps).contexts.get
        app.contexts.size).arguments
      registry := by
  have hMade :
      (Operation.perform importer
          (.createContext arguments) app).contexts =
        app.contexts.add ⟨arguments, .empty, .empty⟩ :=
    rfl
  have hSize :
      app.contexts.size <
        (Operation.perform importer
          (.createContext arguments) app).contexts.size :=
    Nat.lt_succ_self _
  have hContext := Pool.get_add_self app.contexts
    ⟨arguments, .empty, .empty⟩
  rw [← hMade] at hContext
  refine
    (advances_run _ steps).persists.contexts _ registry hSize
      ?_
  rw [hContext]
  exact hChooses

/- Every application that is reached is considerate. -/
theorem considerate_run
    (conf : Config)
    (faults : Faults)
    (steps : List Step) :
    Considerate ((start conf faults).run steps) := by
  have hCoherent := coherent_run conf faults steps
  constructor
  case resolves =>
    intro id value name context
    exact
      .of_extends hCoherent
        (Factory.confined_resolve id value name context _)
        (Factory.extends_resolve id value name context _)
  case looksUp =>
    intro importer id name
    exact
      .of_extends hCoherent
        (Context.confined_lookup importer id name _)
        (Context.extends_lookup importer id name _)
  case answered =>
    intro id value name context handle after hAnswer
    rcases Factory.resolved_of_resolve hCoherent.resolutions
        hAnswer with
      ⟨factory, clusterName, hFactory, hResolved, hFirst⟩
    refine
      ⟨factory, clusterName, hFactory, hResolved, ?_⟩
    intro hNone
    rcases hFirst hNone with ⟨resource, hParsed, rfl⟩
    exact Resource.clusterName?_of_parse hParsed
  case found =>
    intro importer id name handle after hAnswer
    exact Context.resolved_of_lookup hCoherent hAnswer
  case makes =>
    intro importer registry conf later
    exact exists_createFactory importer registry conf later
  case opens =>
    intro importer arguments registry hChooses later
    exact chooses_createContext importer hChooses later
  case recalls =>
    intro later
    exact (advances_run _ later).persists.recalls
  case shared =>
    intro registry hMade hServes later hOpen name first second
      hFirst hSecond
    have hTended :=
      Tended.run ⟨hCoherent, hMade, hServes⟩ hOpen
    rcases hTended.serves name first hFirst with
      ⟨_, hFirstKept, hLive⟩
    rcases hTended.serves name second hSecond with
      ⟨_, hSecondKept, _⟩
    rw [hFirstKept] at hSecondKept
    exact
      ⟨_, rfl, (Option.some.inj hSecondKept).symm, hFirstKept,
        hLive⟩

namespace Sample

/-
  Of three factories that resolve the same reference, the
  second one connects, which fails.
-/
def sharing : List Step :=
  let reference := Resource.Sample.reference.toValue
  let connecting :=
    Config.ofList
      [(Setting.connectOnResolve.key, .bool true)]
  [.operation .standard (.createFactory none none),
   .operation .standard
     (.createFactory none (some connecting)),
   .operation .standard (.createFactory none none),
   .operation .standard (.setFaults ⟨[.connect 0], []⟩),
   .operation .standard (.resolve 0 reference none none),
   .operation .standard (.resolve 1 reference none none),
   .operation .standard (.resolve 2 reference none none)]

end Sample

/- The other two share their cluster. -/
theorem shared_sample :
    let app := (start .empty .none).run Sample.sharing
    (∃ factory,
        app.factories.get 1 = .keyspaces factory ∧
          factory.resolved = none) ∧
      ∃ cluster,
        (app.handles.get 0).cluster = cluster ∧
          (app.handles.get 2).cluster = cluster ∧
            app.registered? processRegistry "C" =
                some cluster ∧
              app.fleet.isLive cluster = true := by
  intro app
  have hNone : ∀ name handle,
      (start .empty .none).Resolved processRegistry name
          handle →
        (start .empty .none).Serves processRegistry name
          handle := by
    rintro name handle ⟨_, _, hEvent⟩
    exact absurd hEvent List.not_mem_nil
  have hOpen :
      ∀ step ∈ Sample.sharing, ¬ step.ShutsDown := by
    simp [Sample.sharing, Step.ShutsDown,
      Operation.ShutsDown]
  have hFirst : app.Resolved processRegistry "C" 0 :=
    ⟨_, _, List.mem_cons_of_mem _ List.mem_cons_self⟩
  have hSecond : app.Resolved processRegistry "C" 2 :=
    ⟨_, _,
      List.mem_of_getLast? (rfl : app.log.getLast? = _)⟩
  refine ⟨⟨_, rfl, rfl⟩, ?_⟩
  exact
    (considerate_run .empty .none []).shared processRegistry
      Nat.one_pos hNone Sample.sharing hOpen "C" 0 2 hFirst
      hSecond

end Application

end Keyspaces
