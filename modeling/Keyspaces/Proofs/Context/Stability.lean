import Keyspaces.Proofs.Context.Retention
import Keyspaces.Proofs.Continuity.Operations
import Keyspaces.Proofs.Custody

/-
  Handles are stable: a name that was looked up stands for the
  same handle until it is bound anew or unbound, and a factory
  of keyspaces answers with the same handle for good, whatever
  happens to clusters, sessions and configurations. Answering
  again changes nothing.

  Main declarations:
    * `Factory.Answers`
    * `Context.Settled`
    * `Application.Stable`
    * `Application.stable_run`
-/

------------------------------------------------------------
-- Factories That Resolved
------------------------------------------------------------

namespace Keyspaces

namespace Factory

open Keyspaces.Action Application KeyspaceFactory

/-
  A factory of keyspaces exists and resolved a reference to
  the handle.
-/
def Answers
    (app : Application)
    (id : FactoryId)
    (handle : HandleId) : Prop :=
  id < app.factories.size ∧
    ∃ factory resolution,
      app.factories.get id = .keyspaces factory ∧
        factory.resolved = some resolution ∧
          resolution.handle = handle

variable {app after : Application}
variable {id : FactoryId}
variable {handle : HandleId}

/- A factory keeps what it resolved. -/
theorem Answers.of_persists
    {before : Application}
    (h : Answers before id handle)
    (hPersists : Persists before after) :
    Answers after id handle := by
  rcases h with
    ⟨hMade, factory, resolution, hFactory, hResolved, hHandle⟩
  rcases hPersists.factories id factory hMade hFactory with
    ⟨later, hLater, _, hKept⟩
  have hStill :=
    Nat.lt_of_lt_of_le hMade hPersists.factoryCount
  exact
    ⟨hStill, later, resolution, hLater,
      hKept resolution hResolved, hHandle⟩

/-
  A factory that resolved a reference answers every reference
  with the handle and changes nothing.
-/
theorem Answers.perform_resolve
    (h : Answers app id handle)
    {value : Value}
    {reference : Reference}
    (hValue : value.reference? = some reference)
    (name : Option String)
    (context : Option ContextId) :
    (resolve id value name context).perform app =
      (.ok (.handle handle), app) := by
  rcases h with
    ⟨_, factory, resolution, hFactory, hResolved, rfl⟩
  have hAnswered :=
    answered_resolve app id factory value name
  rw [perform_resolve_keyspaces hFactory]
  generalize (factory.resolve id value name).perform app =
    outcome at *
  cases hAnswered with
  | unfit hUnfit =>
      rw [hValue] at hUnfit
      contradiction
  | known _ hKnown =>
      rw [hResolved] at hKnown
      cases hKnown
      rfl
  | configured _ hUnresolved _ =>
      rw [hResolved] at hUnresolved
      contradiction

/- A factory that answers with a handle resolved to it. -/
theorem answers_of_resolve
    (hMade : id < app.factories.size)
    {value : Value}
    {name : Option String}
    {context : Option ContextId}
    (hAnswer :
      (resolve id value name context).perform app =
        (.ok (.handle handle), after)) :
    Answers after id handle := by
  have hExtends :=
    extends_resolve id value name context app
  rw [hAnswer] at hExtends
  have hStill :=
    Nat.lt_of_lt_of_le hMade hExtends.persists.factoryCount
  rcases answered_of_resolve hAnswer with
    ⟨factory, hFactory, hAnswered⟩
  cases hAnswered with
  | known _ hResolved =>
      exact ⟨hStill, factory, _, hFactory, hResolved, rfl⟩
  | configured _ _ hConfigured =>
      cases hConfigured with
      | resolved _ _ _ _ =>
          exact
            ⟨hStill, _, _, Pool.get_set_self _ _ _, rfl, rfl⟩

/-
  A factory of keyspaces rejects what is no reference and
  shows it if this can be done, and this changes nothing.
-/
theorem perform_resolve_unfit
    {factory : KeyspaceFactory}
    (hFactory : app.factories.get id = .keyspaces factory)
    {value : Value}
    (hValue : value.reference? = none)
    (name : Option String)
    (context : Option ContextId) :
    (resolve id value name context).perform app =
      (.error (.showing value (.notReference value)),
        app) := by
  have hAnswered :=
    answered_resolve app id factory value name
  rw [perform_resolve_keyspaces hFactory]
  generalize (factory.resolve id value name).perform app =
    outcome at *
  cases hAnswered with
  | unfit _ => rfl
  | known hReference _ =>
      rw [hValue] at hReference
      contradiction
  | configured hReference _ _ =>
      rw [hValue] at hReference
      contradiction

end Factory

end Keyspaces

------------------------------------------------------------
-- Names That Were Looked Up
------------------------------------------------------------

namespace Keyspaces

namespace Context

open Keyspaces.Action Application

/-
  A name is bound to a reference, and the factory remembered
  for it resolved to the handle.
-/
structure Settled
    (id : ContextId)
    (name : String)
    (value : Value)
    (factory : FactoryId)
    (handle : HandleId)
    (app : Application) : Prop where
  made : id < app.contexts.size
  isBound :
    (app.contexts.get id).bindings.get? name = some value
  isReference :
    ∃ reference, value.reference? = some reference
  remembered :
    (app.contexts.get id).factories.get? name = some factory
  answers : Factory.Answers app factory handle

variable {importer : Importer}
variable {id : ContextId}
variable {name : String}
variable {value : Value}
variable {factory : FactoryId}
variable {handle : HandleId}
variable {app after : Application}

/-
  Looking a settled name up answers with the handle and
  changes nothing, whatever its path may find by now.
-/
theorem Settled.perform_lookup
    (h : Settled id name value factory handle app)
    (importer : Importer) :
    (lookup importer id name).perform app =
      (.ok (.handle handle), app) := by
  rcases h.isReference with ⟨reference, hReference⟩
  have hFactoryOf :
      (factoryOf importer id name reference).perform app =
        (.ok factory, app) := by
    rw [factoryOf, perform_bind_of_ok (perform_get app)]
    simp only [h.remembered]
    rfl
  rw [lookup, perform_bind_of_ok (perform_get app)]
  simp only [h.isBound, hReference]
  rw [perform_bind_of_ok hFactoryOf]
  exact h.answers.perform_resolve hReference _ _

/- What a context remembers after a factory was found. -/
theorem Furnished.remembers
    {reference : Reference}
    {occurrences : List Occurrence}
    {furnished : Application}
    (h :
      Furnished importer id name reference app occurrences
        (.ok factory, furnished))
    (hCoherent : app.Coherent) :
    furnished.contexts.size = app.contexts.size ∧
      (furnished.contexts.get id).bindings =
          (app.contexts.get id).bindings ∧
        (furnished.contexts.get id).factories.get? name =
            some factory ∧
          factory < furnished.factories.size := by
  cases h with
  | remembered hFactory =>
      exact
        ⟨rfl, rfl, hFactory,
          hCoherent.remembered id name factory hFactory⟩
  | made _ _ _ _ _ =>
      refine ⟨rfl, ?_, ?_, Nat.lt_succ_self _⟩ <;>
        rw [remembering, get_setContext_self]
      exact Table.get?_insert_self _ _ _

/- A name is settled once it was looked up. -/
theorem settled_of_lookup
    (hCoherent : app.Coherent)
    (hMade : id < app.contexts.size)
    (hAnswer :
      (lookup importer id name).perform app =
        (.ok (.handle handle), after)) :
    ∃ value factory,
      Settled id name value factory handle after := by
  rcases asked_of_lookup hAnswer with
    ⟨value, reference, occurrences, factory, furnished,
      hBound, hReference, hFurnished, hResolve⟩
  rcases hFurnished.remembers hCoherent with
    ⟨hSize, hBindings, hFactory, hFactoryMade⟩
  have hContexts :=
    (Factory.undisturbed_resolve factory value (some name)
      (some id) furnished).contexts
  rw [hResolve] at hContexts
  dsimp only at hContexts
  refine ⟨value, factory, ?_⟩
  constructor
  case made =>
    rw [hContexts, hSize]
    exact hMade
  case isBound =>
    rw [hContexts, hBindings]
    exact hBound
  case isReference => exact ⟨reference, hReference⟩
  case remembered =>
    rw [hContexts]
    exact hFactory
  case answers =>
    exact Factory.answers_of_resolve hFactoryMade hResolve

/- A name stays settled while its context retains it. -/
theorem Settled.of_retains
    {before : Application}
    (h : Settled id name value factory handle before)
    (hRetains : Retains id name before after)
    (hPersists : Persists before after) :
    Settled id name value factory handle after where
  made := Nat.lt_of_lt_of_le h.made hPersists.contextCount
  isBound := hRetains.binding value h.isBound
  isReference := h.isReference
  remembered := hRetains.factory factory h.remembered
  answers := h.answers.of_persists hPersists

end Context

end Keyspaces

------------------------------------------------------------
-- Steps
------------------------------------------------------------

namespace Keyspaces

open Application

namespace Holder

/-
  A context that is given other values for its configuration
  holds what it held.
-/
theorem context_reconfigure
    (holder : Holder)
    (conf : Config)
    (app : Application)
    (id : ContextId) :
    ((holder.reconfigure app conf).contexts.get id).bindings =
        (app.contexts.get id).bindings ∧
      ((holder.reconfigure app conf).contexts.get
          id).factories =
        (app.contexts.get id).factories := by
  cases holder with
  | registry registry => exact ⟨rfl, rfl⟩
  | factory factory =>
      rw [reconfigure]
      cases app.factories.get factory <;> exact ⟨rfl, rfl⟩
  | context context =>
      rw [reconfigure]
      by_cases hContext : id = context
      · subst context
        rw [get_setContext_self]
        exact ⟨rfl, rfl⟩
      · rw [get_setContext_of_ne _ _ hContext]
        exact ⟨rfl, rfl⟩

end Holder

namespace Step

/- The step binds a name anew or unbinds it. -/
def Renews
    (id : ContextId)
    (name : String) : Step → Prop
| .operation _ done => done.Renews id name
| .reconfigure _ _ => False

/- A name stays settled until it is bound anew or unbound. -/
theorem settled_perform
    {id : ContextId}
    {name : String}
    {value : Value}
    {factory : FactoryId}
    {handle : HandleId}
    {step : Step}
    (hKept : ¬ step.Renews id name)
    {app : Application}
    (h : Context.Settled id name value factory handle app) :
    Context.Settled id name value factory handle
      (step.perform app) := by
  have hPersists := (step.advances_perform app).persists
  cases step with
  | operation importer done =>
      exact
        h.of_retains
          (done.retains_perform importer hKept h.made)
          hPersists
  | reconfigure holder conf =>
      rcases holder.context_reconfigure conf app id with
        ⟨hBindings, hFactories⟩
      exact
        { h with
          made :=
            Nat.lt_of_lt_of_le h.made hPersists.contextCount
          isBound := by
            rw [perform, hBindings]
            exact h.isBound
          remembered := by
            rw [perform, hFactories]
            exact h.remembered
          answers := h.answers.of_persists hPersists }

end Step

------------------------------------------------------------
-- Stability
------------------------------------------------------------

namespace Application

/-
  A factory rejects a value as one that is no reference, and
  this changes nothing.
-/
def Rejects
    (app : Application)
    (id : FactoryId)
    (value : Value) : Prop :=
  ∀ name context, ∃ failure,
    failure.kind = .invalidInput ∧
      (Factory.resolve id value name context).perform app =
        (.error failure, app)

/-
  A lookup that answered with a handle answers with it again,
  however paths and configurations change and clusters or
  sessions are shut down in between, unless the name is bound
  anew or unbound. So does a factory, for every reference.
  Neither changes anything then, and neither does a value that
  is no reference. Factories of keyspaces reject it, if it can
  be shown; otherwise the failure to show it is what escapes.
-/
structure Stable (app : Application) : Prop where
  looksUp :
    ∀ importer id name handle after,
      id < app.contexts.size →
        (Context.lookup importer id name).perform app =
            (.ok (.handle handle), after) →
          ∀ steps : List Step,
            (∀ step ∈ steps, ¬ step.Renews id name) →
              ∀ present : Importer,
                (Context.lookup present id name).perform
                    (after.run steps) =
                  (.ok (.handle handle), after.run steps)
  resolves :
    ∀ id value name context handle after,
      id < app.factories.size →
        (Factory.resolve id value name context).perform app =
            (.ok (.handle handle), after) →
          ∀ (steps : List Step) (reference : Reference)
            (label : Option String)
            (origin : Option ContextId),
            (Factory.resolve id reference.toValue label
                origin).perform (after.run steps) =
              (.ok (.handle handle), after.run steps)
  rejects :
    ∀ id factory value,
      app.factories.get id = .keyspaces factory →
        value.reference? = none →
          (app.Rejects id value ↔ value.isWritable = true)
  escapes :
    ∀ id factory value name context,
      app.factories.get id = .keyspaces factory →
        value.reference? = none →
          value.isWritable = false →
            (Factory.resolve id value name context).perform
                app =
              (.error .unwritableInteger, app)

/- A value that is no reference is rejected if it is shown. -/
theorem rejects_iff
    {app : Application}
    {id : FactoryId}
    {factory : KeyspaceFactory}
    (hFactory : app.factories.get id = .keyspaces factory)
    {value : Value}
    (hValue : value.reference? = none) :
    app.Rejects id value ↔ value.isWritable = true := by
  unfold Rejects
  simp only [Factory.perform_resolve_unfit hFactory hValue]
  cases hWritable : value.isWritable with
  | true =>
      rw [Failure.showing_of_writable hWritable]
      exact iff_of_true (fun _ _ => ⟨_, rfl, rfl⟩) rfl
  | false =>
      rw [Failure.showing_of_unwritable hWritable]
      refine iff_of_false ?_ Bool.false_ne_true
      intro hRejects
      rcases hRejects none none with ⟨failure, hKind, hSame⟩
      cases hSame
      contradiction

/- Handles are stable in every application that is reached. -/
theorem stable_run
    (conf : Config)
    (faults : Faults)
    (steps : List Step) :
    Stable ((start conf faults).run steps) := by
  have hCoherent := coherent_run conf faults steps
  constructor
  case looksUp =>
    intro importer id name handle after hMade hAnswer later
      hKept present
    rcases Context.settled_of_lookup hCoherent hMade
        hAnswer with
      ⟨value, factory, hSettled⟩
    have hLater :=
      run_induction
        (motive :=
          Context.Settled id name value factory handle)
        (fun step hStep _ h =>
          step.settled_perform (hKept step hStep) h)
        hSettled
    exact hLater.perform_lookup present
  case resolves =>
    intro id value name context handle after hMade hAnswer
      later reference label origin
    have hAnswers := Factory.answers_of_resolve hMade hAnswer
    have hLater :=
      hAnswers.of_persists (advances_run after later).persists
    exact
      hLater.perform_resolve
        (Value.reference?_toValue reference) label origin
  case rejects =>
    intro id factory value hFactory hValue
    exact rejects_iff hFactory hValue
  case escapes =>
    intro id factory value name context hFactory hValue
      hHidden
    rw [Factory.perform_resolve_unfit hFactory hValue,
      Failure.showing_of_unwritable hHidden]

namespace Sample

/- A reference to a keyspace, with the path of its factory. -/
def declared : Reference :=
  { Resource.Sample.reference with
    factory := some Importer.keyspaceFactoryPath }

/- The reference is bound to a name of a new context. -/
def declaring : List Step :=
  [.operation .standard (.createContext []),
   .operation .standard (.bind 0 "r" declared.toValue)]

/-
  Nothing can be imported any more, the clusters are shut
  down, the configuration becomes malformed, and binding the
  name again fails.
-/
def disturbing : List Step :=
  let malformed :=
    Config.ofList [(Setting.connectOnResolve.key, .text "?")]
  [.operation ⟨[]⟩ (.shutdownClusters processRegistry none),
   .operation ⟨[]⟩ (.closeCluster 0),
   .operation ⟨[]⟩ (.setConf malformed),
   .operation ⟨[]⟩ (.bind 0 "r" .null),
   .operation ⟨[]⟩ (.unbind 0 "other")]

end Sample

/- A handle is answered again after all of this. -/
theorem looksUp_sample :
    ∃ after,
      (Context.lookup .standard 0 "r").perform
            ((start .empty .none).run Sample.declaring) =
          (.ok (.handle 0), after) ∧
        (Context.lookup ⟨[]⟩ 0 "r").perform
            (after.run Sample.disturbing) =
          (.ok (.handle 0), after.run Sample.disturbing) := by
  have hMade :
      0 < ((start .empty .none).run
        Sample.declaring).contexts.size :=
    Nat.one_pos
  have hKept :
      ∀ step ∈ Sample.disturbing, ¬ step.Renews 0 "r" := by
    simp [Sample.disturbing, Step.Renews, Operation.Renews]
  refine ⟨_, rfl, ?_⟩
  exact
    (stable_run .empty .none Sample.declaring).looksUp
      .standard 0 "r" 0 _ hMade rfl _ hKept ⟨[]⟩

namespace Sample

/- A factory is made. -/
def furnishing : List Step :=
  [.operation .standard (.createFactory none none)]

end Sample

/- A factory does not reject all that is no reference. -/
theorem not_rejects_overlong :
    let app := (start .empty .none).run Sample.furnishing
    (∃ factory, app.factories.get 0 = .keyspaces factory) ∧
      Config.Sample.overlong.reference? = none ∧
        ¬ app.Rejects 0 Config.Sample.overlong := by
  intro app
  have hFactory :
      app.factories.get 0 =
        .keyspaces (KeyspaceFactory.create none none) :=
    rfl
  refine ⟨⟨_, hFactory⟩, rfl, ?_⟩
  rw [rejects_iff hFactory rfl,
    Config.Sample.isWritable_overlong]
  exact Bool.false_ne_true

end Application

end Keyspaces
