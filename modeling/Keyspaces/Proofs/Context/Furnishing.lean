import Keyspaces.Proofs.Context

/-
  What a lookup comes to, and what happens to a name on the
  way: a factory is made or cannot be made, and is asked to
  resolve what the name is bound to.

  Main declarations:
    * `Context.Occurrence`
    * `Context.furnished_factoryOf`
    * `Context.answered_lookup`
    * `Context.asked_of_lookup`
-/

------------------------------------------------------------
-- What Happens to a Name
------------------------------------------------------------

namespace Keyspaces

/- A context remembers the factory that was made for a name. -/
def Application.remembering
    (app : Application)
    (id : ContextId)
    (name : String)
    (factory : FactoryId) : Application :=
  app.setContext id
    { app.contexts.get id with
      factories :=
        (app.contexts.get id).factories.insert name factory }

/- The path of the factory of a reference, if it names one. -/
def Reference.path? (reference : Reference) : Option String :=
  reference.factory.filter (!·.isEmpty)

namespace Context

open Keyspaces.Action Application

/-
  What can happen to a name of a context: it is bound or
  unbound, a factory for it is made from a path with some
  arguments or cannot be made, and a factory is asked to
  resolve a value, being told a name and a context.
-/
inductive Occurrence
| bound (value : Value)
| unbound
| failed (path : String)
| made
    (path : String)
    (arguments : List Argument)
    (factory : FactoryId)
| asked
    (factory : FactoryId)
    (value : Value)
    (name : Option String)
    (context : Option ContextId)

/-
  How finding the factory of a reference ends, and what
  happens meanwhile: it is remembered, or the reference names
  none, or its path finds nothing, or it cannot be made, or it
  is made and remembered from then on.
-/
inductive Furnished
    (importer : Importer)
    (id : ContextId)
    (name : String)
    (reference : Reference)
    (app : Application) :
    List Occurrence → Except Failure FactoryId × Application →
      Prop
| remembered
    {factory : FactoryId}
    (hFactory :
      (app.contexts.get id).factories.get? name =
        some factory) :
    Furnished importer id name reference app []
      (.ok factory, app)
| pathless
    (hNew :
      (app.contexts.get id).factories.get? name = none)
    (hPath : reference.path? = none) :
    Furnished importer id name reference app []
      (.error (.withoutFactory name), app)
| missing
    {path : String}
    {failure : Failure}
    (hNew :
      (app.contexts.get id).factories.get? name = none)
    (hPath : reference.path? = some path)
    (hFind : importer.find path = .error failure) :
    Furnished importer id name reference app [.failed path]
      (.error failure, app)
| broken
    {path : String}
    {found : Importable}
    {failure : Failure}
    (hNew :
      (app.contexts.get id).factories.get? name = none)
    (hPath : reference.path? = some path)
    (hFind : importer.find path = .ok found)
    (hCreate :
      (Factory.create found.usage
          (app.contexts.get id).arguments).perform app =
        (.error failure, app)) :
    Furnished importer id name reference app [.failed path]
      (.error failure, app)
| made
    {path : String}
    {found : Importable}
    {factory : Factory}
    (hNew :
      (app.contexts.get id).factories.get? name = none)
    (hPath : reference.path? = some path)
    (hFind : importer.find path = .ok found)
    (hUsage :
      Factory.ofUsage
          (app.factories.toList.filter
            Factory.isRecorder).length
          (app.contexts.get id).arguments found.usage =
        .ok factory)
    (hCreate :
      (Factory.create found.usage
          (app.contexts.get id).arguments).perform app =
        (.ok app.factories.size,
          { app with
            factories := app.factories.add factory })) :
    Furnished importer id name reference app
      [.made path (app.contexts.get id).arguments
        app.factories.size]
      (.ok app.factories.size,
        remembering
          { app with
            factories := app.factories.add factory }
          id name app.factories.size)

/- Finding the factory of a reference ends in such a way. -/
theorem furnished_factoryOf
    (importer : Importer)
    (id : ContextId)
    (name : String)
    (reference : Reference)
    (app : Application) :
    ∃ occurrences,
      Furnished importer id name reference app occurrences
        ((factoryOf importer id name reference).perform
          app) := by
  rw [factoryOf, perform_bind_of_ok (perform_get app)]
  dsimp only
  cases hFactory :
      (app.contexts.get id).factories.get? name with
  | some factory => exact ⟨_, .remembered hFactory⟩
  | none =>
      dsimp only
      cases hPath : reference.factory.filter (!·.isEmpty) with
      | none => exact ⟨_, .pathless hFactory hPath⟩
      | some path =>
          dsimp only
          rw [perform_bind, perform_ofExcept]
          cases hFind : importer.find path with
          | error failure =>
              exact ⟨_, .missing hFactory hPath hFind⟩
          | ok found =>
              have hCreate :=
                Factory.perform_create found.usage
                  (app.contexts.get id).arguments app
              dsimp only
              rw [perform_bind]
              cases hUsage :
                  Factory.ofUsage
                    (app.factories.toList.filter
                      Factory.isRecorder).length
                    (app.contexts.get id).arguments
                    found.usage with
              | error failure =>
                  rw [hUsage] at hCreate
                  rw [hCreate]
                  exact
                    ⟨_, .broken hFactory hPath hFind hCreate⟩
              | ok factory =>
                  rw [hUsage] at hCreate
                  rw [hCreate]
                  exact
                    ⟨_, .made hFactory hPath hFind hUsage
                      hCreate⟩

/-
  How a lookup ends, and what happens to the name meanwhile:
  the name is not bound, or to a value that is no reference,
  or no factory is found, or the factory is asked to resolve
  the reference.
-/
inductive Answered
    (importer : Importer)
    (id : ContextId)
    (name : String)
    (app : Application) :
    List Occurrence → Except Failure Resolved × Application →
      Prop
| unbound
    (hUnbound :
      (app.contexts.get id).bindings.get? name = none) :
    Answered importer id name app []
      (.error (.notBound name), app)
| plain
    {value : Value}
    (hBound :
      (app.contexts.get id).bindings.get? name = some value)
    (hPlain : value.reference? = none) :
    Answered importer id name app [] (.ok (.value value), app)
| unfurnished
    {value : Value}
    {reference : Reference}
    {occurrences : List Occurrence}
    {failure : Failure}
    {after : Application}
    (hBound :
      (app.contexts.get id).bindings.get? name = some value)
    (hReference : value.reference? = some reference)
    (hFurnished :
      Furnished importer id name reference app occurrences
        (.error failure, after)) :
    Answered importer id name app occurrences
      (.error failure, after)
| asked
    {value : Value}
    {reference : Reference}
    {occurrences : List Occurrence}
    {factory : FactoryId}
    {furnished : Application}
    (hBound :
      (app.contexts.get id).bindings.get? name = some value)
    (hReference : value.reference? = some reference)
    (hFurnished :
      Furnished importer id name reference app occurrences
        (.ok factory, furnished)) :
    Answered importer id name app
      (.asked factory value (some name) (some id) ::
        occurrences)
      ((Factory.resolve factory value (some name)
        (some id)).perform furnished)

/- A lookup ends in one of these ways. -/
theorem answered_lookup
    (importer : Importer)
    (id : ContextId)
    (name : String)
    (app : Application) :
    ∃ occurrences,
      Answered importer id name app occurrences
        ((lookup importer id name).perform app) := by
  rw [lookup, perform_bind_of_ok (perform_get app)]
  dsimp only
  cases hBound :
      (app.contexts.get id).bindings.get? name with
  | none => exact ⟨_, .unbound hBound⟩
  | some value =>
      dsimp only
      cases hReference : value.reference? with
      | none => exact ⟨_, .plain hBound hReference⟩
      | some reference =>
          rcases furnished_factoryOf importer id name
              reference app with
            ⟨occurrences, hFurnished⟩
          dsimp only
          rw [perform_bind]
          rcases hPerform :
              (factoryOf importer id name reference).perform
                app with
            ⟨failure | factory, furnished⟩
          · rw [hPerform] at hFurnished
            exact
              ⟨_, .unfurnished hBound hReference hFurnished⟩
          · rw [hPerform] at hFurnished
            exact ⟨_, .asked hBound hReference hFurnished⟩

/- A handle is answered by the factory of what is bound. -/
theorem asked_of_lookup
    {importer : Importer}
    {id : ContextId}
    {name : String}
    {app after : Application}
    {handle : HandleId}
    (hAnswer :
      (lookup importer id name).perform app =
        (.ok (.handle handle), after)) :
    ∃ value reference occurrences factory furnished,
      (app.contexts.get id).bindings.get? name = some value ∧
        value.reference? = some reference ∧
          Furnished importer id name reference app
              occurrences (.ok factory, furnished) ∧
            (Factory.resolve factory value (some name)
                (some id)).perform furnished =
              (.ok (.handle handle), after) := by
  rcases answered_lookup importer id name app with
    ⟨occurrences, hAnswered⟩
  generalize hOutcome :
    (lookup importer id name).perform app = outcome
      at hAnswered
  rw [hAnswer] at hOutcome
  cases hAnswered with
  | unbound _ => cases hOutcome
  | plain _ _ => cases hOutcome
  | unfurnished _ _ _ => cases hOutcome
  | asked hBound hReference hFurnished =>
      exact
        ⟨_, _, _, _, _, hBound, hReference, hFurnished,
          hOutcome.symm⟩

end Context

end Keyspaces
