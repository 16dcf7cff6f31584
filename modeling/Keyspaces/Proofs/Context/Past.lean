import Keyspaces.Proofs.Context.Retention
import Keyspaces.Proofs.Continuity.Operations

/-
  The past of a name in a context, told as what happened to
  it. It says what the name is bound to and which factory is
  remembered for it, and it is proper: a factory is made once
  for a binding, from the path of what is bound, and only this
  factory is asked to resolve it.

  Main declarations:
    * `Context.Happens`
    * `Context.Proper`
    * `Context.Recorded`
    * `Context.Faithful`
    * `Context.faithful_performAll`
-/

------------------------------------------------------------
-- Pasts
------------------------------------------------------------

namespace Keyspaces

namespace Context

namespace Occurrence

/- The name is bound, anew or not, or unbound. -/
def Rebinds : Occurrence → Prop
| .bound _ => True
| .unbound => True
| _ => False

end Occurrence

/- What a name is bound to after its past, latest first. -/
def value? : List Occurrence → Option Value
| [] => none
| .bound value :: _ => some value
| .unbound :: _ => none
| _ :: past => value? past

/- The factory that was made since the name was bound. -/
def instance? : List Occurrence → Option FactoryId
| [] => none
| .bound _ :: _ => none
| .unbound :: _ => none
| .made _ _ factory :: _ => some factory
| _ :: past => instance? past

/- The path of the factory that the name is bound to. -/
def path? (past : List Occurrence) : Option String :=
  (value? past).bind fun value =>
    value.reference?.bind Reference.path?

/-
  An occurrence may follow a past: a factory is only made if
  there is none since the name was bound, from the path of
  what the name is bound to and with the given arguments, and
  this factory alone is asked to resolve what the name is
  bound to, being told the name and the context.
-/
def Fits
    (id : ContextId)
    (name : String)
    (arguments : List Argument)
    (past : List Occurrence) : Occurrence → Prop
| .bound _ => True
| .unbound => True
| .failed path => instance? past = none ∧ path? past = some path
| .made path given _ =>
    instance? past = none ∧
      path? past = some path ∧ given = arguments
| .asked factory value label context =>
    instance? past = some factory ∧
      value? past = some value ∧
        label = some name ∧ context = some id

/- Every occurrence fits those before it. -/
def Proper
    (id : ContextId)
    (name : String)
    (arguments : List Argument) : List Occurrence → Prop
| [] => True
| occurrence :: past =>
    Fits id name arguments past occurrence ∧
      Proper id name arguments past

variable {id : ContextId}
variable {name : String}
variable {arguments : List Argument}
variable {since past : List Occurrence}

/- What is earlier in a proper past is proper. -/
theorem Proper.of_append
    {later : List Occurrence}
    (h : Proper id name arguments (later ++ past)) :
    Proper id name arguments past := by
  induction later with
  | nil => exact h
  | cons occurrence later ih => exact ih h.2

/- A name stays bound to a value until it is bound anew. -/
theorem value?_append
    (hQuiet : ∀ occurrence ∈ since, ¬ occurrence.Rebinds) :
    value? (since ++ past) = value? past := by
  induction since with
  | nil => rfl
  | cons occurrence since ih =>
      have hRest :=
        ih fun other hOther =>
          hQuiet other (List.mem_cons_of_mem _ hOther)
      have hFirst := hQuiet occurrence List.mem_cons_self
      cases occurrence with
      | bound value => exact absurd trivial hFirst
      | unbound => exact absurd trivial hFirst
      | failed path => exact hRest
      | made path given factory => exact hRest
      | asked factory value label context => exact hRest

/- A factory counts until the name is bound anew. -/
theorem instance?_append_ne_none
    (hQuiet : ∀ occurrence ∈ since, ¬ occurrence.Rebinds)
    (hPast : instance? past ≠ none) :
    instance? (since ++ past) ≠ none := by
  induction since with
  | nil => exact hPast
  | cons occurrence since ih =>
      have hRest :=
        ih fun other hOther =>
          hQuiet other (List.mem_cons_of_mem _ hOther)
      have hFirst := hQuiet occurrence List.mem_cons_self
      cases occurrence with
      | bound value => exact absurd trivial hFirst
      | unbound => exact absurd trivial hFirst
      | failed path => exact hRest
      | made path given factory => exact Option.some_ne_none _
      | asked factory value label context => exact hRest

/- A factory that counts was made since the name was bound. -/
theorem exists_made_of_instance?
    {factory : FactoryId}
    (h : instance? past = some factory) :
    ∃ since path given old,
      past = since ++ .made path given factory :: old ∧
        ∀ occurrence ∈ since, ¬ occurrence.Rebinds := by
  induction past with
  | nil => contradiction
  | cons occurrence past ih =>
      have hEarlier :
          ¬ occurrence.Rebinds →
            instance? past = some factory →
              ∃ since path given old,
                occurrence :: past =
                    since ++ .made path given factory :: old ∧
                  ∀ other ∈ since, ¬ other.Rebinds := by
        intro hFirst hPast
        rcases ih hPast with
          ⟨since, path, given, old, hSplit, hQuiet⟩
        refine
          ⟨occurrence :: since, path, given, old, ?_, ?_⟩
        · rw [hSplit]
          rfl
        · exact List.forall_mem_cons.mpr ⟨hFirst, hQuiet⟩
      cases occurrence with
      | bound value => contradiction
      | unbound => contradiction
      | failed path => exact hEarlier (fun h => h) h
      | made path given other =>
          cases h
          exact
            ⟨[], path, given, past, rfl, fun _ hNone =>
              absurd hNone List.not_mem_nil⟩
      | asked other value label context =>
          exact hEarlier (fun h => h) h

/-
  The factory that counts was made with the arguments, from
  the path of what the name is bound to.
-/
theorem Proper.exists_made
    (h : Proper id name arguments past)
    {factory : FactoryId}
    (hInstance : instance? past = some factory) :
    ∃ since path old,
      past = since ++ .made path arguments factory :: old ∧
        (∀ occurrence ∈ since, ¬ occurrence.Rebinds) ∧
          path? past = some path := by
  rcases exists_made_of_instance? hInstance with
    ⟨since, path, given, old, rfl, hQuiet⟩
  rcases h.of_append.1 with ⟨_, hPath, rfl⟩
  refine ⟨since, path, old, rfl, hQuiet, ?_⟩
  rw [path?, value?_append hQuiet]
  exact hPath

/- No factory counts for a name that is not bound. -/
theorem Proper.instance?_eq_none
    (h : Proper id name arguments past)
    (hUnbound : value? past = none) :
    instance? past = none := by
  rw [Option.eq_none_iff_forall_ne_some]
  intro factory hInstance
  rcases h.exists_made hInstance with ⟨_, path, _, _, _, hPath⟩
  rw [path?, hUnbound] at hPath
  contradiction

/-
  A name that was not bound in between was not unbound either,
  or is not bound any more.
-/
theorem value?_append_of_not_bound
    (hNone : ∀ value, .bound value ∉ since) :
    (∀ occurrence ∈ since, ¬ occurrence.Rebinds) ∨
      value? (since ++ past) = none := by
  induction since with
  | nil => exact Or.inl fun _ h => absurd h List.not_mem_nil
  | cons occurrence since ih =>
      have hEarlier :=
        ih fun value hBound =>
          hNone value (List.mem_cons_of_mem _ hBound)
      have hRest :
          ¬ occurrence.Rebinds →
            value? (occurrence :: since ++ past) =
                value? (since ++ past) →
              (∀ other ∈ occurrence :: since,
                  ¬ other.Rebinds) ∨
                value? (occurrence :: since ++ past) =
                  none := by
        intro hFirst hValue
        rw [hValue]
        exact
          hEarlier.imp_left fun hQuiet =>
            List.forall_mem_cons.mpr ⟨hFirst, hQuiet⟩
      cases occurrence with
      | bound value =>
          exact absurd List.mem_cons_self (hNone value)
      | unbound => exact Or.inr rfl
      | failed path => exact hRest (fun h => h) rfl
      | made path given factory => exact hRest (fun h => h) rfl
      | asked factory value label context =>
          exact hRest (fun h => h) rfl

/- Between two factories that are made the name is bound. -/
theorem Proper.exists_bound
    {later since old : List Occurrence}
    {path other : String}
    {given taken : List Argument}
    {factory replaced : FactoryId}
    (h :
      Proper id name arguments
        (later ++ .made path given factory ::
          (since ++ .made other taken replaced :: old))) :
    ∃ value, .bound value ∈ since := by
  by_contra hNot
  have hNone : ∀ value, .bound value ∉ since := by
    intro value hBound
    exact hNot ⟨value, hBound⟩
  rcases h.of_append.1 with ⟨hInstance, hPath, _⟩
  rcases value?_append_of_not_bound hNone with hQuiet | hValue
  · have hEarlier :
        instance? (.made other taken replaced :: old) ≠ none :=
      Option.some_ne_none _
    exact instance?_append_ne_none hQuiet hEarlier hInstance
  · rw [path?, hValue] at hPath
    contradiction

end Context

end Keyspaces

------------------------------------------------------------
-- What Happens During Operations
------------------------------------------------------------

namespace Keyspaces

namespace Context

open Keyspaces.Action Application

/-
  What happens to a name of a context during an operation. A
  binding that is refused is no occurrence, nor is anything
  done with other names. Declarations may bind the name.
-/
inductive Occurs
    (importer : Importer)
    (id : ContextId)
    (name : String)
    (app : Application) :
    Operation → List Occurrence → Prop
| elsewhere
    {operation : Operation}
    (hOther : ¬ operation.Concerns id name) :
    Occurs importer id name app operation []
| bound
    {value : Value}
    {after : Application}
    (hBind :
      (bind id name value).perform app = (.ok (), after)) :
    Occurs importer id name app (.bind id name value)
      [.bound value]
| refused
    {value : Value}
    {failure : Failure}
    {after : Application}
    (hBind :
      (bind id name value).perform app =
        (.error failure, after)) :
    Occurs importer id name app (.bind id name value) []
| rebound
    {value : Value} :
    Occurs importer id name app (.rebind id name value)
      [.bound value]
| unbound :
    Occurs importer id name app (.unbind id name) [.unbound]
| declared
    {declared : Except Failure Declarations}
    {value : Value}
    (hFree :
      (app.contexts.get id).bindings.get? name = none)
    (hBound :
      (((load id declared).perform app).2.contexts.get
          id).bindings.get? name =
        some value) :
    Occurs importer id name app (.load id declared)
      [.bound value]
| undeclared
    {declared : Except Failure Declarations}
    (hSame :
      (((load id declared).perform app).2.contexts.get
          id).bindings.get? name =
        (app.contexts.get id).bindings.get? name) :
    Occurs importer id name app (.load id declared) []
| lookedUp
    {occurrences : List Occurrence}
    (hAnswered :
      Answered importer id name app occurrences
        ((lookup importer id name).perform app)) :
    Occurs importer id name app (.lookup id name) occurrences

/- Something or nothing happens during every operation. -/
theorem exists_occurs
    (importer : Importer)
    (id : ContextId)
    (name : String)
    (app : Application)
    (operation : Operation) :
    ∃ occurrences,
      Occurs importer id name app operation occurrences := by
  by_cases hConcerns : operation.Concerns id name
  · cases operation with
    | bind context key value =>
        rcases hConcerns with ⟨rfl, rfl⟩
        rcases hBind :
            (bind context key value).perform app with
          ⟨failure | _, after⟩
        · exact ⟨_, .refused hBind⟩
        · exact ⟨_, .bound hBind⟩
    | rebind context key value =>
        rcases hConcerns with ⟨rfl, rfl⟩
        exact ⟨_, .rebound⟩
    | unbind context key =>
        rcases hConcerns with ⟨rfl, rfl⟩
        exact ⟨_, .unbound⟩
    | load context declared =>
        have hContext : id = context := hConcerns.symm
        subst id
        have hRetains :
            Retains context name app
              ((load context declared).perform app).2 :=
          retains_load context declared app
        cases hBefore :
            (app.contexts.get context).bindings.get? name with
        | some value =>
            exact
              ⟨_, .undeclared
                ((hRetains.binding value hBefore).trans
                  hBefore.symm)⟩
        | none =>
            cases hAfter :
                (((load context declared).perform
                  app).2.contexts.get context).bindings.get?
                    name with
            | some value =>
                exact ⟨_, .declared hBefore hAfter⟩
            | none =>
                exact
                  ⟨_, .undeclared
                    (hAfter.trans hBefore.symm)⟩
    | lookup context key =>
        rcases hConcerns with ⟨rfl, rfl⟩
        rcases answered_lookup importer context key app with
          ⟨occurrences, hAnswered⟩
        exact ⟨occurrences, .lookedUp hAnswered⟩
    | _ => exact absurd hConcerns fun h => h
  · exact ⟨[], .elsewhere hConcerns⟩

end Context

/-
  The application after some operations in a row, during each
  of which paths may find something else.
-/
def Application.performAll
    (app : Application) :
    List (Importer × Operation) → Application
| [] => app
| (importer, operation) :: rest =>
    (operation.perform importer app).performAll rest

namespace Context

open Application

/-
  What happens to a name of a context during operations in a
  row, latest first.
-/
inductive Happens
    (id : ContextId)
    (name : String) :
    Application → List (Importer × Operation) →
      List Occurrence → Prop
| none {app : Application} : Happens id name app [] []
| next
    {app : Application}
    {importer : Importer}
    {operation : Operation}
    {rest : List (Importer × Operation)}
    {occurrences later : List Occurrence}
    (hOccurs :
      Occurs importer id name app operation occurrences)
    (hRest :
      Happens id name (operation.perform importer app) rest
        later) :
    Happens id name app ((importer, operation) :: rest)
      (later ++ occurrences)

/- Something or nothing happens during all operations. -/
theorem exists_happens
    (id : ContextId)
    (name : String)
    (app : Application)
    (done : List (Importer × Operation)) :
    ∃ past, Happens id name app done past := by
  induction done generalizing app with
  | nil => exact ⟨[], .none⟩
  | cons entry rest ih =>
      rcases entry with ⟨importer, operation⟩
      rcases exists_occurs importer id name app operation with
        ⟨occurrences, hOccurs⟩
      rcases ih (operation.perform importer app) with
        ⟨later, hRest⟩
      exact ⟨later ++ occurrences, .next hOccurs hRest⟩

end Context

end Keyspaces

------------------------------------------------------------
-- Contexts and Pasts
------------------------------------------------------------

namespace Keyspaces

namespace Context

open Keyspaces.Action Application

/-
  The past of a name is proper, and the context holds what its
  past says.
-/
structure Recorded
    (id : ContextId)
    (name : String)
    (arguments : List Argument)
    (past : List Occurrence)
    (app : Application) : Prop where
  made : id < app.contexts.size
  given : (app.contexts.get id).arguments = arguments
  isBound :
    (app.contexts.get id).bindings.get? name = value? past
  remembered :
    (app.contexts.get id).factories.get? name = instance? past
  proper : Proper id name arguments past

variable {importer : Importer}
variable {id : ContextId}
variable {name : String}
variable {arguments : List Argument}
variable {past : List Occurrence}
variable {app after : Application}

namespace Recorded

/- Nothing happened to a name of a context that is made. -/
theorem created
    (app : Application)
    (name : String)
    (arguments : List Argument) :
    Recorded app.contexts.size name arguments []
      ((create arguments).perform app).2 := by
  have hContext :
      ((create arguments).perform app).2.contexts.get
          app.contexts.size =
        ⟨arguments, .empty, .empty⟩ :=
    Pool.get_add_self _ _
  constructor
  case made => exact Nat.lt_succ_self _
  case given => rw [hContext]
  case isBound =>
    rw [hContext]
    rfl
  case remembered =>
    rw [hContext]
    rfl
  case proper => trivial

/- Nothing happened to the name. -/
theorem of_leaves
    (h : Recorded id name arguments past app)
    (hLeaves : Leaves id name app after)
    (hMade : id < after.contexts.size) :
    Recorded id name arguments past after where
  made := hMade
  given := hLeaves.arguments.trans h.given
  isBound := hLeaves.binding.trans h.isBound
  remembered := hLeaves.factory.trans h.remembered
  proper := h.proper

/-
  A name that is bound had no factory, or forgets the one it
  had.
-/
theorem bound
    (h : Recorded id name arguments past app)
    {value : Value}
    (hMade : id < after.contexts.size)
    (hArguments :
      (after.contexts.get id).arguments =
        (app.contexts.get id).arguments)
    (hBound :
      (after.contexts.get id).bindings.get? name =
        some value)
    (hForgotten :
      (after.contexts.get id).factories.get? name = none) :
    Recorded id name arguments (.bound value :: past) after where
  made := hMade
  given := hArguments.trans h.given
  isBound := hBound
  remembered := hForgotten
  proper := ⟨trivial, h.proper⟩

/- There is no factory for a name that is not bound. -/
theorem factory_eq_none
    (h : Recorded id name arguments past app)
    (hFree :
      (app.contexts.get id).bindings.get? name = none) :
    (app.contexts.get id).factories.get? name = none := by
  rw [h.remembered]
  exact h.proper.instance?_eq_none (h.isBound.symm.trans hFree)

/-
  Finding the factory of what a name is bound to is recorded,
  and the factory that is found is the one that counts.
-/
theorem furnished
    (h : Recorded id name arguments past app)
    {value : Value}
    {reference : Reference}
    {occurrences : List Occurrence}
    {outcome : Except Failure FactoryId × Application}
    (hBound :
      (app.contexts.get id).bindings.get? name = some value)
    (hReference : value.reference? = some reference)
    (hFurnished :
      Furnished importer id name reference app occurrences
        outcome) :
    Recorded id name arguments (occurrences ++ past)
        outcome.2 ∧
      value? (occurrences ++ past) = some value ∧
        ∀ factory, outcome.1 = .ok factory →
          instance? (occurrences ++ past) = some factory := by
  have hValue : value? past = some value :=
    h.isBound.symm.trans hBound
  have hPast : path? past = reference.path? := by
    rw [path?, hValue]
    simp only [Option.bind_some, hReference]
  cases hFurnished with
  | remembered hFactory =>
      refine ⟨h, hValue, ?_⟩
      rintro factory hSame
      cases hSame
      exact h.remembered.symm.trans hFactory
  | pathless _ _ => exact ⟨h, hValue, fun _ h => nomatch h⟩
  | missing hNew hPath _ =>
      have hFits :=
        And.intro (h.remembered.symm.trans hNew)
          (hPast.trans hPath)
      exact
        ⟨{ h with proper := ⟨hFits, h.proper⟩ }, hValue,
          fun _ h => nomatch h⟩
  | broken hNew hPath _ _ =>
      have hFits :=
        And.intro (h.remembered.symm.trans hNew)
          (hPast.trans hPath)
      exact
        ⟨{ h with proper := ⟨hFits, h.proper⟩ }, hValue,
          fun _ h => nomatch h⟩
  | made hNew hPath _ _ _ =>
      refine ⟨?_, hValue, ?_⟩
      · constructor
        case made => exact h.made
        case proper =>
          exact
            ⟨⟨h.remembered.symm.trans hNew, hPast.trans hPath,
              h.given⟩, h.proper⟩
        all_goals rw [remembering, get_setContext_self]
        case given => exact h.given
        case isBound => exact h.isBound
        case remembered => exact Table.get?_insert_self _ _ _
      · rintro factory hSame
        cases hSame
        rfl

/- A call on the factory that counts is recorded. -/
theorem asked
    (h : Recorded id name arguments past app)
    {value : Value}
    {factory : FactoryId}
    (hValue : value? past = some value)
    (hInstance : instance? past = some factory) :
    Recorded id name arguments
      (.asked factory value (some name) (some id) :: past)
      ((Factory.resolve factory value (some name)
        (some id)).perform app).2 := by
  have hContexts :=
    (Factory.undisturbed_resolve factory value (some name)
      (some id) app).contexts
  have hMade := h.made
  rw [← hContexts] at hMade
  have hSame := h.of_leaves (.of_contexts hContexts) hMade
  exact
    { hSame with
      proper := ⟨⟨hInstance, hValue, rfl, rfl⟩, h.proper⟩ }

/- A lookup is recorded. -/
theorem answered
    (h : Recorded id name arguments past app)
    {occurrences : List Occurrence}
    {outcome : Except Failure Resolved × Application}
    (hAnswered :
      Answered importer id name app occurrences outcome) :
    Recorded id name arguments (occurrences ++ past)
      outcome.2 := by
  cases hAnswered with
  | unbound _ => exact h
  | plain _ _ => exact h
  | unfurnished hBound hReference hFurnished =>
      exact (h.furnished hBound hReference hFurnished).1
  | asked hBound hReference hFurnished =>
      rcases h.furnished hBound hReference hFurnished with
        ⟨hRecorded, hValue, hInstance⟩
      exact hRecorded.asked hValue (hInstance _ rfl)

end Recorded

/- Declarations are loaded as an operation says. -/
theorem perform_load
    (importer : Importer)
    (id : ContextId)
    (declared : Except Failure Declarations)
    (app : Application) :
    (Operation.load id declared).perform importer app =
      ((load id declared).perform app).2 :=
  after_discard
    (motive := fun after =>
      after = ((load id declared).perform app).2)
    rfl

/- What happens during an operation is recorded. -/
theorem Recorded.perform
    (h : Recorded id name arguments past app)
    {operation : Operation}
    {occurrences : List Occurrence}
    (hOccurs :
      Occurs importer id name app operation occurrences) :
    Recorded id name arguments (occurrences ++ past)
      (operation.perform importer app) := by
  have hMade :=
    Nat.lt_of_lt_of_le h.made
      (operation.advances_perform importer
        app).persists.contextCount
  cases hOccurs with
  | elsewhere hOther =>
      exact
        h.of_leaves
          (operation.leaves_perform importer hOther h.made)
          hMade
  | @bound value after hBind =>
      change
        Recorded id name arguments (.bound value :: past)
          ((bind id name value).perform app).2
      rw [perform_bind_eq] at hBind ⊢
      split at hBind
      case isTrue => simp at hBind
      case isFalse hFree =>
        rw [if_neg hFree]
        rw [Bool.not_eq_true,
          Table.contains_eq_false_iff] at hFree
        refine h.bound h.made ?_ ?_ ?_ <;>
          rw [get_setContext_self]
        · exact Table.get?_insert_self _ _ _
        · exact h.factory_eq_none hFree
  | @refused value failure after hBind =>
      change
        Recorded id name arguments past
          ((bind id name value).perform app).2
      rw [perform_bind_eq] at hBind ⊢
      split at hBind
      case isTrue hBound =>
        rw [if_pos hBound]
        exact h
      case isFalse => simp at hBind
  | @rebound value =>
      have hContext :
          ((Operation.rebind id name value).perform importer
              app).contexts.get id =
            { app.contexts.get id with
              bindings :=
                (app.contexts.get id).bindings.insert name
                  value
              factories :=
                (app.contexts.get id).factories.erase name } :=
        get_setContext_self _ _ _
      refine h.bound hMade ?_ ?_ ?_ <;> rw [hContext]
      · exact Table.get?_insert_self _ _ _
      · exact Table.get?_erase_self _ _
  | unbound =>
      have hContext :
          ((Operation.unbind id name).perform importer
              app).contexts.get id =
            { app.contexts.get id with
              bindings :=
                (app.contexts.get id).bindings.erase name
              factories :=
                (app.contexts.get id).factories.erase name } :=
        get_setContext_self _ _ _
      constructor
      case made => exact hMade
      case proper => exact ⟨trivial, h.proper⟩
      all_goals rw [hContext]
      case given => exact h.given
      case isBound => exact Table.get?_erase_self _ _
      case remembered => exact Table.get?_erase_self _ _
  | @declared declared value hFree hBound =>
      have hRetains :
          Retains id name app
            ((load id declared).perform app).2 :=
        retains_load id declared app
      rw [perform_load] at hMade ⊢
      refine h.bound hMade hRetains.arguments hBound ?_
      rw [factories_load]
      exact h.factory_eq_none hFree
  | @undeclared declared hSame =>
      have hRetains :
          Retains id name app
            ((load id declared).perform app).2 :=
        retains_load id declared app
      rw [perform_load] at hMade ⊢
      refine
        h.of_leaves ⟨hRetains.arguments, hSame, ?_⟩ hMade
      rw [factories_load]
  | lookedUp hAnswered =>
      exact
        after_discard
          (motive :=
            Recorded id name arguments (occurrences ++ past))
          (h.answered hAnswered)

/- What happens during operations in a row is recorded. -/
theorem Recorded.performAll
    (h : Recorded id name arguments past app)
    {done : List (Importer × Operation)}
    {later : List Occurrence}
    (hHappens : Happens id name app done later) :
    Recorded id name arguments (later ++ past)
      (app.performAll done) := by
  induction hHappens generalizing past with
  | none => exact h
  | next hOccurs _ ih =>
      rw [List.append_assoc]
      exact ih (h.perform hOccurs)

end Context

end Keyspaces

------------------------------------------------------------
-- Faithfulness
------------------------------------------------------------

namespace Keyspaces

namespace Context

open Keyspaces.Action Application

/-
  The past of a name tells of no stale factory. A factory that
  is asked was made since the name was bound, with the
  arguments of the context, from the path of the reference
  that the name is bound to, and is asked to resolve this
  reference, being told the name and the context. Between two
  factories that are made the name is bound, and one that
  fails to be made is not remembered. The context holds what
  the past says, and the factory stays until the name is bound
  anew or unbound.
-/
structure Faithful
    (id : ContextId)
    (name : String)
    (arguments : List Argument)
    (past : List Occurrence)
    (app : Application) : Prop where
  asked :
    ∀ later factory value label context earlier,
      past =
          later ++ .asked factory value label context ::
            earlier →
        label = some name ∧
          context = some id ∧
            value? earlier = some value ∧
              ∃ reference path since old,
                value.reference? = some reference ∧
                  reference.path? = some path ∧
                    earlier =
                        since ++ .made path arguments factory ::
                          old ∧
                      ∀ occurrence ∈ since,
                        ¬ occurrence.Rebinds
  once :
    ∀ later path given factory since other taken replaced old,
      past =
          later ++ .made path given factory ::
            (since ++ .made other taken replaced :: old) →
        ∃ value, .bound value ∈ since
  failed :
    ∀ later path earlier,
      past = later ++ .failed path :: earlier →
        instance? (.failed path :: earlier) = none
  isBound :
    (app.contexts.get id).bindings.get? name = value? past
  remembered :
    (app.contexts.get id).factories.get? name = instance? past
  kept :
    ∀ importer (operation : Operation) factory,
      ¬ operation.Renews id name →
        (app.contexts.get id).factories.get? name =
            some factory →
          ((operation.perform importer app).contexts.get
              id).factories.get? name =
            some factory

/-
  A name of a context that is created has a past, whatever
  operations follow and whatever fails, and every past that it
  has is faithful.
-/
theorem faithful_performAll
    (first : Application)
    (arguments : List Argument)
    (name : String)
    (done : List (Importer × Operation)) :
    let id := first.contexts.size
    let app := ((create arguments).perform first).2
    (∃ past, Happens id name app done past) ∧
      ∀ past, Happens id name app done past →
        Faithful id name arguments past
          (app.performAll done) := by
  intro id app
  refine ⟨exists_happens id name app done, ?_⟩
  intro past hHappens
  have hCreated := Recorded.created first name arguments
  have hRecorded := hCreated.performAll hHappens
  rw [List.append_nil] at hRecorded
  constructor
  case asked =>
    rintro later factory value label context earlier rfl
    rcases hRecorded.proper.of_append with
      ⟨⟨hInstance, hValue, hLabel, hContext⟩, hEarlier⟩
    rcases hEarlier.exists_made hInstance with
      ⟨since, path, old, hSplit, hQuiet, hPath⟩
    refine ⟨hLabel, hContext, hValue, ?_⟩
    rw [path?, hValue, Option.bind_some,
      Option.bind_eq_some_iff] at hPath
    rcases hPath with ⟨reference, hReference, hPath⟩
    exact
      ⟨reference, path, since, old, hReference, hPath, hSplit,
        hQuiet⟩
  case once =>
    rintro later path given factory since other taken replaced
      old rfl
    exact hRecorded.proper.exists_bound
  case failed =>
    rintro later path earlier rfl
    exact hRecorded.proper.of_append.1.1
  case isBound => exact hRecorded.isBound
  case remembered => exact hRecorded.remembered
  case kept =>
    intro importer operation factory hKept hFactory
    exact
      (operation.retains_perform importer hKept
        hRecorded.made).factory factory hFactory

end Context

end Keyspaces
