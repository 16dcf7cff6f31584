import Keyspaces.Proofs.Declarations.Meaning
import Keyspaces.Proofs.Operation

/-
  What loading declarations does to a context: all of them are
  bound, in document order, or loading fails. When it fails
  because a name is bound already, what is declared before
  this name stays bound.

  Main declarations:
    * `Context.Binds`
    * `Context.Loads`
    * `Context.AllOrNothing`
    * `Context.loadsInOrder_load`
-/

------------------------------------------------------------
-- Binding in Order
------------------------------------------------------------

namespace Keyspaces

namespace Context

open Keyspaces.Action Application

variable {id : ContextId}

/- What is bound first does not change what is bound next. -/
theorem perform_bindAll_append
    {first : List (String × Reference)}
    {before after : Application}
    (hFirst :
      (bindAll id first).perform before = (.ok (), after))
    (rest : List (String × Reference)) :
    (bindAll id (first ++ rest)).perform before =
      (bindAll id rest).perform after := by
  induction first generalizing before with
  | nil =>
      cases hFirst
      rfl
  | cons entry first ih =>
      obtain ⟨name, reference⟩ := entry
      rw [bindAll, perform_bind] at hFirst
      rw [List.cons_append, bindAll, perform_bind]
      cases hBind :
          (bind id name reference.toValue).perform before with
      | mk outcome next =>
          rw [hBind] at hFirst
          cases outcome with
          | error failure => cases hFirst
          | ok answer => exact ih hFirst

/- Binding stops at the first name that is bound already. -/
theorem perform_bindAll_conflict
    {earlier later : List (String × Reference)}
    {name : String}
    {reference : Reference}
    (hDistinct :
      Entries.Distinct (earlier ++ (name, reference) :: later))
    {app : Application}
    (hNew :
      ∀ entry ∈ earlier,
        (app.contexts.get id).bindings.get? entry.1 = none)
    (hBound :
      (app.contexts.get id).bindings.get? name ≠ none) :
    (bindAll id
          (earlier ++ (name, reference) :: later)).perform
        app =
      (.error (.alreadyBound name),
        app.setContext id
          ((app.contexts.get id).binding earlier)) := by
  rw [Entries.Distinct, List.pairwise_append] at hDistinct
  obtain ⟨hEarlier, _, hApart⟩ := hDistinct
  have hOther : Entries.value? name earlier = none := by
    rw [Entries.value?_eq_none_iff, Entries.contains,
      List.any_eq_false]
    intro entry hEntry
    have hDifferent := hApart entry hEntry _ List.mem_cons_self
    rw [Bool.not_eq_true]
    exact hDifferent
  have hStays :
      ((app.contexts.get id).binding
          earlier).bindings.contains name =
        true := by
    rw [← Bool.not_eq_false, Table.contains_eq_false_iff,
      get?_binding _ hEarlier, hOther]
    exact hBound
  rw [perform_bindAll_append
    (perform_bindAll id hEarlier app hNew), bindAll,
    perform_bind, perform_bind_eq, get_setContext_self, hStays]
  rfl

end Context

end Keyspaces

------------------------------------------------------------
-- What Is Bound
------------------------------------------------------------

namespace Keyspaces

namespace Context

/-
  A context binds names that were not bound to references, in
  order and behind the others. Nothing else changes in it.
-/
structure Binds
    (entries : List (String × Reference))
    (before after : Context) : Prop where
  new :
    ∀ entry ∈ entries, before.bindings.get? entry.1 = none
  bound :
    ∀ entry ∈ entries,
      after.bindings.get? entry.1 = some entry.2.toValue
  others :
    ∀ name, name ∉ entries.map Prod.fst →
      after.bindings.get? name = before.bindings.get? name
  order :
    after.bindings.keys =
      before.bindings.keys ++ entries.map Prod.fst
  factories : after.factories = before.factories
  arguments : after.arguments = before.arguments

variable {before : Context}
variable {entries : List (String × Reference)}

/- A name is not among entries that say nothing about it. -/
theorem value?_eq_none_of_not_mem
    {name : String}
    (hName : name ∉ entries.map Prod.fst) :
    Entries.value? name entries = none := by
  rw [← Entries.last?_eq_none_iff] at hName
  rw [Entries.last?, Entries.value?_eq_none_iff,
    Entries.contains, List.any_reverse] at hName
  rwa [Entries.value?_eq_none_iff]

/- Entries with distinct names that are not bound are bound. -/
theorem binds_binding
    (hDistinct : Entries.Distinct entries)
    (hNew :
      ∀ entry ∈ entries,
        before.bindings.get? entry.1 = none) :
    Binds entries before (before.binding entries) := by
  constructor
  case new => exact hNew
  case bound =>
    intro entry hEntry
    have hValue :=
      (Entries.value?_eq_some_iff hDistinct entry.1
        entry.2).mpr hEntry
    rw [get?_binding _ hDistinct, hValue]
    rfl
  case others =>
    intro name hName
    rw [get?_binding _ hDistinct,
      value?_eq_none_of_not_mem hName]
    rfl
  case order =>
    have hBound : Entries.Distinct (Context.bound entries) := by
      rw [Entries.distinct_iff_map_fst] at hDistinct ⊢
      rwa [Context.bound, List.map_map]
    have hFree :
        ∀ pair ∈ Context.bound entries,
          pair.1 ∉ before.bindings.keys := by
      intro pair hPair
      obtain ⟨entry, hEntry, rfl⟩ := List.mem_map.mp hPair
      rw [← Table.get?_ne_none_iff, not_not]
      exact hNew entry hEntry
    have hMerged :=
      before.bindings.entries_merge_of_new hBound hFree
    rw [binding, Table.keys, hMerged, List.map_append,
      Context.bound, List.map_map]
    rfl
  case factories => rfl
  case arguments => rfl

end Context

end Keyspaces

------------------------------------------------------------
-- Loading
------------------------------------------------------------

namespace Keyspaces

namespace Context

open Keyspaces.Action Application

/-
  How loading ends. All that is declared is bound, or nothing
  changes because nothing can be read, or what is declared
  before the first name that is bound already is bound.
-/
inductive Loads
    (before : Context)
    (declared : Except Failure Declarations) :
    Except Failure (List String) → Context → Prop
| all
    {declarations : Declarations}
    {after : Context}
    (hDeclared : declared = .ok declarations)
    (hBinds : Binds declarations.entries before after) :
    Loads before declared (.ok declarations.keys) after
| unread
    {failure : Failure}
    (hDeclared : declared = .error failure) :
    Loads before declared (.error failure) before
| partly
    {declarations : Declarations}
    {earlier later : List (String × Reference)}
    {name : String}
    {reference : Reference}
    {after : Context}
    (hDeclared : declared = .ok declarations)
    (hEntries :
      declarations.entries =
        earlier ++ (name, reference) :: later)
    (hBound : before.bindings.get? name ≠ none)
    (hBinds : Binds earlier before after)
    (hSame : earlier = [] → after = before) :
    Loads before declared (.error (.alreadyBound name)) after

/- Loading what cannot be read changes nothing. -/
theorem perform_load_error
    (id : ContextId)
    (failure : Failure)
    (app : Application) :
    (load id (.error failure)).perform app =
      (.error failure, app) :=
  rfl

/- The names are answered when all of them are bound. -/
theorem perform_load_ok
    {id : ContextId}
    {declarations : Declarations}
    {app after : Application}
    (hBind :
      (bindAll id declarations.entries).perform app =
        (.ok (), after)) :
    (load id (.ok declarations)).perform app =
      (.ok declarations.keys,
        after.logged (.resourcesBound declarations.keys)) := by
  rw [load, perform_bind, perform_ofExcept]
  dsimp only
  rw [perform_bind_of_ok hBind]
  rfl

/- Loading fails when a name cannot be bound. -/
theorem perform_load_conflict
    {id : ContextId}
    {declarations : Declarations}
    {failure : Failure}
    {app after : Application}
    (hBind :
      (bindAll id declarations.entries).perform app =
        (.error failure, after)) :
    (load id (.ok declarations)).perform app =
      (.error failure, after) := by
  rw [load, perform_bind, perform_ofExcept]
  dsimp only
  rw [perform_bind, hBind]

/- Loading ends in one of these ways. -/
theorem loads_load
    (id : ContextId)
    (declared : Except Failure Declarations)
    (app : Application) :
    Loads (app.contexts.get id) declared
      ((load id declared).perform app).1
      (((load id declared).perform app).2.contexts.get id) := by
  cases declared with
  | error failure =>
      rw [perform_load_error]
      exact .unread rfl
  | ok declarations =>
      have hDistinct := declarations.distinct
      cases hConflict :
          declarations.entries.find? fun entry =>
            (app.contexts.get id).bindings.contains entry.1 with
      | none =>
          rw [List.find?_eq_none] at hConflict
          have hNew :
              ∀ entry ∈ declarations.entries,
                (app.contexts.get id).bindings.get? entry.1 =
                  none := by
            intro entry hEntry
            rw [← Table.contains_eq_false_iff,
              ← Bool.not_eq_true]
            exact hConflict entry hEntry
          rw [perform_load_ok
            (perform_bindAll id hDistinct app hNew)]
          refine .all rfl ?_
          change
            Binds _ _ ((app.setContext id _).contexts.get id)
          rw [get_setContext_self]
          exact binds_binding hDistinct hNew
      | some entry =>
          obtain ⟨name, reference⟩ := entry
          rw [List.find?_eq_some_iff_append] at hConflict
          obtain ⟨hKnown, earlier, later, hEntries, hBefore⟩ :=
            hConflict
          have hBound :
              (app.contexts.get id).bindings.get? name ≠
                none := by
            rw [ne_eq, ← Table.contains_eq_false_iff,
              Bool.not_eq_false]
            exact hKnown
          have hNew :
              ∀ entry ∈ earlier,
                (app.contexts.get id).bindings.get? entry.1 =
                  none := by
            intro entry hEntry
            rw [← Table.contains_eq_false_iff]
            simpa using hBefore entry hEntry
          rw [hEntries] at hDistinct
          have hPerform :=
            perform_bindAll_conflict hDistinct hNew hBound
          rw [← hEntries] at hPerform
          rw [perform_load_conflict hPerform]
          dsimp only
          rw [get_setContext_self]
          have hEarlier : Entries.Distinct earlier :=
            (List.pairwise_append.mp hDistinct).1
          refine
            .partly rfl hEntries hBound
              (binds_binding hEarlier hNew) ?_
          rintro rfl
          rfl

end Context

end Keyspaces

------------------------------------------------------------
-- All or Nothing
------------------------------------------------------------

namespace Keyspaces

namespace Context

open Keyspaces.Action Application

/-
  Either all that is declared is bound, and its names are
  answered, or loading fails and the context holds what it
  held before.
-/
inductive AllOrNothing
    (before : Context)
    (declared : Except Failure Declarations) :
    Except Failure (List String) → Context → Prop
| all
    {declarations : Declarations}
    {after : Context}
    (hDeclared : declared = .ok declarations)
    (hBinds : Binds declarations.entries before after) :
    AllOrNothing before declared (.ok declarations.keys) after
| nothing
    {failure : Failure}
    {after : Context}
    (hBindings : after.bindings = before.bindings)
    (hFactories : after.factories = before.factories) :
    AllOrNothing before declared (.error failure) after

/-
  Declarations depart from a context if their first name is
  not bound in it, but a later one is.
-/
def Departs
    (before : Context)
    (declared : Except Failure Declarations) : Prop :=
  ∃ declarations first later,
    declared = .ok declarations ∧
      declarations.entries = first :: later ∧
        before.bindings.get? first.1 = none ∧
          ∃ entry ∈ later,
            before.bindings.get? entry.1 ≠ none

/- All or nothing is bound unless the declarations depart. -/
theorem Loads.allOrNothing_iff
    {before after : Context}
    {declared : Except Failure Declarations}
    {outcome : Except Failure (List String)}
    (h : Loads before declared outcome after) :
    AllOrNothing before declared outcome after ↔
      ¬ Departs before declared := by
  cases h with
  | @all declarations _ hDeclared hBinds =>
      refine iff_of_true (.all hDeclared hBinds) ?_
      rintro ⟨found, first, later, hFound, hEntries, _, entry,
        hEntry, hBound⟩
      rw [hDeclared] at hFound
      cases hFound
      apply hBound
      apply hBinds.new
      rw [hEntries]
      exact List.mem_cons_of_mem _ hEntry
  | unread hDeclared =>
      refine iff_of_true (.nothing rfl rfl) ?_
      rintro ⟨found, _, _, hFound, _⟩
      rw [hDeclared] at hFound
      contradiction
  | @partly declarations earlier later name reference _
      hDeclared hEntries hBound hBinds hSame =>
      cases earlier with
      | nil =>
          rw [hSame rfl]
          refine iff_of_true (.nothing rfl rfl) ?_
          rintro ⟨found, first, _, hFound, hOther, hFree, _⟩
          rw [hDeclared] at hFound
          cases hFound
          rw [hEntries] at hOther
          cases hOther
          exact hBound hFree
      | cons entry earlier =>
          have hFree := hBinds.new entry List.mem_cons_self
          have hNow := hBinds.bound entry List.mem_cons_self
          refine iff_of_false ?_ ?_
          · intro hNothing
            cases hNothing with
            | nothing hBindings hFactories =>
                rw [hBindings, hFree] at hNow
                contradiction
          · intro hNot
            apply hNot
            refine
              ⟨declarations, entry,
                earlier ++ (name, reference) :: later,
                hDeclared, hEntries, hFree,
                (name, reference), ?_, hBound⟩
            exact
              List.mem_append_right _ List.mem_cons_self

/- Loading changes no other context. -/
theorem elsewhere_load
    {id other : ContextId}
    (hOther : other ≠ id)
    (declared : Except Failure Declarations)
    (app : Application) :
    ((load id declared).perform app).2.contexts.get other =
      app.contexts.get other := by
  refine
    keeps_load
      (P := fun after =>
        after.contexts.get other = app.contexts.get other)
      ?_ ?_ declared app rfl
  · intro name value after hSame
    rw [perform_bind_eq]
    split
    · exact hSame
    · rw [get_setContext_of_ne _ _ hOther]
      exact hSame
  · intro names after hSame
    exact hSame

/-
  Declarations are loaded in order. When loading answers, all
  of them are bound and the names are those of the resources
  in document order. When it fails, what is declared before
  the first name that is bound already is bound, and nothing
  else changes. This is all or nothing unless the declarations
  depart.
-/
structure LoadsInOrder
    (read : Value → Except Failure (List UInt8))
    (source : Declarations.Source)
    (id : ContextId)
    (app : Application)
    (outcome : Except Failure (List String))
    (after : Application) : Prop where
  loads :
    Loads (app.contexts.get id)
      (Declarations.ofSource read source) outcome
      (after.contexts.get id)
  names :
    ∀ names, outcome = .ok names →
      ∃ root,
        Declarations.rootOf read source = .ok root ∧
          names.map some =
            (root.named Declarations.resourceTag).map
              (·.attribute? "name")
  elsewhere :
    ∀ other, other ≠ id →
      after.contexts.get other = app.contexts.get other
  allOrNothing_iff :
    AllOrNothing (app.contexts.get id)
        (Declarations.ofSource read source) outcome
        (after.contexts.get id) ↔
      ¬ Departs (app.contexts.get id)
        (Declarations.ofSource read source)

/- The declarations of every source are loaded in order. -/
theorem loadsInOrder_load
    (read : Value → Except Failure (List UInt8))
    (source : Declarations.Source)
    (id : ContextId)
    (app : Application) :
    LoadsInOrder read source id app
      ((load id
          (Declarations.ofSource read source)).perform app).1
      ((load id
          (Declarations.ofSource read source)).perform
        app).2 := by
  have hLoads :=
    loads_load id (Declarations.ofSource read source) app
  constructor
  case loads => exact hLoads
  case names =>
    intro names hNames
    rw [hNames] at hLoads
    cases hLoads with
    | @all declarations _ hDeclared hBinds =>
        obtain ⟨root, hRoot, hElement⟩ :=
          (Outcome.bind_eq_ok_iff _ _ _).mp hDeclared
        have hAccepted :=
          ((Declarations.ofElement_eq_ok_iff _ _).mp
            hElement).1
        refine ⟨root, hRoot, ?_⟩
        rw [Declarations.keys_ofElement hElement,
          List.map_map]
        apply List.map_congr_left
        intro element hMember
        have hResource := hAccepted.resource element hMember
        exact hResource.attribute?_name.symm
  case elsewhere =>
    intro other hOther
    exact elsewhere_load hOther _ app
  case allOrNothing_iff => exact hLoads.allOrNothing_iff

/-
  Declarations depart from a context if their first name is
  not bound in it, but their second name is.
-/
theorem departs_of_keys
    {before : Context}
    {declared : Except Failure Declarations}
    {first second : String}
    {names : List String}
    (hNames :
      (declared.toOption.map fun found => found.keys) =
        some (first :: second :: names))
    (hFree : before.bindings.get? first = none)
    (hBound : before.bindings.get? second ≠ none) :
    Departs before declared := by
  cases declared with
  | error failure => cases hNames
  | ok declarations =>
      have hKeys :
          declarations.entries.map Prod.fst =
            first :: second :: names :=
        Option.some.inj hNames
      obtain ⟨entry, _, hEntries, rfl, hLater⟩ :=
        List.map_eq_cons_iff.mp hKeys
      obtain ⟨next, rest, rfl, rfl, _⟩ :=
        List.map_eq_cons_iff.mp hLater
      exact
        ⟨declarations, entry, next :: rest, rfl, hEntries,
          hFree, next, List.mem_cons_self, hBound⟩

namespace Sample

/- A document that declares two resources. -/
def source : Declarations.Source :=
  .value <| .text <|
    "<C><Resource name='a' factory='f'/>" ++
      "<Resource name='b' factory='f'/></C>"

/- No file can be read. -/
def read (path : Value) : Except Failure (List UInt8) :=
  .error (.fileNotFound path)

/- What the document declares. -/
def declared : Except Failure Declarations :=
  Declarations.ofSource read source

theorem keys_declared :
    (declared.toOption.map fun found => found.keys) =
      some ["a", "b"] := by
  decide +kernel

/- A context in which the second of these names is bound. -/
def occupied : Context :=
  ⟨[], Table.empty.insert "b" (.text "x"), .empty⟩

/- An application with this context. -/
def application : Application :=
  { start .empty .none with
    contexts := Pool.empty.add occupied }

end Sample

/- The first resource stays bound although loading fails. -/
theorem not_allOrNothing_occupied :
    ¬ AllOrNothing (Sample.application.contexts.get 0)
        Sample.declared
        ((load 0 Sample.declared).perform
          Sample.application).1
        (((load 0 Sample.declared).perform
          Sample.application).2.contexts.get 0) := by
  have hLoads := loads_load 0 Sample.declared Sample.application
  rw [hLoads.allOrNothing_iff, not_not]
  apply departs_of_keys Sample.keys_declared
  · rfl
  · exact nofun

end Context

end Keyspaces
