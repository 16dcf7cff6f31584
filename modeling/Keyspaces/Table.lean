/-
  This file defines tables that keep their entries in the
  order in which the keys came. Storing under a key that is
  present keeps its place and replaces its value.

  Main definitions:
    * `Table`
    * `Table.get?`
    * `Table.insert`
    * `Table.erase`
    * `Table.merge`
    * `Table.ofList`
-/

namespace Keyspaces

------------------------------------------------------------
-- Entry Lists
------------------------------------------------------------

namespace Entries

variable {κ α : Type} [BEq κ]

/- No key of the entries equals a later one. -/
def Distinct (entries : List (κ × α)) : Prop :=
  entries.Pairwise fun a b => (a.1 == b.1) = false

/- Replace the value of each entry with the key. -/
def replace
    (key : κ)
    (value : α)
    (entries : List (κ × α)) : List (κ × α) :=
  entries.map fun entry =>
    if entry.1 == key then (entry.1, value) else entry

/- Some entry has the key. -/
def contains
    (key : κ)
    (entries : List (κ × α)) : Bool :=
  entries.any fun entry => entry.1 == key

/- Replacing a value leaves the keys as they are. -/
theorem map_fst_replace
    (key : κ)
    (value : α)
    (entries : List (κ × α)) :
    (replace key value entries).map Prod.fst =
      entries.map Prod.fst := by
  simp only [replace, List.map_map]
  apply List.map_congr_left
  intro entry _
  simp only [Function.comp]
  split <;> rfl

/- Distinctness is a property of the keys alone. -/
theorem distinct_iff_map_fst
    (entries : List (κ × α)) :
    Distinct entries ↔
      (entries.map Prod.fst).Pairwise
        fun a b => (a == b) = false := by
  rw [Distinct, List.pairwise_map]

/- Replacing a value keeps the keys distinct. -/
theorem distinct_replace
    (key : κ)
    (value : α)
    {entries : List (κ × α)}
    (h : Distinct entries) :
    Distinct (replace key value entries) := by
  rw [distinct_iff_map_fst] at h ⊢
  rwa [map_fst_replace]

/- A key that no entry has can be appended. -/
theorem distinct_append
    (key : κ)
    (value : α)
    {entries : List (κ × α)}
    (h : Distinct entries)
    (hNew : contains key entries = false) :
    Distinct (entries ++ [(key, value)]) := by
  rw [Distinct, List.pairwise_append]
  refine ⟨h, by simp, ?_⟩
  intro entry hEntry last hLast
  obtain rfl := List.mem_singleton.1 hLast
  simpa [contains] using
    List.any_eq_false.1 hNew entry hEntry

end Entries

------------------------------------------------------------
-- Tables
------------------------------------------------------------

/-
  A table is a list of entries whose keys are distinct.
-/
structure Table (κ α : Type) [BEq κ] where
  entries : List (κ × α)
  distinct : Entries.Distinct entries

namespace Table

variable {κ α : Type} [BEq κ]

/- The table without entries. -/
def empty : Table κ α :=
  ⟨[], List.Pairwise.nil⟩

instance : Inhabited (Table κ α) :=
  ⟨empty⟩

instance [Repr κ] [Repr α] : Repr (Table κ α) :=
  ⟨fun table n => reprPrec table.entries n⟩

/- The keys in order. -/
def keys (table : Table κ α) : List κ :=
  table.entries.map Prod.fst

/- The value stored under a key. -/
def get?
    (table : Table κ α)
    (key : κ) : Option α :=
  (table.entries.find? fun entry => entry.1 == key).map
    Prod.snd

/- The table has an entry with the key. -/
def contains
    (table : Table κ α)
    (key : κ) : Bool :=
  Entries.contains key table.entries

/- Store a value under a key. -/
def insert
    (table : Table κ α)
    (key : κ)
    (value : α) : Table κ α :=
  if h : Entries.contains key table.entries then
    ⟨Entries.replace key value table.entries,
      Entries.distinct_replace key value table.distinct⟩
  else
    ⟨table.entries ++ [(key, value)],
      Entries.distinct_append key value table.distinct
        (by simpa using h)⟩

/- Remove the entry of a key, if there is one. -/
def erase
    (table : Table κ α)
    (key : κ) : Table κ α :=
  ⟨table.entries.filter fun entry => !(entry.1 == key),
    List.Pairwise.filter _ table.distinct⟩

/- Store all entries of a list in order. -/
def merge
    (table : Table κ α)
    (entries : List (κ × α)) : Table κ α :=
  entries.foldl
    (fun result entry => result.insert entry.1 entry.2)
    table

/- The table of a list of entries. -/
def ofList (entries : List (κ × α)) : Table κ α :=
  empty.merge entries

end Table

end Keyspaces
