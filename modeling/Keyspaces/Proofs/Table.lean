import Keyspaces.Table
import Mathlib.Data.List.Nodup

/-
  Reading a table after it was changed, and the entries of a
  table as what its keys are read as.

  Main statements:
    * `Entries.last?_flatMap`
    * `Table.get?_insert`
    * `Table.get?_erase`
    * `Table.mem_entries_iff`
    * `Table.get?_merge_eq_last?`
    * `Table.entries_insert_of_get?`
-/

------------------------------------------------------------
-- Entry Lists
------------------------------------------------------------

namespace Keyspaces

namespace Entries

variable {κ α : Type} [BEq κ]

/- The value of the first entry with a key. -/
def value?
    (key : κ)
    (entries : List (κ × α)) : Option α :=
  (entries.find? fun entry => entry.1 == key).map Prod.snd

/- The value of the last entry with a key. -/
def last?
    (key : κ)
    (entries : List (κ × α)) : Option α :=
  value? key entries.reverse

/- Later entries come before earlier ones. -/
theorem last?_append
    (key : κ)
    (entries later : List (κ × α)) :
    last? key (entries ++ later) =
      (last? key later).or (last? key entries) := by
  simp [last?, value?, List.find?_append, Option.map_or]

/- The last entry of parts in a row is in the last such part. -/
theorem last?_flatMap
    {β : Type}
    (key : κ)
    (part : β → List (κ × α))
    (items : List β) :
    last? key (items.flatMap part) =
      items.reverse.findSome? fun item =>
        last? key (part item) := by
  induction items with
  | nil => rfl
  | cons item items ih =>
      rw [List.flatMap_cons, last?_append, ih,
        List.reverse_cons, List.findSome?_append]
      simp

/- A key without an entry has no value. -/
theorem value?_eq_none_iff
    (key : κ)
    (entries : List (κ × α)) :
    value? key entries = none ↔
      contains key entries = false := by
  simp [value?, contains]

variable [LawfulBEq κ]

/- A key that no entry has comes last nowhere. -/
theorem last?_eq_none_iff
    (key : κ)
    (entries : List (κ × α)) :
    last? key entries = none ↔
      key ∉ entries.map Prod.fst := by
  rw [last?, value?_eq_none_iff, contains, List.any_reverse,
    List.any_eq_false, List.mem_map, not_exists]
  simp only [beq_iff_eq, not_and]

/- The last value of a key is that of an entry. -/
theorem mem_of_last?_eq_some
    {key : κ}
    {value : α}
    {entries : List (κ × α)}
    (h : last? key entries = some value) :
    (key, value) ∈ entries := by
  obtain ⟨⟨found, read⟩, hFound, hValue⟩ :=
    Option.map_eq_some_iff.mp h
  have hKey : found = key := by
    simpa using List.find?_some hFound
  have hRead : read = value := hValue
  have hMember := List.mem_of_find?_eq_some hFound
  rw [List.mem_reverse, hKey, hRead] at hMember
  exact hMember

/- The only value of a key is its last one. -/
theorem last?_eq_some_of_only
    {key : κ}
    {value : α}
    {entries : List (κ × α)}
    (hMember : (key, value) ∈ entries)
    (hOnly :
      ∀ other, (key, other) ∈ entries → other = value) :
    last? key entries = some value := by
  cases hLast : last? key entries with
  | none =>
      rw [last?_eq_none_iff] at hLast
      exact absurd (List.mem_map_of_mem hMember) hLast
  | some other =>
      rw [hOnly other (mem_of_last?_eq_some hLast)]

/- Entries under new names with new values are last as before. -/
theorem last?_rename
    {η β : Type}
    [BEq η]
    [LawfulBEq η]
    {rename : κ → η}
    (hRename : Function.Injective rename)
    (change : α → β)
    (key : κ)
    (entries : List (κ × α)) :
    last? (rename key)
        (entries.map fun entry =>
          (rename entry.1, change entry.2)) =
      (last? key entries).map change := by
  have hSame :
      (fun entry : κ × α => rename entry.1 == rename key) =
        fun entry => entry.1 == key := by
    funext entry
    rw [Bool.eq_iff_iff, beq_iff_eq, beq_iff_eq]
    exact hRename.eq_iff
  unfold last? value?
  rw [← List.map_reverse, List.find?_map, Option.map_map,
    Option.map_map]
  simp only [Function.comp_def, hSame]

/- What is done to all values is done to the last one. -/
theorem last?_map
    {β : Type}
    (change : α → β)
    (key : κ)
    (entries : List (κ × α)) :
    last? key
        (entries.map fun entry => (entry.1, change entry.2)) =
      (last? key entries).map change :=
  last?_rename Function.injective_id change key entries

/- Replacing the value of a key changes no other key. -/
theorem value?_replace
    (key other : κ)
    (value : α)
    (entries : List (κ × α)) :
    value? other (replace key value entries) =
      if other == key then
        (value? key entries).map fun _ => value
      else
        value? other entries := by
  induction entries with
  | nil => simp [value?, replace]
  | cons entry entries ih =>
      by_cases hEntry : entry.1 = key
      · by_cases hOther : other = key
        · simp [value?, replace, hEntry, hOther]
        · have hNot : key ≠ other := Ne.symm hOther
          simpa [value?, replace, hEntry, hOther, hNot]
            using ih
      · by_cases hRead : entry.1 = other
        · have hOther : other ≠ key := by
            intro hSame
            exact hEntry (hRead.trans hSame)
          simp [value?, replace, hRead, hOther]
        · simpa [value?, replace, hEntry, hRead] using ih

/- An entry behind the others is read if none has its key. -/
theorem value?_append
    (key other : κ)
    (value : α)
    (entries : List (κ × α))
    (hNew : contains key entries = false) :
    value? other (entries ++ [(key, value)]) =
      if other == key then some value
      else value? other entries := by
  by_cases hOther : other = key
  · subst other
    have hNone :=
      (value?_eq_none_iff key entries).mpr hNew
    simp only [value?, Option.map_eq_none_iff] at hNone
    simp [value?, List.find?_append, hNone]
  · have hNot : key ≠ other := Ne.symm hOther
    simp [value?, List.find?_append, hOther, hNot]

/- Entries are distinct when no key comes twice. -/
theorem distinct_iff_nodup (entries : List (κ × α)) :
    Distinct entries ↔ (entries.map Prod.fst).Nodup := by
  rw [distinct_iff_map_fst, List.Nodup]
  simp only [beq_eq_false_iff_ne]

/- Among distinct keys each entry is the one that is read. -/
theorem value?_eq_some_iff
    {entries : List (κ × α)}
    (hDistinct : Distinct entries)
    (key : κ)
    (value : α) :
    value? key entries = some value ↔
      (key, value) ∈ entries := by
  induction entries with
  | nil => simp [value?]
  | cons entry entries ih =>
      rcases entry with ⟨entryKey, entryValue⟩
      rcases List.pairwise_cons.mp hDistinct with
        ⟨hHead, hTail⟩
      by_cases hEntry : entryKey = key
      · subst entryKey
        have hAbsent : (key, value) ∉ entries := by
          intro hMember
          simpa using hHead (key, value) hMember
        simp [value?, hAbsent, eq_comm]
      · have hNot : key ≠ entryKey := Ne.symm hEntry
        simpa [value?, hEntry, hNot] using ih hTail

/- Among distinct keys the last entry of a key is the first. -/
theorem last?_eq_value?
    {entries : List (κ × α)}
    (hDistinct : Distinct entries)
    (key : κ) : last? key entries = value? key entries := by
  have hReverse : Distinct entries.reverse := by
    rw [distinct_iff_nodup] at hDistinct ⊢
    rw [List.map_reverse]
    exact List.nodup_reverse.mpr hDistinct
  apply Option.ext
  intro value
  rw [last?, value?_eq_some_iff hReverse,
    value?_eq_some_iff hDistinct, List.mem_reverse]

end Entries

end Keyspaces

------------------------------------------------------------
-- Tables
------------------------------------------------------------

namespace Keyspaces

namespace Table

variable {κ α : Type} [BEq κ]

/- A table is read as its entries are. -/
theorem get?_eq_value?
    (table : Table κ α)
    (key : κ) :
    table.get? key = Entries.value? key table.entries :=
  rfl

/- The empty table has no value under any key. -/
@[simp]
theorem get?_empty (key : κ) :
    (empty : Table κ α).get? key = none :=
  rfl

/- Storing replaces a value or comes behind the others. -/
theorem entries_insert
    (table : Table κ α)
    (key : κ)
    (value : α) :
    (table.insert key value).entries =
      if Entries.contains key table.entries then
        Entries.replace key value table.entries
      else
        table.entries ++ [(key, value)] := by
  unfold insert
  split
  case isTrue => rfl
  case isFalse => rfl

/- A table contains the keys that are read as something. -/
theorem contains_eq_false_iff
    (table : Table κ α)
    (key : κ) :
    table.contains key = false ↔ table.get? key = none :=
  (Entries.value?_eq_none_iff key table.entries).symm

variable [LawfulBEq κ]

/- Storing under a key changes no other key. -/
theorem get?_insert
    (table : Table κ α)
    (key other : κ)
    (value : α) :
    (table.insert key value).get? other =
      if other == key then some value
      else table.get? other := by
  unfold insert
  split
  case isTrue hContains =>
    have hSome : table.get? key ≠ none := by
      rw [ne_eq, ← contains_eq_false_iff, contains]
      simp [hContains]
    rcases Option.ne_none_iff_exists'.mp hSome with
      ⟨old, hOld⟩
    rw [get?_eq_value?] at hOld
    simp only [get?_eq_value?, Entries.value?_replace, hOld,
      Option.map_some]
  case isFalse hContains =>
    exact Entries.value?_append key other value
      table.entries (by simpa using hContains)

/- What is stored under a key is read under it. -/
@[simp]
theorem get?_insert_self
    (table : Table κ α)
    (key : κ)
    (value : α) :
    (table.insert key value).get? key = some value := by
  simp [get?_insert]

/- What is stored under another key is read as before. -/
theorem get?_insert_of_ne
    (table : Table κ α)
    (value : α)
    {key other : κ}
    (hOther : other ≠ key) :
    (table.insert key value).get? other =
      table.get? other := by
  rw [get?_insert, if_neg (by simpa using hOther)]

/- Removing the entry of a key changes no other key. -/
theorem get?_erase
    (table : Table κ α)
    (key other : κ) :
    (table.erase key).get? other =
      if other == key then none else table.get? other := by
  by_cases hOther : other = key
  · subst other
    simp [get?, erase]
  · have hSame :
        (fun entry : κ × α =>
            decide
              ((!(entry.1 == key)) = true ∧
                (entry.1 == other) = true)) =
          fun entry => entry.1 == other := by
      funext entry
      by_cases hEntry : entry.1 = other
      · simp [hEntry, hOther]
      · simp [hEntry]
    rw [get?, erase, List.find?_filter, hSame]
    simp [get?, hOther]

/- Nothing is read under a key that was removed. -/
@[simp]
theorem get?_erase_self
    (table : Table κ α)
    (key : κ) : (table.erase key).get? key = none := by
  simp [get?_erase]

/- Other keys are read as before a removal. -/
theorem get?_erase_of_ne
    (table : Table κ α)
    {key other : κ}
    (hOther : other ≠ key) :
    (table.erase key).get? other = table.get? other := by
  rw [get?_erase, if_neg (by simpa using hOther)]

/- The entries of a table are what its keys are read as. -/
theorem mem_entries_iff
    (table : Table κ α)
    (key : κ)
    (value : α) :
    (key, value) ∈ table.entries ↔
      table.get? key = some value :=
  (Entries.value?_eq_some_iff table.distinct key
    value).symm

/- The last of the entries that are stored is read. -/
theorem get?_merge_eq_last?
    (table : Table κ α)
    (entries : List (κ × α))
    (key : κ) :
    (table.merge entries).get? key =
      (Entries.last? key entries).or (table.get? key) := by
  induction entries generalizing table with
  | nil => simp [merge, Entries.last?, Entries.value?]
  | cons entry entries ih =>
      have hRest := ih (table.insert entry.1 entry.2)
      rw [get?_insert] at hRest
      refine hRest.trans ?_
      rw [← List.singleton_append, Entries.last?_append,
        Option.or_assoc]
      congr 1
      by_cases hKey : key = entry.1
      · simp [Entries.last?, Entries.value?, hKey]
      · have hNot : entry.1 ≠ key := Ne.symm hKey
        simp [Entries.last?, Entries.value?, hKey, hNot]

/- Storing entries with distinct keys changes these keys. -/
theorem get?_merge
    (table : Table κ α)
    {entries : List (κ × α)}
    (hDistinct : Entries.Distinct entries)
    (key : κ) :
    (table.merge entries).get? key =
      (Entries.value? key entries).or (table.get? key) := by
  rw [get?_merge_eq_last?, Entries.last?_eq_value? hDistinct]

------------------------------------------------------------
-- Keys and Entries
------------------------------------------------------------

/- Tables with the same entries are the same. -/
omit [LawfulBEq κ] in
theorem eq_of_entries
    {first second : Table κ α}
    (h : first.entries = second.entries) : first = second := by
  cases first
  cases second
  cases h
  rfl

/- A table contains the keys of its entries. -/
theorem contains_iff_mem_keys
    (table : Table κ α)
    (key : κ) :
    table.contains key = true ↔ key ∈ table.keys := by
  simp [contains, Entries.contains, keys]

/- A key is present if something is read under it. -/
theorem get?_ne_none_iff
    (table : Table κ α)
    (key : κ) :
    table.get? key ≠ none ↔ key ∈ table.keys := by
  rw [← contains_iff_mem_keys, ne_eq,
    ← contains_eq_false_iff, Bool.not_eq_false]

/- No key comes twice. -/
theorem nodup_keys (table : Table κ α) :
    table.keys.Nodup :=
  (Entries.distinct_iff_nodup table.entries).mp table.distinct

/- A new key comes after the others. -/
theorem entries_insert_of_not_mem
    (table : Table κ α)
    {key : κ}
    (value : α)
    (hNew : key ∉ table.keys) :
    (table.insert key value).entries =
      table.entries ++ [(key, value)] := by
  rw [← contains_iff_mem_keys, contains] at hNew
  rw [insert, dif_neg hNew]

/- A key that is present keeps its place. -/
theorem keys_insert_of_mem
    (table : Table κ α)
    {key : κ}
    (value : α)
    (hMember : key ∈ table.keys) :
    (table.insert key value).keys = table.keys := by
  rw [← contains_iff_mem_keys, contains] at hMember
  rw [insert, dif_pos hMember]
  exact Entries.map_fst_replace key value table.entries

/- A key that is not present comes last. -/
theorem keys_insert_of_not_mem
    (table : Table κ α)
    {key : κ}
    (value : α)
    (hNew : key ∉ table.keys) :
    (table.insert key value).keys = table.keys ++ [key] := by
  rw [keys, entries_insert_of_not_mem table value hNew,
    List.map_append]
  rfl

/- What is stored has no part in which keys there are. -/
theorem keys_insert_congr
    {first second : Table κ α}
    (hKeys : first.keys = second.keys)
    (key : κ)
    (value other : α) :
    (first.insert key value).keys =
      (second.insert key other).keys := by
  by_cases hMember : key ∈ first.keys
  · have hSecond : key ∈ second.keys := hKeys ▸ hMember
    rw [keys_insert_of_mem first value hMember,
      keys_insert_of_mem second other hSecond, hKeys]
  · have hSecond : key ∉ second.keys := hKeys ▸ hMember
    rw [keys_insert_of_not_mem first value hMember,
      keys_insert_of_not_mem second other hSecond, hKeys]

/- Storing under the same keys in order leads to the same keys. -/
theorem keys_merge_congr
    {first second : Table κ α}
    (hKeys : first.keys = second.keys)
    {entries others : List (κ × α)}
    (hSame : entries.map Prod.fst = others.map Prod.fst) :
    (first.merge entries).keys =
      (second.merge others).keys := by
  induction entries generalizing first second others with
  | nil =>
      cases others with
      | nil => exact hKeys
      | cons other others => contradiction
  | cons entry entries ih =>
      cases others with
      | nil => contradiction
      | cons other others =>
          rw [List.map_cons, List.map_cons,
            List.cons.injEq] at hSame
          have hFirst :
              (first.insert entry.1 entry.2).keys =
                (second.insert other.1 other.2).keys := by
            rw [← hSame.1]
            exact keys_insert_congr hKeys entry.1 _ _
          unfold merge at ih ⊢
          exact ih hFirst hSame.2

/- A table is known by its keys and what they are read as. -/
theorem eq_of_keys_of_get?
    {first second : Table κ α}
    (hKeys : first.keys = second.keys)
    (hRead : ∀ key, first.get? key = second.get? key) :
    first = second := by
  have hEntries : ∀ table : Table κ α,
      table.entries.map (fun entry => (entry.1, some entry.2)) =
        table.keys.map fun key => (key, table.get? key) := by
    intro table
    rw [keys, List.map_map]
    apply List.map_congr_left
    rintro ⟨key, value⟩ hEntry
    rw [mem_entries_iff] at hEntry
    rw [Function.comp_apply, hEntry]
  have hSame := hEntries first
  rw [hKeys, funext hRead, ← hEntries second] at hSame
  apply eq_of_entries
  apply List.map_injective_iff.mpr _ hSame
  rintro ⟨key, value⟩ ⟨other, found⟩ hPair
  cases hPair
  rfl

/- What is read under a key changes in its place. -/
theorem entries_insert_of_get?
    (table : Table κ α)
    {key : κ}
    {old : α}
    (change : α → α)
    (hOld : table.get? key = some old) :
    (table.insert key (change old)).entries =
      table.entries.map fun entry =>
        (entry.1,
          if entry.1 == key then change entry.2
          else entry.2) := by
  have hContains :
      Entries.contains key table.entries = true := by
    have hMember : key ∈ table.keys := by
      rw [← get?_ne_none_iff, hOld]
      simp
    rwa [← contains_iff_mem_keys] at hMember
  rw [insert, dif_pos hContains]
  apply List.map_congr_left
  rintro ⟨entryKey, entryValue⟩ hEntry
  by_cases hKey : entryKey = key
  · subst entryKey
    rw [mem_entries_iff, hOld] at hEntry
    cases hEntry
    simp
  · simp [hKey]

/- New keys are stored behind the others, in their order. -/
theorem entries_merge_of_new
    (table : Table κ α)
    {entries : List (κ × α)}
    (hDistinct : Entries.Distinct entries)
    (hNew : ∀ entry ∈ entries, entry.1 ∉ table.keys) :
    (table.merge entries).entries =
      table.entries ++ entries := by
  induction entries generalizing table with
  | nil => exact (List.append_nil _).symm
  | cons entry entries ih =>
      obtain ⟨hHead, hTail⟩ := List.pairwise_cons.mp hDistinct
      rw [List.forall_mem_cons] at hNew
      have hInserted :=
        table.entries_insert_of_not_mem entry.2 hNew.1
      have hRest :
          ∀ other ∈ entries,
            other.1 ∉ (table.insert entry.1 entry.2).keys := by
        intro other hOther
        have hDifferent := hHead other hOther
        rw [beq_eq_false_iff_ne] at hDifferent
        rw [keys, hInserted, List.map_append, List.mem_append,
          not_or]
        refine ⟨hNew.2 other hOther, ?_⟩
        simpa using Ne.symm hDifferent
      change
        ((table.insert entry.1 entry.2).merge entries).entries =
          _
      rw [ih _ hTail hRest, hInserted, List.append_assoc]
      rfl

end Table

end Keyspaces
