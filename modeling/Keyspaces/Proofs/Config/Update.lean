import Keyspaces.Proofs.Config.Environment

/-
  What a configuration is after options were stored in it in
  order: each option is divided at its first equality sign,
  and the last one of a key decides.

  Main declarations:
    * `Config.Assigns`
    * `Config.assigns_trimmed`
    * `Config.update_of_assigns`
    * `Config.update_of_malformed`
    * `Config.value?_merge`
-/

------------------------------------------------------------
-- Single Options
------------------------------------------------------------

namespace Keyspaces

namespace Text

/- A text is not cut if the separator is not in it. -/
theorem cut?_eq_none_of_not_mem
    {separator : Char}
    {cs : List Char}
    (h : separator ∉ cs) : cut? separator cs = none := by
  induction cs with
  | nil => rfl
  | cons c cs ih =>
      rw [List.mem_cons, not_or] at h
      have hNot : c ≠ separator := Ne.symm h.1
      simp [cut?, hNot, ih h.2]

end Text

namespace Config

/-
  An option assigns a value to a key. The key is in front of
  the first equality sign, and both are trimmed.
-/
def Assigns
    (option : String)
    (assigned : String × String) : Prop :=
  ∃ key value,
    option = key ++ "=" ++ value ∧ '=' ∉ key.toList ∧
      assigned = (Text.trim key, Text.trim value)

variable {option : String}
variable {assigned : String × String}

/- An option with an equality sign sets something. -/
theorem exists_sets
    (h : '=' ∈ option.toList) :
    ∃ given, Environment.Sets option given := by
  rcases List.eq_append_cons_of_mem h with
    ⟨key, value, hSplit, hKey⟩
  refine
    ⟨(String.ofList key, String.ofList value), ?_, ?_⟩
  · rw [← String.toList_inj, hSplit]
    simp
  · rwa [String.toList_ofList]

/- What an option sets is assigned once it is trimmed. -/
theorem assigns_of_sets
    {given : String × String}
    (h : Environment.Sets option given) :
    Assigns option (Text.trim given.1, Text.trim given.2) :=
  ⟨given.1, given.2, h.1, h.2, rfl⟩

/- What is assigned is what an option is divided into. -/
theorem Assigns.trimmedOption?_eq
    (h : Assigns option assigned) :
    trimmedOption? option = some assigned := by
  rcases h with ⟨key, value, rfl, hKey, rfl⟩
  have hText :
      (key ++ "=" ++ value).toList =
        key.toList ++ '=' :: value.toList := by
    simp
  rw [trimmedOption?, hText, Text.cut?_append hKey]
  rfl

/- An option without an equality sign is not divided. -/
theorem trimmedOption?_eq_none
    (h : '=' ∉ option.toList) :
    trimmedOption? option = none := by
  rw [trimmedOption?, Text.cut?_eq_none_of_not_mem h]
  rfl

end Config

end Keyspaces

------------------------------------------------------------
-- Options in Order
------------------------------------------------------------

namespace Keyspaces

namespace Config

open Environment

/- Options that assign values are stored in order. -/
theorem applyAll_append
    {options : List String}
    {assigned : List (String × String)}
    (hAssigns : List.Forall₂ Assigns options assigned)
    (conf : Config)
    (rest : List Value) :
    conf.applyAll (options.map .text ++ rest) =
      (conf.merge (textValues assigned)).applyAll rest := by
  induction hAssigns generalizing conf with
  | nil => rfl
  | @cons option pair options assigned hOption _ ih =>
      have hApply :
          conf.apply (.text option) =
            .ok (conf.set pair.1 (.text pair.2)) := by
        simp only [apply, hOption.trimmedOption?_eq]
      rw [List.map_cons, List.cons_append, applyAll, hApply]
      exact ih (conf.set pair.1 (.text pair.2))

/- A configuration is updated with options that assign. -/
theorem update_of_assigns
    {options : List String}
    {assigned : List (String × String)}
    (hAssigns : List.Forall₂ Assigns options assigned)
    (conf : Config) :
    conf.update (options.map .text) [] =
      (conf.merge (textValues assigned), .ok ()) := by
  have hApply := applyAll_append hAssigns conf []
  rw [List.append_nil] at hApply
  rw [update, hApply]
  rfl

/- Each of several options sets something. -/
theorem exists_given
    {options : List String}
    (h : ∀ option ∈ options, '=' ∈ option.toList) :
    ∃ given, List.Forall₂ Sets options given := by
  induction options with
  | nil => exact ⟨[], .nil⟩
  | cons option options ih =>
      rw [List.forall_mem_cons] at h
      rcases exists_sets h.1 with ⟨first, hFirst⟩
      rcases ih h.2 with ⟨rest, hRest⟩
      exact ⟨first :: rest, .cons hFirst hRest⟩

/- Options with their keys and values trimmed. -/
def trimmed
    (given : List (String × String)) :
    List (String × String) :=
  given.map fun option =>
    (Text.trim option.1, Text.trim option.2)

/- What options set is assigned once it is trimmed. -/
theorem assigns_trimmed
    {options : List String}
    {given : List (String × String)}
    (hSets : List.Forall₂ Sets options given) :
    List.Forall₂ Assigns options (trimmed given) := by
  rw [trimmed, List.forall₂_map_right_iff]
  exact hSets.imp fun _ _ => assigns_of_sets

/- Each of several options assigns something. -/
theorem exists_assigned
    {options : List String}
    (h : ∀ option ∈ options, '=' ∈ option.toList) :
    ∃ assigned, List.Forall₂ Assigns options assigned := by
  rcases exists_given h with ⟨given, hSets⟩
  exact ⟨_, assigns_trimmed hSets⟩

/- Options are well-formed, or one is the first that is not. -/
theorem malformed_cases (options : List String) :
    (∀ option ∈ options, '=' ∈ option.toList) ∨
      ∃ before option after,
        options = before ++ option :: after ∧
          (∀ other ∈ before, '=' ∈ other.toList) ∧
            '=' ∉ option.toList := by
  induction options with
  | nil => exact .inl (by simp)
  | cons first options ih =>
      by_cases hFirst : '=' ∈ first.toList
      · rcases ih with
          hRest | ⟨before, option, after, rfl, hBefore, hOption⟩
        · exact .inl (List.forall_mem_cons.mpr ⟨hFirst, hRest⟩)
        · exact
            .inr
              ⟨first :: before, option, after, rfl,
                List.forall_mem_cons.mpr ⟨hFirst, hBefore⟩,
                hOption⟩
      · exact .inr ⟨[], first, options, rfl, by simp, hFirst⟩

/- The first option that is malformed is refused. -/
theorem update_of_malformed
    {before after : List String}
    {option : String}
    (hBefore : ∀ other ∈ before, '=' ∈ other.toList)
    (hOption : '=' ∉ option.toList)
    (conf : Config) :
    (conf.update ((before ++ option :: after).map .text)
        []).2 =
      .error (.notKeyValue option) := by
  rcases exists_assigned hBefore with ⟨assigned, hAssigns⟩
  have hApply :=
    applyAll_append hAssigns conf
      (.text option :: after.map .text)
  have hRefused : ∀ other : Config,
      other.apply (.text option) =
        .error (.notKeyValue option) := by
    intro other
    simp only [apply, trimmedOption?_eq_none hOption]
  rw [applyAll, hRefused] at hApply
  rw [List.map_append, List.map_cons, update, hApply]

end Config

end Keyspaces

------------------------------------------------------------
-- Values
------------------------------------------------------------

namespace Keyspaces

namespace Config

open Environment

/- A key that equals a text is this text. -/
theorem beq_text_iff
    (key : Value)
    (s : String) :
    (key == Value.text s) = true ↔ key = .text s := by
  change Value.equal key (.text s) = true ↔ key = .text s
  cases key <;> simp [Value.equal]

theorem beq_text_eq_false_iff
    (key : Value)
    (s : String) :
    (key == Value.text s) = false ↔ key ≠ .text s := by
  rw [← Bool.not_eq_true, beq_text_iff]

/- Replacing under a text key changes what is read under it. -/
theorem value?_replace_text
    (key other : String)
    (value : Value)
    (entries : List (Value × Value)) :
    Entries.value? (.text other)
        (Entries.replace (.text key) value entries) =
      if other = key then
        (Entries.value? (.text key) entries).map fun _ => value
      else
        Entries.value? (.text other) entries := by
  induction entries with
  | nil => simp [Entries.value?, Entries.replace]
  | cons entry entries ih =>
      rcases entry with ⟨own, held⟩
      unfold Entries.value? Entries.replace at ih ⊢
      rw [List.map_cons]
      by_cases hKey : own = .text key
      · have hOwn := (beq_text_iff own key).mpr hKey
        by_cases hOther : other = key
        · simp [hOwn, hOther]
        · have hRead : (own == Value.text other) = false := by
            rw [beq_text_eq_false_iff, hKey]
            simp [Ne.symm hOther]
          simpa [hOwn, hRead, hOther] using ih
      · have hOwn := (beq_text_eq_false_iff own key).mpr hKey
        by_cases hRead : (own == Value.text other) = true
        · have hOther : other ≠ key := by
            rintro rfl
            rw [hRead] at hOwn
            contradiction
          simp [hOwn, hRead, hOther]
        · rw [Bool.not_eq_true] at hRead
          by_cases hOther : other = key
          · simpa [hOwn, hOther] using ih
          · simpa [hOwn, hRead, hOther] using ih

/- A value that is stored is read under its own key only. -/
theorem value?_set
    (conf : Config)
    (key other : String)
    (value : Value) :
    (conf.set key value).value? other =
      if other = key then some value
      else conf.value? other := by
  unfold value? set
  rw [Table.get?_eq_value?, Table.entries_insert,
    Table.get?_eq_value?]
  split
  case isTrue hContains =>
    have hSome :
        Entries.value? (.text key) conf.values.entries ≠
          none := by
      rw [ne_eq, Entries.value?_eq_none_iff, hContains]
      simp
    rcases Option.ne_none_iff_exists'.mp hSome with
      ⟨old, hOld⟩
    rw [value?_replace_text, hOld, Option.map_some]
  case isFalse hContains =>
    rw [Bool.not_eq_true] at hContains
    by_cases hOther : other = key
    · subst other
      have hNone :=
        (Entries.value?_eq_none_iff _ _).mpr hContains
      have hOwn := (beq_text_iff (.text key) key).mpr rfl
      simp only [Entries.value?, Option.map_eq_none_iff]
        at hNone
      simp [Entries.value?, List.find?_append, hNone, hOwn]
    · have hNot : (Value.text key == .text other) = false := by
        rw [beq_text_eq_false_iff]
        simp [Ne.symm hOther]
      simp [Entries.value?, List.find?_append, hOther, hNot]

/- The last value that is stored under a key is read. -/
theorem value?_merge
    (conf : Config)
    (assigned : List (String × String))
    (key : String) :
    (conf.merge (textValues assigned)).value? key =
      ((Entries.last? key assigned).map Value.text).or
        (conf.value? key) := by
  induction assigned generalizing conf with
  | nil => simp [merge, textValues, textEntries, Table.merge,
      Entries.last?, Entries.value?]
  | cons entry assigned ih =>
      have hRest := ih (conf.set entry.1 (.text entry.2))
      rw [value?_set] at hRest
      refine hRest.trans ?_
      rw [← List.singleton_append, Entries.last?_append]
      cases Entries.last? key assigned with
      | some value => rfl
      | none =>
          by_cases hKey : key = entry.1
          · simp [Entries.last?, Entries.value?, hKey]
          · have hNot : entry.1 ≠ key := Ne.symm hKey
            simp [Entries.last?, Entries.value?, hKey, hNot]

end Config

end Keyspaces
