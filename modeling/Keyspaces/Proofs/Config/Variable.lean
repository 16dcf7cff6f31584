import Keyspaces.Proofs.Config.ShellWords
import Keyspaces.Proofs.Config.Update
import Keyspaces.Proofs.Text.Strip

/-
  The two ways in which options are read: from the variable,
  and by an update. Both divide an option at its first
  equality sign and refuse it if there is none, but only an
  update trims the key and the value. So they lead to the same
  configuration unless blanks are left in it.

  Main declarations:
    * `Environment.Bare`
    * `Config.create_eq_map_options`
    * `Config.Agree`
    * `Config.Drifts`
    * `Config.agree_iff_not_drifts`
    * `Config.compared_options`
-/

------------------------------------------------------------
-- Options of the Variable
------------------------------------------------------------

namespace Keyspaces

namespace Environment

/-
  An environment is bare if no configuration file can be read
  in it, and its variable has just some tokens.
-/
structure Bare
    (environment : Environment)
    (tokens : List String) : Prop where
  files :
    ∀ path ∈ environment.paths,
      ∃ failure,
        environment.files.read (.text path) = .error failure
  tokens :
    ShellWords.split (environment.optionLine.getD "") =
      .ok tokens

variable {environment : Environment}
variable {tokens : List String}

/- Without files there are no values from files. -/
theorem Bare.fileSettings_eq
    (h : Bare environment tokens) :
    environment.fileSettings = .ok [] := by
  have hRead : ∀ paths : List String,
      (∀ path ∈ paths,
        ∃ failure,
          environment.files.read (.text path) =
            .error failure) →
        Ini.empty.readFiles environment.files paths =
          .ok Ini.empty := by
    intro paths hPaths
    induction paths with
    | nil => rfl
    | cons path paths ih =>
        rw [List.forall_mem_cons] at hPaths
        rcases hPaths.1 with ⟨failure, hFailure⟩
        rw [Ini.readFiles, Ini.readFile, hFailure]
        exact ih hPaths.2
  unfold fileSettings
  rw [hRead _ h.files]
  rfl

/- Every token that sets something has an equality sign. -/
theorem mem_of_sets
    {assigned : List (String × String)}
    (hSets : List.Forall₂ Sets tokens assigned) :
    ∀ token ∈ tokens, '=' ∈ token.toList := by
  induction hSets with
  | nil => simp
  | @cons token option tokens assigned hToken _ ih =>
      rw [List.forall_mem_cons]
      refine ⟨?_, ih⟩
      rw [hToken.1]
      simp

/- The first token that is malformed is refused. -/
theorem options_of_malformed
    {before after : List String}
    {token : String}
    (hBefore : ∀ other ∈ before, '=' ∈ other.toList)
    (hToken : '=' ∉ token.toList) :
    options (before ++ token :: after) =
      .error (.environmentOption token) := by
  induction before with
  | nil =>
      have hRefused :
          option token = .error (.environmentOption token) := by
        rw [option, Text.cut?_eq_none_of_not_mem hToken]
      rw [List.nil_append, options, hRefused]
      rfl
  | cons first before ih =>
      rw [List.forall_mem_cons] at hBefore
      rcases Config.exists_sets hBefore.1 with ⟨given, hSets⟩
      rw [List.cons_append, options, option_eq_ok hSets,
        ih hBefore.2]
      rfl

end Environment

end Keyspaces

------------------------------------------------------------
-- What Each Way Leads To
------------------------------------------------------------

namespace Keyspaces

namespace Config

open Environment

/- The configuration with options and nothing else. -/
def holding (assigned : List (String × String)) : Config :=
  ofTable (Table.empty.merge (textValues assigned))

/- The last value that options set for a key is held. -/
theorem value?_holding
    (assigned : List (String × String))
    (key : String) :
    (holding assigned).value? key =
      (Entries.last? key assigned).map Value.text := by
  rw [holding, value?_ofTable, Table.get?_merge_eq_last?,
    last?_textValues, Table.get?_empty, Option.or_none]

variable {environment : Environment}
variable {tokens : List String}
variable {assigned : List (String × String)}

/- A bare environment leads to what its options do. -/
theorem create_eq_map_options
    (hBare : Bare environment tokens) :
    create (some environment) [] [] =
      (options tokens).map holding := by
  have hVariable :
      environment.variableSettings =
        (options tokens).map textValues := by
    unfold variableSettings
    rw [hBare.tokens]
    simp only [bind, Except.bind]
    cases options tokens <;> rfl
  rw [create_of_fileSettings hBare.fileSettings_eq, hVariable]
  cases options tokens <;> rfl

/- An update leads to what its options set when trimmed. -/
theorem update_eq_holding
    (hSets : List.Forall₂ Sets tokens assigned) :
    Config.empty.update (tokens.map .text) [] =
      (holding (trimmed assigned), .ok ()) := by
  rw [update_of_assigns (assigns_trimmed hSets)]
  exact congrArg (·, _) (merge_ofTable Table.empty _)

/- Tokens are refused either way for the first malformed one. -/
theorem refused_of_malformed
    {before after : List String}
    {token : String}
    (hBare : Bare environment (before ++ token :: after))
    (hBefore : ∀ other ∈ before, '=' ∈ other.toList)
    (hToken : '=' ∉ token.toList) :
    create (some environment) [] [] =
        .error (.environmentOption token) ∧
      (Config.empty.update
          ((before ++ token :: after).map .text) []).2 =
        .error (.notKeyValue token) := by
  constructor
  · rw [create_eq_map_options hBare,
      options_of_malformed hBefore hToken]
    rfl
  · exact update_of_malformed hBefore hToken Config.empty

end Config

end Keyspaces

------------------------------------------------------------
-- Agreement
------------------------------------------------------------

namespace Keyspaces

namespace Config

open Environment

/-
  What the variable leads to agrees with what an update leads
  to: both are the same configuration, with the same values in
  the same order, or both are refused as faults in the
  configuration.
-/
inductive Agree :
    Except Failure Config →
    Config × Except Failure Unit → Prop
| same (conf : Config) : Agree (.ok conf) (conf, .ok ())
| refused
    {first second : Failure}
    {conf : Config}
    (hFirst : first.kind = .configuration)
    (hSecond : second.kind = .configuration) :
    Agree (.error first) (conf, .error second)

/-
  The two ways drift apart when blanks are left: around a key,
  or around the last value that is set for one.
-/
inductive Drifts (assigned : List (String × String)) : Prop
| key
    {key value : String}
    (hMember : (key, value) ∈ assigned)
    (hBlank : Text.trim key ≠ key)
| value
    {key value : String}
    (hLast : Entries.last? key assigned = some value)
    (hBlank : Text.trim value ≠ value)

variable {environment : Environment}
variable {tokens : List String}
variable {assigned : List (String × String)}

/- Trimming options keeps what they lead to without blanks. -/
theorem holding_trimmed
    (hNot : ¬ Drifts assigned) :
    holding (trimmed assigned) = holding assigned := by
  have hKeys : ∀ option ∈ assigned,
      Text.trim option.1 = option.1 := by
    intro option hMember
    by_contra hBlank
    exact hNot (.key hMember hBlank)
  have hTrimmed :
      trimmed assigned =
        assigned.map fun option =>
          (option.1, Text.trim option.2) := by
    apply List.map_congr_left
    intro option hMember
    rw [hKeys option hMember]
  have hLast : ∀ key,
      Entries.last? key (trimmed assigned) =
        Entries.last? key assigned := by
    intro key
    rw [hTrimmed, Entries.last?_map]
    cases hValue : Entries.last? key assigned with
    | none => rfl
    | some value =>
        have hSame : Text.trim value = value := by
          by_contra hBlank
          exact hNot (.value hValue hBlank)
        rw [Option.map_some, hSame]
  unfold holding
  congr 1
  apply Table.eq_of_keys_of_get?
  · apply Table.keys_merge_congr rfl
    rw [hTrimmed]
    simp [textValues, Function.comp_def]
  · intro key
    rw [Table.get?_merge_eq_last?, Table.get?_merge_eq_last?,
      last?_textValues, last?_textValues, hLast]

/- Blanks that are left are not there when options are trimmed. -/
theorem holding_trimmed_ne
    (hDrifts : Drifts assigned) :
    holding (trimmed assigned) ≠ holding assigned := by
  intro hSame
  have hLast : ∀ key,
      Entries.last? key (trimmed assigned) =
        Entries.last? key assigned := by
    intro key
    have hValue := congrArg (·.value? key) hSame
    rw [value?_holding, value?_holding] at hValue
    exact
      Option.map_injective (fun _ _ => Value.text.inj) hValue
  cases hDrifts with
  | @key key value hMember hBlank =>
      have hKey : key ∈ (trimmed assigned).map Prod.fst := by
        by_contra hNone
        rw [← Entries.last?_eq_none_iff, hLast,
          Entries.last?_eq_none_iff] at hNone
        exact hNone (List.mem_map_of_mem hMember)
      simp only [trimmed, List.map_map, List.mem_map,
        Function.comp_apply] at hKey
      rcases hKey with ⟨option, _, rfl⟩
      exact hBlank (Text.trim_trim _)
  | @value key value hValue hBlank =>
      rw [← hLast] at hValue
      have hMember := Entries.mem_of_last?_eq_some hValue
      rcases List.mem_map.mp hMember with ⟨option, _, hOption⟩
      cases hOption
      exact hBlank (Text.trim_trim _)

/-
  Tokens lead to the same either way, unless all of them set
  something and this drifts apart.
-/
theorem agree_iff_not_drifts
    (hBare : Bare environment tokens) :
    Agree (create (some environment) [] [])
        (Config.empty.update (tokens.map .text) []) ↔
      ∀ assigned, List.Forall₂ Sets tokens assigned →
        ¬ Drifts assigned := by
  rcases malformed_cases tokens with
    hTokens | ⟨before, token, after, rfl, hBefore, hToken⟩
  · rcases exists_given hTokens with ⟨assigned, hSets⟩
    have hUnique : ∀ other,
        List.Forall₂ Sets tokens other → other = assigned := by
      intro other hOther
      have hSame := options_eq_ok hOther
      rw [options_eq_ok hSets] at hSame
      exact (Except.ok.inj hSame).symm
    rw [create_eq_map_options hBare, options_eq_ok hSets,
      update_eq_holding hSets]
    constructor
    · intro hAgree other hOther hDrifts
      rw [hUnique other hOther] at hDrifts
      apply holding_trimmed_ne hDrifts
      generalize holding (trimmed assigned) = conf at hAgree ⊢
      cases hAgree with
      | same => rfl
    · intro hNot
      rw [holding_trimmed (hNot assigned hSets)]
      exact .same _
  · have hRefused := refused_of_malformed hBare hBefore hToken
    refine iff_of_true ?_ ?_
    · rcases hUpdate :
          Config.empty.update
            ((before ++ token :: after).map .text) [] with
        ⟨conf, outcome⟩
      rw [hUpdate] at hRefused
      obtain ⟨hCreate, rfl⟩ := hRefused
      rw [hCreate]
      exact .refused rfl rfl
    · intro assigned hSets
      exact
        absurd (mem_of_sets hSets token (by simp)) hToken

/-
  Options are compared: any tokens can be those of a variable,
  and what this variable leads to agrees with an update with
  the tokens, unless blanks make the two drift apart.
-/
structure Compared (tokens : List String) : Prop where
  exists_bare : ∃ environment, Bare environment tokens
  agree_iff :
    ∀ environment, Bare environment tokens →
      (Agree (create (some environment) [] [])
          (Config.empty.update (tokens.map .text) []) ↔
        ∀ assigned, List.Forall₂ Sets tokens assigned →
          ¬ Drifts assigned)

/- The variable with tokens in quotes, without any files. -/
def quotedEnvironment (tokens : List String) : Environment :=
  ⟨.empty, "~", some (ShellWords.line tokens)⟩

theorem bare_quotedEnvironment (tokens : List String) :
    Bare (quotedEnvironment tokens) tokens where
  files := by
    intro path hPath
    simp [quotedEnvironment, paths] at hPath
    rcases hPath with rfl | rfl | rfl | rfl <;>
      exact ⟨_, rfl⟩
  tokens := ShellWords.split_line tokens

/- All tokens can be compared. -/
theorem compared_options (tokens : List String) :
    Compared tokens where
  exists_bare := ⟨_, bare_quotedEnvironment tokens⟩
  agree_iff := fun _ => agree_iff_not_drifts

/- Blanks around an equality sign are left by the variable. -/
theorem not_agree_blanks :
    Bare (quotedEnvironment ["a = b"]) ["a = b"] ∧
      ¬ Agree
        (create (some (quotedEnvironment ["a = b"])) [] [])
        (Config.empty.update [.text "a = b"] []) := by
  have hBare := bare_quotedEnvironment ["a = b"]
  refine ⟨hBare, ?_⟩
  intro hAgree
  have hSets : List.Forall₂ Sets ["a = b"] [("a ", " b")] :=
    .cons ⟨by decide, by decide⟩ .nil
  apply
    (agree_iff_not_drifts hBare).mp hAgree _ hSets
  exact .key List.mem_cons_self (by decide)

end Config

end Keyspaces
