import Keyspaces.Proofs.Check
import Keyspaces.Proofs.Config.Update
import Keyspaces.Proofs.Configurator.Record
import Mathlib.Data.List.Forall2
import Mathlib.Data.String.Basic

/-
  The verdict of a check: it is good if every name is that of
  a declared keyspace and everything selected can be read, and
  its report has a line for each other name and what was found
  of each selected keyspace. There is a verdict unless the
  default port cannot be shown and something selected asks for
  it. The configurations that were there before stay as they
  are.

  Main declarations:
    * `Check.selected`
    * `Check.Reports`
    * `Check.Settles`
    * `Check.settles_examine`
    * `Check.examine_of_obscured`
    * `Check.Rejects`
    * `Check.Overrides`
    * `Check.Judges`
    * `Check.judges_execute`
-/

------------------------------------------------------------
-- Names That Are Missing
------------------------------------------------------------

namespace Keyspaces

namespace Check

/- No name comes twice once duplicates are erased. -/
theorem nodup_eraseDups (names : List String) :
    names.eraseDups.Nodup := by
  match names with
  | [] => simp
  | name :: names =>
      rw [List.eraseDups_cons, List.nodup_cons]
      constructor
      · rw [List.mem_eraseDups, List.mem_filter]
        simp
      · exact nodup_eraseDups _
termination_by names.length
decreasing_by
  exact Nat.lt_succ_of_le (List.length_filter_le _ _)

variable {names : List String}
variable {entries : List (String × Reference)}

/- The names that no entry has are reported as undeclared. -/
theorem mem_undeclared_iff (name : String) :
    name ∈ undeclared names entries ↔
      name ∈ names ∧ name ∉ entries.map Prod.fst := by
  rw [undeclared, List.mem_mergeSort, List.mem_filter,
    List.mem_eraseDups, Bool.not_eq_true',
    ← Bool.not_eq_true, List.contains_iff_mem]

/- They are sorted, and none comes twice. -/
theorem pairwise_undeclared
    (names : List String)
    (entries : List (String × Reference)) :
    (undeclared names entries).Pairwise (· < ·) := by
  have hSorted :
      (undeclared names entries).Pairwise
        fun a b => decide (a ≤ b) = true := by
    apply List.pairwise_mergeSort
    · intro a b c hFirst hSecond
      rw [decide_eq_true_eq] at *
      exact String.le_trans hFirst hSecond
    · intro a b
      simpa using String.le_total a b
  have hDistinct : (undeclared names entries).Nodup := by
    rw [undeclared, (List.mergeSort_perm _ _).nodup_iff]
    exact (nodup_eraseDups names).filter _
  refine hSorted.imp₂ ?_ hDistinct
  intro a b hLe hNe
  exact lt_of_le_of_ne (decide_eq_true_eq.mp hLe) hNe

end Check

end Keyspaces

------------------------------------------------------------
-- Keyspaces That Are Selected
------------------------------------------------------------

namespace Keyspaces

namespace Check

/- A keyspace is declared with a name. -/
def IsKeyspace
    (declarations : Declarations)
    (name : String) : Prop :=
  ∃ reference,
    declarations.get? name = some reference ∧
      reference.factory = some Importer.keyspaceFactoryPath

/-
  The declared keyspaces in the order of their declaration:
  those that are named, or all if there are no names.
-/
def selected
    (declarations : Declarations)
    (names : List String) : List (String × Reference) :=
  declarations.entries.filter fun entry =>
    decide
      (entry.2.factory = some Importer.keyspaceFactoryPath ∧
        (names = [] ∨ entry.1 ∈ names))

/- What is selected is what is examined. -/
theorem select_eq_selected
    (declarations : Declarations)
    (names : List String) :
    select names (keyspaces declarations) =
      selected declarations names := by
  rw [select, keyspaces, List.filter_filter, selected]
  congr 1
  funext entry
  rw [Bool.eq_iff_iff]
  simp [and_comm]

/- A name is selected if it is that of a keyspace. -/
theorem mem_selected_iff
    (declarations : Declarations)
    {names : List String}
    {name : String}
    (hName : name ∈ names) :
    name ∈ (selected declarations names).map Prod.fst ↔
      IsKeyspace declarations name := by
  rw [List.mem_map]
  constructor
  · rintro ⟨⟨found, reference⟩, hSelected, rfl⟩
    rcases List.mem_filter.mp hSelected with
      ⟨hDeclared, hChosen⟩
    rw [decide_eq_true_eq] at hChosen
    exact
      ⟨reference,
        (Table.mem_entries_iff _ _ _).mp hDeclared,
        hChosen.1⟩
  · rintro ⟨reference, hDeclared, hFactory⟩
    refine ⟨(name, reference), List.mem_filter.mpr ?_, rfl⟩
    rw [decide_eq_true_eq]
    exact
      ⟨(Table.mem_entries_iff _ _ _).mpr hDeclared,
        hFactory, .inr hName⟩

end Check

end Keyspaces

------------------------------------------------------------
-- Reports
------------------------------------------------------------

namespace Keyspaces

namespace Check

/-
  What is reported of an entry: the keyspace, its cluster and
  the configuration of its hosts, or why it cannot be read.
-/
inductive Reports
    (conf : Config) :
    String × Reference → List String → Prop
| keyspace
    {name : String}
    {reference : Reference}
    {resource : Resource}
    {record : String}
    (hRead :
      Resource.parse conf reference.toValue = .ok resource)
    (hRecord : resource.configurator.written = .ok record) :
    Reports conf (name, reference)
      [name ++ ": keyspace " ++ resource.keyspaceName ++
        " on cluster " ++ resource.clusterName,
       "    " ++ record]
| invalid
    {name : String}
    {reference : Reference}
    {failure : Failure}
    (hFails :
      Resource.parse conf reference.toValue =
        .error failure) :
    Reports conf (name, reference)
      [name ++ ": " ++ failure.message]

/- The line for a name that is not that of a keyspace. -/
def missingLine (name : String) : String :=
  name ++ ": no keyspace resource declared with this name"

/- The report of a verdict is made of some lines. -/
def Verdict.Prints
    (verdict : Verdict)
    (lines : List String) : Prop :=
  verdict.report =
    String.join (lines.map fun line => line ++ "\n")

/-
  A finding tells whether an entry can be read, and its lines
  are what is reported of it.
-/
structure Finds
    (conf : Config)
    (entry : String × Reference)
    (finding : Finding) : Prop where
  good :
    finding.isGood = true ↔
      ∃ resource,
        Resource.parse conf entry.2.toValue = .ok resource
  lines : Reports conf entry finding.lines

/- What is found of an entry by inspecting it. -/
theorem finds_inspect
    {conf : Config}
    {entry : String × Reference}
    {finding : Finding}
    (hFinding : inspect conf entry = .ok finding) :
    Finds conf entry finding := by
  rcases entry with ⟨name, reference⟩
  have hParse :
      Resource.parse conf reference.toValue =
        Resource.ofReference conf reference :=
    rfl
  cases hResource : Resource.ofReference conf reference with
  | ok resource =>
      rw [hResource] at hParse
      cases keyspace_of_inspect hResource hFinding
      exact
        ⟨iff_of_true rfl ⟨resource, hParse⟩,
          .keyspace hParse
            (Resource.written_of_ofReference hResource)⟩
  | error failure =>
      rw [hResource] at hParse
      cases invalid_of_inspect hResource hFinding
      refine ⟨iff_of_false Bool.false_ne_true ?_, .invalid hParse⟩
      rintro ⟨resource, hRead⟩
      rw [hParse] at hRead
      contradiction

/- Entries are found to be good if each can be read. -/
theorem forall_isGood_iff
    {conf : Config}
    {entries : List (String × Reference)}
    {findings : List Finding}
    (hFindings :
      List.Forall₂ (Finds conf) entries findings) :
    (∀ finding ∈ findings, finding.isGood = true) ↔
      ∀ entry ∈ entries, ∃ resource,
        Resource.parse conf entry.2.toValue =
          .ok resource := by
  induction hFindings with
  | nil => simp
  | cons hEntry _ ih =>
      rw [List.forall_mem_cons, List.forall_mem_cons,
        hEntry.good, ih]

end Check

end Keyspaces

------------------------------------------------------------
-- Verdicts
------------------------------------------------------------

namespace Keyspaces

namespace Check

/-
  A verdict settles names. It is good if all of them are those
  of keyspaces and everything selected can be read. The report
  has a line for each other name, sorted and without repeats,
  and then the lines for each selected keyspace.
-/
structure Settles
    (conf : Config)
    (names : List String)
    (declarations : Declarations)
    (verdict : Verdict) : Prop where
  good :
    verdict.status = 0 ↔
      (∀ name ∈ names, IsKeyspace declarations name) ∧
        ∀ entry ∈ selected declarations names,
          ∃ resource,
            Resource.parse conf entry.2.toValue =
              .ok resource
  bad : verdict.status ≠ 0 → verdict.status = 1
  report :
    ∃ (missing : List String) (reports : List (List String)),
      missing.Pairwise (· < ·) ∧
        (∀ name, name ∈ missing ↔
          name ∈ names ∧ ¬ IsKeyspace declarations name) ∧
          List.Forall₂ (Reports conf)
              (selected declarations names) reports ∧
            verdict.Prints
              (missing.map missingLine ++ reports.flatten)

/- A status is zero if all findings are good, and else one. -/
theorem Verdict.status_eq_zero_iff (verdict : Verdict) :
    verdict.status = 0 ↔
      ∀ finding ∈ verdict.findings,
        finding.isGood = true := by
  unfold Verdict.status Verdict.isGood
  rw [← List.all_eq_true]
  split <;> simp [*]

theorem Verdict.status_eq_one
    {verdict : Verdict}
    (hStatus : verdict.status ≠ 0) : verdict.status = 1 := by
  unfold Verdict.status at hStatus ⊢
  by_cases hGood : verdict.isGood = true
  · rw [if_pos hGood] at hStatus
    contradiction
  · rw [if_neg hGood]

/- What is selected of declarations is textual. -/
theorem textual_of_mem_selected
    {declarations : Declarations}
    (hTextual : declarations.Textual)
    (names : List String) :
    ∀ entry ∈ selected declarations names,
      entry.2.Textual := by
  rw [← select_eq_selected]
  exact textual_of_mem_select hTextual names

/-
  Declarations are examined, and the verdict settles names,
  unless something that is selected is obscured.
-/
theorem settles_examine
    {conf : Config}
    {names : List String}
    {declarations : Declarations}
    (hTextual : declarations.Textual)
    (hClear : ¬ Obscured conf (selected declarations names)) :
    ∃ verdict,
      examine conf names declarations = .ok verdict ∧
        Settles conf names declarations verdict := by
  have hFinds :
      ∀ entry ∈ selected declarations names, ∀ finding,
        inspect conf entry = .ok finding →
          Finds conf entry finding :=
    fun _ _ _ => finds_inspect
  rcases exists_inspectAll
      (textual_of_mem_selected hTextual names) hClear hFinds
    with ⟨findings, hFindings, hForall⟩
  let missing :=
    undeclared names (selected declarations names)
  have hMissing : ∀ name, name ∈ missing ↔
      name ∈ names ∧ ¬ IsKeyspace declarations name := by
    intro name
    rw [mem_undeclared_iff]
    refine and_congr_right ?_
    intro hName
    rw [mem_selected_iff declarations hName]
  refine ⟨⟨missing.map .undeclared ++ findings⟩, ?_, ?_⟩
  · unfold examine
    rw [select_eq_selected]
    dsimp only
    rw [hFindings]
    rfl
  · constructor
    case good =>
      have hNames :
          (∀ finding ∈ missing.map Finding.undeclared,
              finding.isGood = true) ↔
            ∀ name ∈ names, IsKeyspace declarations name := by
        simp only [List.forall_mem_map, hMissing,
          Finding.isGood, Bool.false_eq_true, imp_false,
          not_and, not_not]
      rw [Verdict.status_eq_zero_iff, List.forall_mem_append,
        hNames, forall_isGood_iff hForall]
    case bad => exact Verdict.status_eq_one
    case report =>
      refine
        ⟨missing, findings.map Finding.lines,
          pairwise_undeclared _ _, hMissing, ?_, ?_⟩
      · rw [List.forall₂_map_right_iff]
        exact hForall.imp fun _ _ hFound => hFound.lines
      · have hLines :
            (missing.map Finding.undeclared).flatMap
                Finding.lines =
              missing.map missingLine := by
          rw [List.flatMap_map, List.map_eq_flatMap]
          rfl
        unfold Verdict.Prints Verdict.report
        rw [List.flatMap_append, hLines, List.flatMap_def]

/- There is no verdict if something selected is obscured. -/
theorem examine_of_obscured
    {conf : Config}
    {names : List String}
    {declarations : Declarations}
    (hTextual : declarations.Textual)
    (hObscured :
      Obscured conf (selected declarations names)) :
    examine conf names declarations =
      .error .unwritableInteger := by
  unfold examine
  rw [select_eq_selected]
  dsimp only
  rw [inspectAll_of_obscured
    (textual_of_mem_selected hTextual names) hObscured]
  rfl

end Check

end Keyspaces

------------------------------------------------------------
-- Checks
------------------------------------------------------------

namespace Keyspaces

namespace Check

open Environment

variable {read : Value → Except Failure (List UInt8)}
variable {arguments : Arguments}

/-
  Why there is nothing to check: the first option that is
  malformed, or else the document.
-/
inductive Rejects
    (read : Value → Except Failure (List UInt8))
    (arguments : Arguments) : Failure → Prop
| malformed
    {before after : List String}
    {option : String}
    (hOptions : arguments.options = before ++ option :: after)
    (hBefore : ∀ other ∈ before, '=' ∈ other.toList)
    (hOption : '=' ∉ option.toList) :
    Rejects read arguments (.notKeyValue option)
| document
    {failure : Failure}
    (hOptions :
      ∀ option ∈ arguments.options, '=' ∈ option.toList)
    (hDocument :
      Declarations.ofSource read
          (.value (.text arguments.source)) =
        .error failure)
    (hKind : failure.kind = .configuration) :
    Rejects read arguments failure

/-
  A copy of a configuration has the values that were assigned
  last, and under all other keys those of the original.
-/
structure Overrides
    (assigned : List (String × String))
    (conf copy : Config) : Prop where
  merged : copy = conf.merge (textValues assigned)
  values :
    ∀ key,
      copy.value? key =
        ((Entries.last? key assigned).map Value.text).or
          (conf.value? key)

/-
  What a check leaves behind and answers with. The
  configurations that were there are as before. Well-formed
  options are stored in a copy of the one that is used, and
  the verdict settles the names with this copy, or a default
  port in it cannot be shown and the failure to do so escapes.
  If there is nothing to check, the report is one line that
  tells why.
-/
structure Judges
    (read : Value → Except Failure (List UInt8))
    (configs : Pool Config)
    (given : Option ConfigId)
    (arguments : Arguments)
    (after : Pool Config)
    (outcome : Except Failure Verdict) : Prop where
  unchanged :
    ∀ id < configs.size, after.get id = configs.get id
  settled :
    ∀ declarations,
      (∀ option ∈ arguments.options, '=' ∈ option.toList) →
        Declarations.ofSource read
            (.value (.text arguments.source)) =
          .ok declarations →
          ∃ assigned copy,
            List.Forall₂ Config.Assigns arguments.options
                assigned ∧
              Overrides assigned
                  (configs.get (given.getD processConfig))
                  copy ∧
                (¬ Obscured copy
                    (selected declarations
                      arguments.names) →
                  ∃ verdict,
                    outcome = .ok verdict ∧
                      Settles copy arguments.names
                        declarations verdict) ∧
                  (Obscured copy
                      (selected declarations
                        arguments.names) →
                    outcome = .error .unwritableInteger)
  rejected :
    ((∃ option ∈ arguments.options, '=' ∉ option.toList) ∨
      ∃ failure,
        Declarations.ofSource read
            (.value (.text arguments.source)) =
          .error failure ∧
        failure.kind = .configuration) →
      ∃ failure verdict,
        Rejects read arguments failure ∧
          outcome = .ok verdict ∧
            verdict.status = 1 ∧
              verdict.Prints
                ["Unable to read " ++ arguments.source ++
                  ": " ++ failure.message]

/- A configuration in a pool is stored into in its place. -/
theorem store_of_assigns
    {options : List String}
    {assigned : List (String × String)}
    (hAssigns : List.Forall₂ Config.Assigns options assigned)
    (configs : Pool Config)
    (id : ConfigId) :
    store configs id options =
      (configs.set id
        ((configs.get id).merge (textValues assigned)),
        .ok ()) := by
  unfold store
  rw [Config.update_of_assigns hAssigns]

/- A check changes nothing but the copy that it makes. -/
theorem get_execute
    (read : Value → Except Failure (List UInt8))
    (configs : Pool Config)
    (given : Option ConfigId)
    (arguments : Arguments)
    {id : ConfigId}
    (hId : id ≠ configs.size) :
    (execute read configs given arguments).1.get id =
      configs.get id := by
  have hCopied :=
    configs.get_add_of_ne
      (configs.get (given.getD processConfig)) hId
  exact (Pool.get_set_of_ne _ _ hId).trans hCopied

/- A reason to reject is a reason for an unreadable source. -/
theorem judge_of_kind
    (conf : Config)
    {failure : Failure}
    (hKind : failure.kind = .configuration) :
    judge conf arguments (.error failure) =
      .ok ⟨[.unreadable arguments.source failure]⟩ := by
  unfold judge
  dsimp only
  rw [hKind]
  rfl

/- There is a reason where there is nothing to check. -/
theorem exists_rejects
    (h :
      (∃ option ∈ arguments.options, '=' ∉ option.toList) ∨
        ∃ failure,
          Declarations.ofSource read
              (.value (.text arguments.source)) =
            .error failure ∧
          failure.kind = .configuration) :
    ∃ failure, Rejects read arguments failure := by
  rcases Config.malformed_cases arguments.options with
    hOptions | ⟨before, option, after, hOptions, hBefore,
      hOption⟩
  · rcases h with ⟨option, hOption, hNot⟩ | h
    · exact absurd (hOptions option hOption) hNot
    · rcases h with ⟨failure, hDocument, hKind⟩
      exact ⟨failure, .document hOptions hDocument hKind⟩
  · exact ⟨_, .malformed hOptions hBefore hOption⟩

/-
  When options are stored, the verdict is that on what the
  source declares, with the copy that they are stored in.
-/
theorem outcome_of_assigned
    {assigned : List (String × String)}
    (hAssigns :
      List.Forall₂ Config.Assigns arguments.options assigned)
    (configs : Pool Config)
    (given : Option ConfigId) :
    (execute read configs given arguments).2 =
      judge
        ((configs.get (given.getD processConfig)).merge
          (textValues assigned))
        arguments
        (Declarations.ofSource read
          (.value (.text arguments.source))) := by
  unfold execute
  dsimp only
  rw [store_of_assigns hAssigns, Pool.get_add_self,
    Pool.get_set_self]
  rfl

/- What is rejected is reported, and nothing else is. -/
theorem outcome_of_rejects
    {failure : Failure}
    (h : Rejects read arguments failure)
    (configs : Pool Config)
    (given : Option ConfigId) :
    (execute read configs given arguments).2 =
      .ok ⟨[.unreadable arguments.source failure]⟩ := by
  cases h with
  | @malformed before after option hOptions hBefore hOption =>
      have hStored : ∀ (pool : Pool Config) (id : ConfigId),
          (store pool id arguments.options).2 =
            .error (.notKeyValue option) := by
        intro pool id
        rw [hOptions]
        exact Config.update_of_malformed hBefore hOption _
      unfold execute
      dsimp only
      rw [hStored]
      exact judge_of_kind _ rfl
  | document hOptions hDocument hKind =>
      rcases Config.exists_assigned hOptions with
        ⟨assigned, hAssigns⟩
      rw [outcome_of_assigned hAssigns, hDocument]
      exact judge_of_kind _ hKind

/- Declarations are examined with the copy that was made. -/
theorem outcome_of_assigns
    {assigned : List (String × String)}
    {declarations : Declarations}
    (hAssigns :
      List.Forall₂ Config.Assigns arguments.options assigned)
    (hDocument :
      Declarations.ofSource read
          (.value (.text arguments.source)) =
        .ok declarations)
    (configs : Pool Config)
    (given : Option ConfigId) :
    (execute read configs given arguments).2 =
      examine
        ((configs.get (given.getD processConfig)).merge
          (textValues assigned))
        arguments.names declarations := by
  rw [outcome_of_assigned hAssigns, hDocument]
  rfl

/- What a check answers with and leaves behind. -/
theorem judges_execute
    (read : Value → Except Failure (List UInt8))
    (configs : Pool Config)
    (given : Option ConfigId)
    (arguments : Arguments) :
    Judges read configs given arguments
      (execute read configs given arguments).1
      (execute read configs given arguments).2 := by
  constructor
  case unchanged =>
    intro id hId
    exact
      get_execute read configs given arguments
        (Nat.ne_of_lt hId)
  case settled =>
    intro declarations hOptions hDocument
    rcases Config.exists_assigned hOptions with
      ⟨assigned, hAssigns⟩
    have hTextual :=
      Declarations.textual_of_ofSource hDocument
    refine
      ⟨assigned, _, hAssigns,
        ⟨rfl, Config.value?_merge _ assigned⟩, ?_, ?_⟩
    · intro hClear
      rw [outcome_of_assigns hAssigns hDocument]
      exact settles_examine hTextual hClear
    · intro hObscured
      rw [outcome_of_assigns hAssigns hDocument]
      exact examine_of_obscured hTextual hObscured
  case rejected =>
    intro hReason
    rcases exists_rejects hReason with ⟨failure, hRejects⟩
    have hOutcome :=
      outcome_of_rejects hRejects configs given
    exact ⟨failure, _, hRejects, hOutcome, rfl, rfl⟩

/-
  A check of the sample, which declares one keyspace, has no
  verdict if the default port cannot be shown.
-/
theorem not_settles_obscured :
    let configs := Pool.empty.add Config.Sample.obscuring
    (∃ declarations,
        Declarations.ofSource Sample.read Sample.source =
          .ok declarations) ∧
      ∀ verdict,
        (execute Sample.read configs none
            ⟨Sample.document, [], []⟩).2 ≠ .ok verdict := by
  intro configs
  rcases Sample.exists_obscured with
    ⟨declarations, reference, hSource, hSelected, hObscured⟩
  have hTextual := Declarations.textual_of_ofSource hSource
  rw [select_eq_selected] at hSelected
  refine ⟨⟨declarations, hSource⟩, ?_⟩
  intro verdict hVerdict
  have hCopy : ∀ conf : Config,
      ((Pool.empty.add conf).get processConfig).merge
          (textValues []) =
        conf :=
    fun _ => rfl
  have hOutcome :=
    @outcome_of_assigns Sample.read
      ⟨Sample.document, [], []⟩ [] declarations .nil hSource
      configs none
  rw [hOutcome, Option.getD_none, hCopy,
    examine_of_obscured hTextual
      ⟨_, hSelected, hObscured⟩] at hVerdict
  cases hVerdict

namespace Sample

/-
  The status and the report of a check of a document with one
  resource, which does not tell the name of its keyspace.
-/
def ending (names : List String) : Option (Nat × String) :=
  let document :=
    "<Resource name='r' factory='" ++
      Importer.keyspaceFactoryPath ++
      "' hosts='a' clusterName='C'/>"
  let verdict :=
    run (fun path => .error (.fileNotFound path)) .empty
      ⟨document, names, ["k=v"]⟩
  verdict.toOption.map fun verdict =>
    (verdict.status, verdict.report)

end Sample

example :
    Sample.ending ["x", "r", "x"] =
      some
        (1,
          "x: no keyspace resource declared with this name" ++
            "\nr: The keyspace attribute of the resource" ++
              " is required\n") := by
  decide +kernel

end Check

end Keyspaces
