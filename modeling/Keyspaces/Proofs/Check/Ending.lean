import Keyspaces.Proofs.Check.Verdict
import Keyspaces.Proofs.Declarations.Source
import Keyspaces.Proofs.Xml.Declaration

/-
  How a check ends: with a status of zero or one, whatever the
  file with the declarations is, with two exceptions. When the
  reason that they cannot be read escapes, the check fails for
  this reason, and so it does when the default port that they
  ask for cannot be shown.

  Main declarations:
    * `Check.Answers`
    * `Check.Crashes`
    * `Check.Ends`
    * `Check.ends_execute`
    * `Check.crashes_of_declaration`
-/

------------------------------------------------------------
-- Checks That Fail
------------------------------------------------------------

namespace Keyspaces

namespace Check

open Environment

/- A check answers with a verdict, of status zero or one. -/
def Answers (outcome : Except Failure Verdict) : Prop :=
  ∃ verdict, outcome = .ok verdict ∧
    (verdict.status = 0 ∨ verdict.status = 1)

/-
  A check fails instead of answering: its options are all well
  formed, and its source is the path of a file of which the
  declarations cannot be read for a reason that escapes. Or
  the declarations are read, and something selected asks for a
  default port, which cannot be shown.
-/
inductive Crashes
    (tree : FileTree)
    (conf : Config)
    (arguments : Arguments) : Failure → Prop
| unread
    {failure : Failure}
    (hOptions :
      ∀ option ∈ arguments.options, '=' ∈ option.toList)
    (hPath : Declarations.isDocument arguments.source = false)
    (hEscapes :
      Declarations.Escapes tree arguments.source failure) :
    Crashes tree conf arguments failure
| obscured
    {assigned : List (String × String)}
    {declarations : Declarations}
    (hAssigns :
      List.Forall₂ Config.Assigns arguments.options assigned)
    (hSource :
      Declarations.ofSource tree.read
          (.value (.text arguments.source)) =
        .ok declarations)
    (hObscured :
      Obscured (conf.merge (textValues assigned))
        (selected declarations arguments.names)) :
    Crashes tree conf arguments .unwritableInteger

/-
  How a check ends. It answers unless it crashes. Whatever its
  source is, the declarations are read, or the reason is one
  that is reported, or it escapes. What is declared is refused
  as a fault in the configuration, unless the default port it
  asks for cannot be shown.
-/
structure Ends
    (tree : FileTree)
    (conf : Config)
    (arguments : Arguments)
    (outcome : Except Failure Verdict) : Prop where
  answers :
    Answers outcome ↔
      ∀ failure, ¬ Crashes tree conf arguments failure
  crashes :
    ∀ failure, outcome = .error failure ↔
      Crashes tree conf arguments failure
  reads :
    ∀ failure,
      Declarations.ofSource tree.read
          (.value (.text arguments.source)) =
        .error failure →
        failure.kind = .configuration ∨
          failure.kind.isSystem = true ∨
            Declarations.isDocument arguments.source =
                false ∧
              Declarations.Escapes tree arguments.source
                failure
  parses :
    ∀ declarations name reference settings,
      Declarations.ofSource tree.read
          (.value (.text arguments.source)) =
        .ok declarations →
        declarations.get? name = some reference →
          (¬ Resource.Obscured settings reference →
            ∀ failure,
              Resource.parse settings reference.toValue =
                  .error failure →
                failure.kind = .configuration) ∧
            (Resource.Obscured settings reference →
              Resource.parse settings reference.toValue =
                .error .unwritableInteger)

variable {tree : FileTree}
variable {arguments : Arguments}

/- A status is zero or one. -/
theorem Verdict.status_cases (verdict : Verdict) :
    verdict.status = 0 ∨ verdict.status = 1 :=
  (Decidable.em (verdict.status = 0)).imp id
    Verdict.status_eq_one

/-
  A failure to read is reported, or it is the reason that the
  check fails for.
-/
theorem answers_judge
    (conf : Config)
    {failure : Failure}
    (hKind :
      failure.kind = .configuration ∨
        failure.kind.isSystem = true) :
    Answers (judge conf arguments (.error failure)) := by
  have hReported :
      (failure.kind.isResource ||
        failure.kind.isSystem) = true := by
    rcases hKind with hKind | hSystem
    · rw [hKind]
      rfl
    · rw [hSystem, Bool.or_true]
  unfold judge
  dsimp only
  rw [if_pos hReported]
  exact ⟨_, rfl, Verdict.status_cases _⟩

theorem judge_of_escapes
    (conf : Config)
    {failure : Failure}
    (h :
      Declarations.Escapes tree arguments.source failure) :
    judge conf arguments (.error failure) =
      .error failure := by
  rcases h.unreported with ⟨hResource, hSystem⟩
  unfold judge
  dsimp only
  rw [hResource, hSystem]
  rfl

/- The configuration that options are added to in a copy. -/
def base
    (configs : Pool Config)
    (given : Option ConfigId) : Config :=
  configs.get (given.getD processConfig)

/- A check that crashes does so with this failure. -/
theorem outcome_of_crashes
    {configs : Pool Config}
    {given : Option ConfigId}
    {failure : Failure}
    (h :
      Crashes tree (base configs given) arguments failure) :
    (execute tree.read configs given arguments).2 =
      .error failure := by
  cases h with
  | unread hOptions hPath hEscapes =>
      rcases Config.exists_assigned hOptions with
        ⟨assigned, hAssigns⟩
      rw [outcome_of_assigned hAssigns,
        Declarations.ofSource_of_escapes hPath hEscapes]
      exact judge_of_escapes _ hEscapes
  | obscured hAssigns hSource hObscured =>
      rw [outcome_of_assigns hAssigns hSource]
      exact
        examine_of_obscured
          (Declarations.textual_of_ofSource hSource)
          hObscured

/- A check that does not crash answers. -/
theorem answers_or_crashes
    (tree : FileTree)
    (configs : Pool Config)
    (given : Option ConfigId)
    (arguments : Arguments) :
    Answers (execute tree.read configs given arguments).2 ∨
      ∃ failure,
        Crashes tree (base configs given) arguments
          failure := by
  rcases Config.malformed_cases arguments.options with
    hOptions | ⟨before, option, after, hOptions, hBefore,
      hOption⟩
  · rcases Config.exists_assigned hOptions with
      ⟨assigned, hAssigns⟩
    cases hDeclared :
        Declarations.ofSource tree.read
          (.value (.text arguments.source)) with
    | ok declarations =>
        by_cases hObscured :
            Obscured
              ((base configs given).merge
                (textValues assigned))
              (selected declarations arguments.names)
        · exact
            Or.inr
              ⟨_, .obscured hAssigns hDeclared hObscured⟩
        · rcases settles_examine
              (Declarations.textual_of_ofSource hDeclared)
              hObscured with
            ⟨verdict, hVerdict, _⟩
          rw [outcome_of_assigns hAssigns hDeclared]
          exact
            Or.inl ⟨verdict, hVerdict, verdict.status_cases⟩
    | error failure =>
        rw [outcome_of_assigned hAssigns, hDeclared]
        rcases Declarations.failure_of_ofSource hDeclared
          with hKind | hSystem | ⟨hPath, hEscapes⟩
        · exact Or.inl (answers_judge _ (Or.inl hKind))
        · exact Or.inl (answers_judge _ (Or.inr hSystem))
        · exact
            Or.inr
              ⟨failure, .unread hOptions hPath hEscapes⟩
  · have hRejects :
        Rejects tree.read arguments (.notKeyValue option) :=
      .malformed hOptions hBefore hOption
    have hOutcome :=
      outcome_of_rejects hRejects configs given
    exact Or.inl ⟨_, hOutcome, Verdict.status_cases _⟩

/- A check that crashes does not answer. -/
theorem not_answers_of_crashes
    {configs : Pool Config}
    {given : Option ConfigId}
    {failure : Failure}
    (h :
      Crashes tree (base configs given) arguments failure) :
    ¬ Answers
      (execute tree.read configs given arguments).2 := by
  rw [outcome_of_crashes h]
  rintro ⟨verdict, hVerdict, _⟩
  contradiction

/- Every check ends like this. -/
theorem ends_execute
    (tree : FileTree)
    (configs : Pool Config)
    (given : Option ConfigId)
    (arguments : Arguments) :
    Ends tree (base configs given) arguments
      (execute tree.read configs given arguments).2 where
  answers := by
    constructor
    · intro hAnswers failure hCrashes
      exact not_answers_of_crashes hCrashes hAnswers
    · intro hNever
      rcases answers_or_crashes tree configs given arguments
        with hAnswers | ⟨failure, hCrashes⟩
      · exact hAnswers
      · exact absurd hCrashes (hNever failure)
  crashes := by
    intro failure
    constructor
    · intro hFails
      rcases answers_or_crashes tree configs given arguments
        with ⟨verdict, hVerdict, _⟩ | ⟨found, hCrashes⟩
      · rw [hVerdict] at hFails
        contradiction
      · have hFound := outcome_of_crashes hCrashes
        rw [hFails] at hFound
        cases hFound
        exact hCrashes
    · exact outcome_of_crashes
  reads := fun failure => Declarations.failure_of_ofSource
  parses := by
    intro declarations name reference settings hSource
      hDeclared
    have hTextual :=
      Declarations.textual_of_ofSource hSource name reference
        hDeclared
    exact
      ⟨Resource.failsAs_ofReference hTextual,
        Resource.ofReference_of_obscured hTextual⟩

end Check

end Keyspaces

------------------------------------------------------------
-- An Encoding Without a Codec
------------------------------------------------------------

namespace Keyspaces

namespace Check

/-
  A check crashes if the file it reads starts with a plain
  declaration of an encoding whose codec fails, whatever comes
  after the declaration.
-/
theorem crashes_of_declaration
    {tree : FileTree}
    {arguments : Arguments}
    {name : String}
    {rest : List UInt8}
    {failure : Failure}
    (conf : Config)
    (hOptions :
      ∀ option ∈ arguments.options, '=' ∈ option.toList)
    (hPath : Declarations.isDocument arguments.source = false)
    (hRead :
      tree.read (.text arguments.source) =
        .ok
          (Text.Utf8.encode (Xml.Document.declaration name) ++
            rest))
    (hName : Xml.Version.IsEncodingName name.toList)
    (hFails : Xml.Codec.Fails name failure) :
    Crashes tree conf arguments failure := by
  have hNames :=
    Xml.Document.names_declaration hName rest
  exact
    .unread hOptions hPath
      (.encoding hRead ⟨name, hNames, hFails⟩)

namespace Sample

/- A file whose document names an encoding without a codec. -/
def tree : FileTree :=
  FileTree.empty.write "f.xml"
    (Text.Utf8.encode
      "<?xml version='1.0' encoding='foo'?><Context/>")

end Sample

/- The check of this file crashes. -/
theorem not_answers_sample :
    let outcome :=
      (execute Sample.tree.read (Pool.empty.add .empty) none
        ⟨"f.xml", [], []⟩).2
    outcome = .error (.unknownCodec "foo") ∧
      ¬ Answers outcome := by
  have hRead :
      Sample.tree.read (.text "f.xml") =
        .ok
          (Text.Utf8.encode (Xml.Document.declaration "foo") ++
            Text.Utf8.encode "<Context/>") :=
    rfl
  have hName : Xml.Version.IsEncodingName "foo".toList :=
    ⟨rfl, List.all_eq_true.mp rfl⟩
  have hFails : Xml.Codec.Fails "foo" (.unknownCodec "foo") :=
    ⟨rfl, rfl⟩
  have hCrashes :
      Crashes Sample.tree (base (Pool.empty.add .empty) none)
        ⟨"f.xml", [], []⟩ (.unknownCodec "foo") :=
    crashes_of_declaration _ (List.forall_mem_nil _) rfl
      hRead hName hFails
  exact
    ⟨outcome_of_crashes hCrashes,
      not_answers_of_crashes hCrashes⟩

end Check

end Keyspaces
