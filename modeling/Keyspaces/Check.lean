import Keyspaces.Check.Arguments
import Keyspaces.Declarations
import Keyspaces.Importable.Catalog
import Keyspaces.Pool
import Keyspaces.Resource

/-
  This file defines the check of declared keyspaces: each is
  read without connecting to its cluster, and what was found
  is reported with a verdict.

  Main definitions:
    * `Check.Finding`
    * `Check.inspect`
    * `Check.Verdict`
    * `Check.execute`
    * `Check.run`
-/

namespace Keyspaces

namespace Check

------------------------------------------------------------
-- Findings
------------------------------------------------------------

/- What a check finds. -/
inductive Finding
| unreadable (source : String) (failure : Failure)
| undeclared (name : String)
| invalid (name : String) (failure : Failure)
| keyspace (name : String) (resource : Resource)

namespace Finding

/- A finding is good. -/
def isGood : Finding → Bool
| .keyspace .. => true
| _ => false

/- The lines that report a finding. -/
def lines : Finding → List String
| .unreadable source failure =>
    ["Unable to read " ++ source ++ ": " ++ failure.message]
| .undeclared name =>
    [name ++ ": no keyspace resource declared with this name"]
| .invalid name failure => [name ++ ": " ++ failure.message]
| .keyspace name resource =>
    [name ++ ": keyspace " ++ resource.keyspaceName ++
      " on cluster " ++ resource.clusterName,
     "    " ++ resource.configurator.record]

end Finding

------------------------------------------------------------
-- Resources
------------------------------------------------------------

/- The entries declared with the factory of keyspaces. -/
def keyspaces
    (declarations : Declarations) :
    List (String × Reference) :=
  declarations.entries.filter fun entry =>
    entry.2.factory == some Importer.keyspaceFactoryPath

/- The entries with given names, all if none is given. -/
def select
    (names : List String)
    (entries : List (String × Reference)) :
    List (String × Reference) :=
  entries.filter fun entry =>
    names.isEmpty || names.contains entry.1

/- The given names that no entry has, sorted and distinct. -/
def undeclared
    (names : List String)
    (entries : List (String × Reference)) : List String :=
  (names.eraseDups.filter fun name =>
    !(entries.map Prod.fst).contains name).mergeSort
    fun a b => a ≤ b

/- What is found of one declared keyspace. -/
def inspect
    (conf : Config)
    (entry : String × Reference) : Except Failure Finding :=
  match Resource.ofReference conf entry.2 with
  | .ok resource => .ok (.keyspace entry.1 resource)
  | .error failure =>
      if failure.kind.isResource then
        .ok (.invalid entry.1 failure)
      else
        .error failure

/- What is found of declared keyspaces in order. -/
def inspectAll
    (conf : Config) :
    List (String × Reference) → Except Failure (List Finding)
| [] => .ok []
| entry :: entries => do
    let finding ← inspect conf entry
    let findings ← inspectAll conf entries
    .ok (finding :: findings)

------------------------------------------------------------
-- Verdicts
------------------------------------------------------------

/- All findings of a check. -/
structure Verdict where
  findings : List Finding

namespace Verdict

/- The check found nothing wrong. -/
def isGood (verdict : Verdict) : Bool :=
  verdict.findings.all Finding.isGood

/- The status that the check exits with. -/
def status (verdict : Verdict) : Nat :=
  if verdict.isGood then 0 else 1

/- The report of all findings. -/
def report (verdict : Verdict) : String :=
  String.join ((verdict.findings.flatMap Finding.lines).map
    fun line => line ++ "\n")

end Verdict

------------------------------------------------------------
-- Checks
------------------------------------------------------------

/- Configurations are numbered, that of the process first. -/
abbrev ConfigId := Nat

/- The configuration of the process. -/
def processConfig : ConfigId := 0

/-
  Store options in a configuration, in order and up to the
  first that is malformed.
-/
def store
    (configs : Pool Config)
    (id : ConfigId)
    (options : List String) :
    Pool Config × Except Failure Unit :=
  let (next, result) :=
    (configs.get id).update (options.map .text) []
  (configs.set id next, result)

/- All that is found of declarations. -/
def examine
    (conf : Config)
    (names : List String)
    (declarations : Declarations) :
    Except Failure Verdict := do
  let entries := select names (keyspaces declarations)
  let findings ← inspectAll conf entries
  .ok ⟨(undeclared names entries).map .undeclared ++ findings⟩

/-
  The verdict on declarations. If there are none to examine,
  the reason for this is all that is found.
-/
def judge
    (conf : Config)
    (arguments : Arguments)
    (declared : Except Failure Declarations) :
    Except Failure Verdict :=
  match declared with
  | .ok declarations =>
      examine conf arguments.names declarations
  | .error failure =>
      if failure.kind.isResource || failure.kind.isSystem then
        .ok ⟨[.unreadable arguments.source failure]⟩
      else
        .error failure

/-
  Check declarations with a configuration, that of the process
  if none is given. Options are stored in a copy of it, which
  is made for this check only.
-/
def execute
    (read : Value → Except Failure (List UInt8))
    (configs : Pool Config)
    (given : Option ConfigId)
    (arguments : Arguments) :
    Pool Config × Except Failure Verdict :=
  let copy := configs.size
  let copied :=
    configs.add (configs.get (given.getD processConfig))
  let (stored, result) := store copied copy arguments.options
  let declared := do
    result
    Declarations.ofSource read
      (.value (.text arguments.source))
  (stored, judge (stored.get copy) arguments declared)

/- Check declarations with the configuration of a process. -/
def run
    (read : Value → Except Failure (List UInt8))
    (conf : Config)
    (arguments : Arguments) : Except Failure Verdict :=
  (execute read (Pool.empty.add conf) none arguments).2

end Check

end Keyspaces
