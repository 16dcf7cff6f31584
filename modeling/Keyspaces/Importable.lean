import Keyspaces.DottedPath

/-
  This file defines what dotted paths find: the members of
  modules, where they are defined and what is made of them
  when they are used as a factory.

  Main definitions:
    * `Importable`
    * `Importable.Usage`
    * `Importer`
    * `Importer.find`
-/

namespace Keyspaces

namespace Importable

------------------------------------------------------------
-- Usage
------------------------------------------------------------

/- The named arguments that a callable takes. -/
inductive Accepted
| all
| only (names : List String)
| none
deriving DecidableEq, Repr

/-
  How a callable is called, as far as the names of arguments
  are concerned: those that it takes and those it requires.
-/
structure Signature where
  callee : String
  accepted : Accepted
  required : List String
deriving DecidableEq, Repr

namespace Signature

/- The failure of a call with named arguments, if it fails. -/
def failure?
    (signature : Signature)
    (names : List String) : Option Failure :=
  let missing :=
    signature.required.filter fun name => !names.contains name
  let incomplete :=
    if missing.isEmpty then none
    else some (.missingArguments signature.callee missing)
  match signature.accepted with
  | .all => incomplete
  | .only accepted =>
      match names.find? fun name => !accepted.contains name with
      | some name =>
          some (.unexpectedArgument signature.callee name)
      | none => incomplete
  | .none =>
      if names.isEmpty then incomplete
      else some (.noNamedArguments signature.callee)

end Signature

/-
  What a member makes when it is used as a factory: a factory
  of keyspaces; a recorder, which answers with an account of
  each call but for those that are to fail; nothing, as it
  fails; an object that resolves nothing; or nothing, as it
  cannot be called.
-/
inductive Usage
| keyspaces
| recorder (faults : List (Nat × Failure))
| broken (failure : Failure)
| object (kindName : String) (signature : Signature)
| constant (kindName : String)
deriving Repr

end Importable

/- A member of a module, and where it is defined. -/
structure Importable where
  module : String
  name : String
  usage : Importable.Usage
deriving Repr

------------------------------------------------------------
-- Importers
------------------------------------------------------------

/- The members of modules by the paths of these. -/
structure Importer where
  modules : List (String × List (String × Importable))
deriving Repr

namespace Importer

/- Add modules to those that can be imported. -/
def extend
    (importer : Importer)
    (modules : List (String × List (String × Importable))) :
    Importer :=
  ⟨importer.modules ++ modules⟩

/- Find the member that a dotted path names. -/
def find
    (importer : Importer)
    (path : String) : Except Failure Importable :=
  match DottedPath.divide? path with
  | none | some ("", _) => .error (.factoryNotDotted path)
  | some (module, name) => do
      DottedPath.checkModule module
      match importer.modules.lookup module with
      | none => .error (.factoryModule path)
      | some members =>
          match members.lookup name with
          | none => .error (.factoryMember name module)
          | some member => .ok member

end Importer

end Keyspaces
