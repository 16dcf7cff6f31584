import Keyspaces.Failure
import Keyspaces.Text.Split

/-
  This file defines dotted paths, which name a member of a
  module: the part after the last point is the name of the
  member, all before it the path of the module.

  Main definitions:
    * `DottedPath.divide?`
    * `DottedPath.checkModule`
-/

namespace Keyspaces

namespace DottedPath

/- The path of the module and the name of the member. -/
def divide? (path : String) : Option (String × String) :=
  (Text.cutLast? '.' path.toList).map fun halves =>
    (String.ofList halves.1, String.ofList halves.2)

/-
  Whether the path of a module can be searched for. It may be
  neither empty nor relative.
-/
def checkModule (module : String) : Except Failure Unit :=
  match module.toList with
  | [] => .error .emptyModuleName
  | '.' :: _ => .error (.relativeModule module)
  | _ => .ok ()

end DottedPath

end Keyspaces
