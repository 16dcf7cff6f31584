import Keyspaces.Check
import Keyspaces.Config.Environment

/-
  This file defines the command that checks declarations. It
  reads the files and the variable that the check depends on,
  prints the report and exits with the status of the verdict.

  Main definitions:
    * `Command.readFile`
    * `Command.readEnvironment`
    * `main`
-/

namespace Keyspaces

namespace Command

/- How the command is used. -/
def usage : String :=
  "usage: cassres-check [-h] [--conf [CONF ...]]" ++
    " context [names ...]"

/- The failure to read the file with a path. -/
def failureOf
    (path : String) : IO.Error → Failure
| .noFileOrDirectory .. => .fileNotFound (.text path)
| .inappropriateType _ 20 _ => .notDirectory (.text path)
| .inappropriateType .. => .isDirectory (.text path)
| error => .reported .system (toString error)

/- The bytes of the file with a path. -/
def readFile
    (path : String) :
    IO (Except Failure (List UInt8)) := do
  if path.contains '\x00' then
    pure (.error .nullInPath)
  else
    match ← (IO.FS.readBinFile path).toBaseIO with
    | .ok content => pure (.ok content.toList)
    | .error error => pure (.error (failureOf path error))

/- The source of declarations, unless it is a document. -/
def readSource
    (source : String) :
    IO (Except Failure (List UInt8)) :=
  if Declarations.isDocument source then
    pure (.ok [])
  else
    readFile source

/- The name of the variable with options. -/
def variableName : String := "CASSRES_CONF"

/- Add a file to a tree if it can be read. -/
def addFile
    (tree : FileTree)
    (known path : String) : IO FileTree := do
  match ← readFile path with
  | .ok content => pure (tree.write known content)
  | .error _ => pure tree

/- The configuration files and the variable with options. -/
def readEnvironment : IO Environment := do
  let home := (← IO.getEnv "HOME").getD "."
  let optionLine ← IO.getEnv variableName
  let bare : Environment := ⟨.empty, "~", optionLine⟩
  let actual : Environment := { bare with home := home }
  let tree ← (bare.paths.zip actual.paths).foldlM
    (fun tree (known, path) => addFile tree known path)
    FileTree.empty
  pure { bare with files := tree }

/- Print a failure that no report accounts for. -/
def abort (failure : Failure) : IO UInt32 := do
  IO.eprintln failure.message
  pure 1

/- Check declarations and print the report. -/
def check (arguments : Check.Arguments) : IO UInt32 := do
  let environment ← readEnvironment
  let content ← readSource arguments.source
  match (Config.ofProcess none environment).2 with
  | .error failure => abort failure
  | .ok conf =>
      match Check.run (fun _ => content) conf arguments with
      | .error failure => abort failure
      | .ok verdict => do
          IO.print verdict.report
          pure verdict.status.toUInt32

end Command

end Keyspaces

open Keyspaces in
/- Run the command. -/
def main (arguments : List String) : IO UInt32 := do
  match Check.Arguments.parse arguments with
  | .ok arguments => Command.check arguments
  | .error exit => do
      IO.println Command.usage
      pure exit.status.toUInt32
