import Keyspaces.Config
import Keyspaces.Config.Interpolation
import Keyspaces.Config.ShellWords

/-
  This file defines the configuration of a process: layers of
  values from files in the home and working directory, from an
  environment variable and from the caller, each of which
  overrides those before it.

  Main definitions:
    * `Environment`
    * `Environment.paths`
    * `Environment.option`
    * `Environment.load`
    * `Config.create`
    * `Config.ofProcess`
-/

namespace Keyspaces

open Text

/-
  What a process finds around it: files, the path of the home
  directory, and the variable with options.
-/
structure Environment where
  files : FileTree
  home : String
  optionLine : Option String
deriving Inhabited, Repr

namespace Environment

/- The configuration files, least important first. -/
def paths (environment : Environment) : List String :=
  [environment.home, "."].flatMap fun directory =>
    [directory ++ "/.cassres.ini", directory ++ "/cassres.ini"]

/- Entries with a text as their value. -/
def textValues
    (entries : List (String × String)) :
    List (String × Value) :=
  entries.map fun entry => (entry.1, .text entry.2)

/- The values that the files define. -/
def fileSettings
    (environment : Environment) :
    Except Failure (List (String × Value)) := do
  let ini ← Ini.empty.readFiles environment.files environment.paths
  let entries ← ini.settings
  .ok (textValues entries)

/-
  Divide an option of the variable at its first equality sign.
-/
def option
    (token : String) : Except Failure (String × String) :=
  match cut? '=' token.toList with
  | some (key, value) =>
      .ok (String.ofList key, String.ofList value)
  | none => .error (.environmentOption token)

/- Divide options in order. -/
def options :
    List String → Except Failure (List (String × String))
| [] => .ok []
| token :: tokens => do
    let first ← option token
    let rest ← options tokens
    .ok (first :: rest)

/- The values that the variable defines. -/
def variableSettings
    (environment : Environment) :
    Except Failure (List (String × Value)) := do
  let tokens ←
    ShellWords.split (environment.optionLine.getD "")
  let entries ← options tokens
  .ok (textValues entries)

/- The configuration of the files and the variable. -/
def load
    (environment : Environment) : Except Failure Config := do
  let fromFiles ← environment.fileSettings
  let fromVariable ← environment.variableSettings
  .ok ((Config.ofList fromFiles).merge fromVariable)

end Environment

namespace Config

/-
  The configuration with the given values, and the named ones
  on top, over the values of an environment if there is one to
  be read.
-/
def create
    (environment : Option Environment)
    (values named : List (String × Value)) :
    Except Failure Config := do
  let base ←
    match environment with
    | some environment => environment.load
    | none => .ok Config.empty
  .ok ((base.merge values).merge named)

/-
  Ask for the configuration of the process. It is made when it
  is asked for the first time and then kept, unless it cannot
  be made.
-/
def ofProcess
    (known : Option Config)
    (environment : Environment) :
    Option Config × Except Failure Config :=
  match known with
  | some conf => (some conf, .ok conf)
  | none =>
      let made := create (some environment) [] []
      (made.toOption, made)

end Config

end Keyspaces
