import Keyspaces.Config.Ini

/-
  This file defines how references inside the value of an
  option are replaced by the values of other options.

  Main definitions:
    * `Ini.lookup?`
    * `Ini.expand`
    * `Ini.value`
    * `Ini.settings`
-/

namespace Keyspaces

open Text

namespace Ini

------------------------------------------------------------
-- Replacing References
------------------------------------------------------------

/- The option that a value belongs to, for messages. -/
structure Owner where
  header : String
  option : String
  raw : String
deriving DecidableEq, Repr

/-
  Read a reference after its opening parenthesis: a name up
  to the closing one, and the letter that ends it.
-/
def reference?
    (cs : List Char) : Option (List Char × List Char) :=
  match cut? ')' cs with
  | some (name, 's' :: rest) =>
      if name.isEmpty then none else some (name, rest)
  | _ => none

/-
  Replace the references in a text, where `known` gives the
  values of options and `nested` replaces the references in
  such a value. `fuel` bounds the length of the text.
-/
def expandText
    (owner : Owner)
    (known : String → Option (List Char))
    (nested :
      List Char → Except Failure.InterpolationFault (List Char)) :
    (fuel : Nat) → List Char →
    Except Failure.InterpolationFault (List Char)
| 0, _ => .ok []
| _, [] => .ok []
| fuel + 1, '%' :: '%' :: rest => do
    let tail ← expandText owner known nested fuel rest
    .ok ('%' :: tail)
| fuel + 1, '%' :: '(' :: rest =>
    match reference? rest with
    | none =>
        .error (.unclosed (String.ofList ('%' :: '(' :: rest)))
    | some (name, after) => do
        let key := String.ofList (lowerChars name)
        match known key with
        | none =>
            .error (.missing owner.option owner.header key
              owner.raw)
        | some value =>
            let head ←
              if value.contains '%' then nested value
              else .ok value
            let tail ←
              expandText owner known nested fuel after
            .ok (head ++ tail)
| fuel + 1, c :: rest =>
    if c = '%' then
      .error (.stray (String.ofList (c :: rest)))
    else do
      let tail ← expandText owner known nested fuel rest
      .ok (c :: tail)

/-
  Replace references through at most `depth` levels of values
  that hold references themselves.
-/
def expand
    (owner : Owner)
    (known : String → Option (List Char)) :
    (depth : Nat) → List Char →
    Except Failure.InterpolationFault (List Char)
| 0, _ =>
    .error (.tooDeep owner.option owner.header owner.raw)
| depth + 1, cs =>
    expandText owner known (expand owner known depth)
      cs.length cs

/- The number of levels that are replaced. -/
def maxDepth : Nat := 10

------------------------------------------------------------
-- Values of Options
------------------------------------------------------------

/- The raw value of an option as a section sees it. -/
def lookup?
    (ini : Ini)
    (options : Options)
    (name : String) : Option (List Char) :=
  match options.get? name with
  | some lines => some (valueOf lines)
  | none => (ini.defaults.get? name).map valueOf

/- The value of an option with its references replaced. -/
def value
    (ini : Ini)
    (header : String)
    (options : Options)
    (name : String) : Except Failure String :=
  match ini.lookup? options name with
  | none => .ok ""
  | some raw =>
      match expand ⟨header, name, String.ofList raw⟩
          (ini.lookup? options) maxDepth raw with
      | .ok cs => .ok (String.ofList cs)
      | .error fault => .error (.interpolation fault)

/-
  The options that a section has: its own, and the defaults
  that it does not set.
-/
def optionNames
    (ini : Ini)
    (options : Options) : List String :=
  options.keys ++
    ini.defaults.keys.filter fun name =>
      !options.contains name

/- The options of a section under keys that start with it. -/
def sectionSettings
    (ini : Ini)
    (header : String)
    (options : Options) :
    List String → Except Failure (List (String × String))
| [] => .ok []
| name :: names => do
    let value ← ini.value header options name
    let rest ← ini.sectionSettings header options names
    .ok ((header ++ "." ++ name, value) :: rest)

/- The options of all given sections in order. -/
def settingsOf
    (ini : Ini) :
    List (String × Options) →
    Except Failure (List (String × String))
| [] => .ok []
| (header, options) :: sections => do
    let first ←
      ini.sectionSettings header options
        (ini.optionNames options)
    let rest ← ini.settingsOf sections
    .ok (first ++ rest)

/-
  What files define: for each option of each section, the
  key made of both names and the value.
-/
def settings
    (ini : Ini) : Except Failure (List (String × String)) :=
  ini.settingsOf ini.sections.entries

end Ini

end Keyspaces
