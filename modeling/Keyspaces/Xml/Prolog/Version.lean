import Keyspaces.Xml.Symbol

/-
  This file defines the declaration that a document can start
  with: its version, its encoding and whether it stands alone.

  Main definitions:
    * `Xml.Setting`
    * `Xml.Version`
    * `Xml.Version.read`
-/

namespace Keyspaces

open Text

namespace Xml

namespace Version

------------------------------------------------------------
-- Settings
------------------------------------------------------------

/-
  A setting of the declaration with the places of its name
  and of its value.
-/
structure Setting where
  name : List Char
  namePosition : Nat
  value : List Char
  valuePosition : Nat
deriving DecidableEq, Repr

/- The next symbol as an ASCII character. -/
def ascii? (cursor : Cursor) : Option Char :=
  match cursor.rest with
  | .char c _ _ :: _ => if c.toNat < 0x80 then some c else none
  | _ => none

/- The symbol can stand in the name of a setting. -/
def isNameSymbol : Symbol → Bool
| .char c _ _ => c.toNat < 0x80 && c != '=' && !isSpace c
| _ => false

/- The symbol can stand in the value of a setting. -/
def isValueSymbol : Symbol → Bool
| .char c _ _ =>
    c.isAlphanum || c = '.' || c = '-' || c = '_'
| _ => false

/-
  Read a setting with the space before it. There need not be
  one at the end. A failure is the place that does not fit.
-/
def setting
    (cursor : Cursor) :
    Except Nat (Option (Setting × Cursor)) :=
  let first := cursor.skipWhile Symbol.isSpace
  if cursor.rest.isEmpty then
    .ok none
  else if first.position = cursor.position then
    .error cursor.position
  else if first.rest.isEmpty then
    .ok none
  else
    let (name, after) := first.span isNameSymbol
    let sign := after.skipWhile Symbol.isSpace
    if ascii? sign != some '=' || name.isEmpty then
      .error sign.position
    else
      let opening := sign.next.skipWhile Symbol.isSpace
      let quote := ascii? opening
      if quote != some '\x22' && quote != some '\x27' then
        .error opening.position
      else
        let (value, closing) :=
          opening.next.span isValueSymbol
        if ascii? closing = quote then
          .ok (some
            ({ name := charsOf name
               namePosition := first.position
               value := charsOf value
               valuePosition := opening.position + 1 },
              closing.next))
        else
          .error closing.position

end Version

------------------------------------------------------------
-- Declarations
------------------------------------------------------------

/-
  What the declaration says: the encoding with the place of
  its name, and whether the document stands alone.
-/
structure Version where
  encoding : Option (String × Nat)
  standalone : Bool
deriving DecidableEq, Repr

namespace Version

/- Read whether the document stands alone. -/
def readStandalone
    (encoding : Option (String × Nat))
    (entry : Setting)
    (after : Cursor) : Except Nat Version :=
  if entry.name != "standalone".toList then
    .error entry.namePosition
  else
    let last := after.skipWhile Symbol.isSpace
    if entry.value = "yes".toList ||
        entry.value = "no".toList then
      if last.rest.isEmpty then
        .ok ⟨encoding, entry.value == "yes".toList⟩
      else
        .error last.position
    else
      .error entry.valuePosition

/- Read the settings that can follow the version. -/
def readRest
    (entry : Setting)
    (after : Cursor) : Except Nat Version := do
  if entry.name = "encoding".toList then
    if (entry.value.head?.map Char.isAlpha).getD false then
      let encoding :=
        some (String.ofList entry.value, entry.valuePosition)
      match ← setting after with
      | none => .ok ⟨encoding, false⟩
      | some (entry, after) =>
          readStandalone encoding entry after
    else
      .error entry.valuePosition
  else
    readStandalone none entry after

/-
  Read the declaration from the symbols inside of it. A
  failure is the place that does not fit.
-/
def read (cursor : Cursor) : Except Nat Version := do
  match ← setting cursor with
  | none => .error cursor.position
  | some (entry, after) =>
      if entry.name != "version".toList then
        .error entry.namePosition
      else
        match ← setting after with
        | none => .ok ⟨none, false⟩
        | some (entry, after) => readRest entry after

end Version

end Xml

end Keyspaces
