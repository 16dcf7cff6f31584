import Keyspaces.Failure
import Keyspaces.Text.Split

/-
  This file defines the conversions of values: to integers,
  to truth values, to texts and to lists.

  Main definitions:
    * `Value.toInteger`
    * `Value.toFlag`
    * `Value.written`
    * `Value.toText`
    * `Value.toItems`
-/

namespace Keyspaces

namespace Value

open Number

/-
  The outcome of reading a text as an integer. The record of
  the text is part of the failure.
-/
def ofReading
    (record : String) :
    Integer.Reading → Except Failure Int
| .value n => .ok n
| .malformed => .error (.integerLiteral record)
| .tooLong digits => .error (.tooManyDigits digits)

/-
  The integer that a value denotes: a number without its
  fraction, a truth value as zero or one, and the integer
  that a text or byte string spells.
-/
def toInteger (value : Value) : Except Failure Int :=
  match value with
  | .bool b => .ok (boolInt b)
  | .int n => .ok n
  | .float x =>
      match x.truncate? with
      | some n => .ok n
      | none =>
          if x.isNotANumber then
            .error .integerOfNotANumber
          else
            .error .integerOfInfinity
  | .text s =>
      ofReading value.record (Integer.readLiberal s)
  | .bytes content =>
      ofReading value.record (Integer.readBytes content)
  | _ => .error (.noIntegerOfKind value.kindName)

/-
  The truth value that a value denotes: itself, or one of the
  words `true` and `false`.
-/
def toFlag : Value → Except Failure Bool
| .bool b => .ok b
| .text s =>
    if s = "true" then .ok true
    else if s = "false" then .ok false
    else .error .notTruthValue
| _ => .error .notTruthValue

/- The record of a value, if it has one. -/
def written (value : Value) : Except Failure String :=
  Failure.writing value.isWritable value.record

/- The text that a value is converted to. -/
def toText (value : Value) : Except Failure String :=
  Failure.writing value.isWritable value.plain

/- The parts of a text between commas, trimmed. -/
def commaSeparated (s : String) : List Value :=
  (Text.pieces ',' s.toList).map fun part =>
    .text (String.ofList (Text.trimChars part))

/-
  The items of a value: what a collection holds, or the parts
  of a text between commas.
-/
def toItems : Value → Except Failure (List Value)
| .list items => .ok items
| .tuple items => .ok items
| .bytes content =>
    .ok (content.map fun byte => .int byte.toNat)
| .dict entries => .ok (entries.map Prod.fst)
| .reference _ _ attributes =>
    .ok (attributes.map fun (name, content) =>
      .attribute name content)
| .text s => .ok (commaSeparated s)
| _ => .error .notText

end Value

end Keyspaces
