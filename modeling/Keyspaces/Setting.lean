import Keyspaces.Conversion

/-
  This file defines settings: configuration values of a
  domain with a default, and the values each domain accepts.

  Main definitions:
    * `Setting.Domain`
    * `Setting`
    * `Setting.Formatter`
    * `Setting.declare`
    * `Setting.format`
    * `Setting.coerce`
-/

namespace Keyspaces

open Number

namespace Setting

------------------------------------------------------------
-- Domains of Settings
------------------------------------------------------------

/-
  The domains that a setting can have. An integer setting has
  the number of bits its values fit in.
-/
inductive Domain
| plain
| text
| flag
| integer (bits : Nat)
| items
deriving DecidableEq, Repr

/- A function from given values to values of the setting. -/
abbrev Format :=
  Value → Except Failure Value

/-
  What a caller hands in as the format of a setting or of a
  single access: a function, or by mistake some value.
-/
inductive Formatter
| function (apply : Format)
| constant (value : Value)

/- The integer fits in a signed word. -/
def fits (bits : Nat) (n : Int) : Bool :=
  let bound := Int.ofNat (Nat.pow 2 (bits - 1))
  n < bound && -bound ≤ n

/-
  The integer that a value of an integer setting denotes: an
  integer, or a text of a sign and decimal digits.
-/
def integerOf : Value → Except Failure Int
| .int n => .ok n
| .text s =>
    match Integer.readStrict s with
    | .value n => .ok n
    | .malformed => .error .notInteger
    | .tooLong digits => .error (.tooManyDigits digits)
| _ => .error .notInteger

/- The integer denoted by a value, if it fits in the bits. -/
def integerOfBits
    (bits : Nat)
    (value : Value) : Except Failure Int := do
  let n ← integerOf value
  if fits bits n then
    .ok n
  else
    .error (.outOfRange bits)

namespace Domain

/- The value of a domain that a given value stands for. -/
def format (domain : Domain) : Format :=
  match domain with
  | .plain => fun value => .ok value
  | .text => fun value =>
      match value with
      | .text s => .ok (.text s)
      | _ => .error .notText
  | .flag => fun value => value.toFlag.map .bool
  | .integer bits => fun value =>
      (integerOfBits bits value).map .int
  | .items => fun value => value.toItems.map .list

end Domain

end Setting

------------------------------------------------------------
-- Settings
------------------------------------------------------------

/-
  A setting has a domain, a default, which is `null` unless
  it is declared with one, and possibly a format of its own in
  place of that of its domain.
-/
structure Setting where
  domain : Setting.Domain
  default : Value
  description : Option String
  ownFormat : Option Setting.Format

namespace Setting

/- The sentence that tells a value as the default. -/
def defaultSentence
    (value : Value) : Except Failure String :=
  value.written.map fun record =>
    " Defaults to " ++ record ++ "."

/-
  The account of the default at the end of a description. A
  default of several items cannot be written there, of which
  the first is written in vain, and one of a single item is
  written as that item.
-/
def defaultNote : Value → Except Failure String
| .tuple [item] => defaultSentence item
| .tuple [] => .error .defaultOfNoItems
| .tuple (item :: _) =>
    .error (.showing item .defaultOfManyItems)
| value => defaultSentence value

/-
  The description of a setting as declared: a description that
  is not empty tells the default, if one is given.
-/
def describe
    (default : Option Value)
    (description : Option String) :
    Except Failure (Option String) :=
  match default, description with
  | some value, some words =>
      if words.isEmpty then
        .ok (some words)
      else
        (defaultNote value).map fun note =>
          some (words ++ note)
  | _, _ => .ok description

/- The function in a formatter, which has to be one. -/
def functionOf :
    Option Formatter → Except Failure (Option Format)
| none => .ok none
| some (.function apply) => .ok (some apply)
| some (.constant _) => .error .formatNotCallable

/- Declare a setting. -/
def declare
    (domain : Domain)
    (default : Option Value)
    (formatter : Option Formatter)
    (description : Option String) :
    Except Failure Setting := do
  let description ← describe default description
  let ownFormat ← functionOf formatter
  .ok
    { domain := domain
      default := default.getD .null
      description := description
      ownFormat := ownFormat }

/- A setting of a domain with a default and nothing else. -/
def ofDomain
    (domain : Domain)
    (default : Value) : Setting :=
  { domain := domain
    default := default
    description := none
    ownFormat := none }

/- The value of the setting that a given value stands for. -/
def format (setting : Setting) : Format :=
  setting.ownFormat.getD setting.domain.format

/- The key named in a failure to coerce a value. -/
def keyName (key : String) : String :=
  if key.isEmpty then "setting" else key

/-
  Report a failure to convert a value under the name of its
  key, if the fault is in the value or in its type. The report
  shows the value.
-/
def nameFault
    (value : Value)
    (key : String)
    (fault : Failure) : Failure :=
  if fault.kind.isValue || fault.kind.isType then
    .showing value (.invalidValue value (keyName key) fault)
  else
    fault

/-
  Coerce a value to one of the setting. The failure to do so
  names the key, if the value can be shown.
-/
def coerce
    (setting : Setting)
    (value : Value)
    (key : String) : Except Failure Value :=
  (setting.format value).mapError (nameFault value key)

end Setting

end Keyspaces
