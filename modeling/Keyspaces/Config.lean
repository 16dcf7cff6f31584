import Keyspaces.Setting.Catalog

/-
  This file defines configurations: values by key, read
  through the settings that the keys name.

  Main definitions:
    * `Config`
    * `Config.Access`
    * `Config.get`
    * `Config.read`
    * `Config.set`
    * `Config.update`
    * `Config.written`
-/

namespace Keyspaces

/-
  A configuration is a table of values. Keys are texts, except
  for those that callers store under a key of another kind.
-/
structure Config where
  values : Table Value Value
deriving Inhabited, Repr

namespace Config

------------------------------------------------------------
-- Values
------------------------------------------------------------

/- The configuration without values. -/
def empty : Config :=
  ⟨Table.empty⟩

/- Entries under text keys, as entries of a table. -/
def textEntries
    (entries : List (String × Value)) : List (Value × Value) :=
  entries.map fun entry => (.text entry.1, entry.2)

/- The configuration with the given entries. -/
def ofList (entries : List (String × Value)) : Config :=
  ⟨Table.ofList (textEntries entries)⟩

/- Store entries under text keys in order. -/
def merge
    (conf : Config)
    (entries : List (String × Value)) : Config :=
  ⟨conf.values.merge (textEntries entries)⟩

/- The value stored under a key. -/
def value?
    (conf : Config)
    (key : String) : Option Value :=
  conf.values.get? (.text key)

/- Some value is stored under the key. -/
def isSet
    (conf : Config)
    (key : String) : Bool :=
  conf.values.contains (.text key)

/- Store a value under a text key. -/
def set
    (conf : Config)
    (key : String)
    (value : Value) : Config :=
  ⟨conf.values.insert (.text key) value⟩

/- The values as one value. -/
def toValue (conf : Config) : Value :=
  .dict conf.values.entries

/- The diagnostic record of a configuration, if it has one. -/
def written (conf : Config) : Except Failure String :=
  conf.toValue.written.map fun record =>
    "<Conf " ++ record ++ ">"

------------------------------------------------------------
-- Reading
------------------------------------------------------------

/-
  How a value is to be read: the format given for this access
  and the default given for it, if any.
-/
structure Access where
  formatter : Option Setting.Formatter
  default : Option Value

namespace Access

/- Reading with neither a format nor a default. -/
def simple : Access :=
  ⟨none, none⟩

/- Reading with a format and possibly a default. -/
def formatted
    (apply : Setting.Format)
    (default : Option Value) : Access :=
  ⟨some (.function apply), default⟩

end Access

/-
  Report a failure to format a value under the name of its
  key, if the fault is in the value.
-/
def nameFault
    (value : Value)
    (key : String)
    (fault : Failure) : Failure :=
  if fault.kind.isValue then
    .showing value (.invalidValue value key fault)
  else
    fault

/- Format a value that is set. -/
def format
    (formatter : Setting.Formatter)
    (value : Value)
    (key : String) : Except Failure Value :=
  match formatter with
  | .function apply =>
      (apply value).mapError (nameFault value key)
  | .constant other => .error (.notCallable other.kindName)

/-
  Read the value under a key that names the given setting. A
  value that is set goes through the format of the access, or
  else through the setting. A value that is not set is the
  default of the access, or else that of the setting.
-/
def resolve
    (conf : Config)
    (setting : Option Setting)
    (key : String)
    (access : Access) : Except Failure Value :=
  match conf.value? key with
  | none =>
      .ok (match access.default, setting with
        | some value, _ => value
        | none, some setting => setting.default
        | none, none => .null)
  | some value =>
      match access.formatter, setting with
      | some formatter, _ => format formatter value key
      | none, some setting => setting.coerce value key
      | none, none => .ok value

/- Read the value under a key. -/
def get
    (conf : Config)
    (catalog : Setting.Catalog)
    (key : String)
    (access : Access) : Except Failure Value := do
  let setting ← catalog.find key
  conf.resolve setting key access

/- Read the value of a setting. -/
def read
    (conf : Config)
    (named : Setting.Named) : Except Failure Value :=
  conf.resolve (some named.setting) named.key .simple

/- The format of values that are to be integers. -/
def integerFormat : Setting.Format :=
  fun value => value.toInteger.map .int

/- The format of values that are to be truth values. -/
def flagFormat : Setting.Format :=
  fun value => value.toFlag.map .bool

/- The format of values that are to be texts. -/
def textFormat : Setting.Format :=
  fun value => value.toText.map .text

------------------------------------------------------------
-- Updating
------------------------------------------------------------

/-
  Store a value under a key of any kind that can be the key of
  a table.
-/
def setValue
    (conf : Config)
    (key value : Value) : Except Failure Config :=
  match key.unhashable? with
  | some kindName => .error (.unhashable kindName)
  | none => .ok ⟨conf.values.insert key value⟩

/-
  Divide an option at its first equality sign and trim both
  sides.
-/
def trimmedOption?
    (option : String) : Option (String × String) :=
  (Text.cut? '=' option.toList).map fun (key, value) =>
    (String.ofList (Text.trimChars key),
      String.ofList (Text.trimChars value))

/-
  Apply one argument of an update: a pair of a key and a
  value, or a text that joins them with an equality sign.
-/
def apply
    (conf : Config)
    (argument : Value) : Except Failure Config :=
  match argument with
  | .tuple [key, value] => conf.setValue key value
  | .tuple _ => .error (.showing argument (.notPair argument))
  | .text option =>
      match trimmedOption? option with
      | some (key, value) => .ok (conf.set key (.text value))
      | none => .error (.notKeyValue option)
  | _ => .error (.showing argument (.notAnUpdate argument))

/-
  Apply arguments in order up to the first that fails. What
  was stored before it stays.
-/
def applyAll
    (conf : Config) :
    List Value → Config × Except Failure Unit
| [] => (conf, .ok ())
| argument :: arguments =>
    match conf.apply argument with
    | .ok next => next.applyAll arguments
    | .error failure => (conf, .error failure)

/-
  Apply arguments in order, and if none fails store further
  entries.
-/
def update
    (conf : Config)
    (arguments : List Value)
    (entries : List (String × Value)) :
    Config × Except Failure Unit :=
  match conf.applyAll arguments with
  | (next, .ok ()) => (next.merge entries, .ok ())
  | (next, .error failure) => (next, .error failure)

end Config

end Keyspaces
