import Keyspaces.Number.Double.Shortest
import Keyspaces.Number.Integer
import Keyspaces.Text.Quoted

/-
  This file defines the values that configurations, references
  and calls carry, and what holds of them regardless of their
  kind.

  Main definitions:
    * `Value`
    * `Value.kindName`
    * `Value.isTruthy`
    * `Value.isWritable`
    * `Value.record`
    * `Value.plain`
    * `Value.equal`
    * `Value.unhashable?`
-/

namespace Keyspaces

open Number Text

------------------------------------------------------------
-- Values
------------------------------------------------------------

/-
  A value of any kind. Only texts come from declarations and
  configuration files; callers hand in the other kinds.
-/
inductive Value
| null
| bool (b : Bool)
| int (n : Int)
| float (x : Double)
| text (s : String)
| bytes (content : List UInt8)
| list (items : List Value)
| tuple (items : List Value)
| dict (entries : List (Value × Value))
| reference
    (className factory : Option String)
    (attributes : List (String × Value))
| attribute (name : String) (content : Value)
deriving Repr, Inhabited

namespace Value

/- The name of the kind of a value. -/
def kindName : Value → String
| .null => "NoneType"
| .bool _ => "bool"
| .int _ => "int"
| .float _ => "float"
| .text _ => "str"
| .bytes _ => "bytes"
| .list _ => "list"
| .tuple _ => "tuple"
| .dict _ => "dict"
| .reference .. => "Reference"
| .attribute .. => "RefAddr"

/-
  Empty values, zeros and `null` do not count as true. A
  reference without attributes is empty.
-/
def isTruthy : Value → Bool
| .null => false
| .bool b => b
| .int n => n != 0
| .float x => !x.isZero
| .text s => !s.isEmpty
| .bytes content => !content.isEmpty
| .list items => !items.isEmpty
| .tuple items => !items.isEmpty
| .dict entries => !entries.isEmpty
| .reference _ _ attributes => !attributes.isEmpty
| .attribute .. => true

------------------------------------------------------------
-- Records
------------------------------------------------------------

mutual

/-
  A value has a record unless there is an integer in it that
  has too many digits.
-/
def isWritable : Value → Bool
| .int n => Integer.isWritable n
| .list items => areWritable items
| .tuple items => areWritable items
| .dict entries => entriesWritable entries
| .reference _ _ attributes => attributesWritable attributes
| .attribute _ content => isWritable content
| _ => true

/- All items have records. -/
def areWritable : List Value → Bool
| [] => true
| item :: items => isWritable item && areWritable items

/- All keys and values of entries have records. -/
def entriesWritable : List (Value × Value) → Bool
| [] => true
| (key, value) :: entries =>
    isWritable key && isWritable value &&
      entriesWritable entries

/- The contents of all attributes have records. -/
def attributesWritable : List (String × Value) → Bool
| [] => true
| (_, content) :: attributes =>
    isWritable content && attributesWritable attributes

end

/- The text of a truth value. -/
def boolRecord (b : Bool) : String :=
  if b then "True" else "False"

/- The text of a name that may be missing. -/
def nameText : Option String → String
| none => "None"
| some name => name

mutual

/- The diagnostic record of a value that has one. -/
def record : Value → String
| .null => "None"
| .bool b => boolRecord b
| .int n => toString n
| .float x => x.text
| .text s => quoted s
| .bytes content => quotedBytes content
| .list items => "[" ++ itemRecords items ++ "]"
| .tuple [item] => "(" ++ record item ++ ",)"
| .tuple items => "(" ++ itemRecords items ++ ")"
| .dict entries => "\x7b" ++ entryRecords entries ++ "\x7d"
| .reference className factory attributes =>
    "<Reference " ++ nameText className ++ " factory=" ++
      nameText factory ++ " addrs=[" ++
      attributeRecords attributes ++ "]>"
| .attribute name content =>
    "<RefAddr " ++ name ++ "=" ++ record content ++ ">"

/- The records of values with commas between them. -/
def itemRecords : List Value → String
| [] => ""
| [item] => record item
| item :: items => record item ++ ", " ++ itemRecords items

/- The records of entries with commas between them. -/
def entryRecords : List (Value × Value) → String
| [] => ""
| [(key, value)] => record key ++ ": " ++ record value
| (key, value) :: entries =>
    record key ++ ": " ++ record value ++ ", " ++
      entryRecords entries

/- The records of attributes with commas between them. -/
def attributeRecords : List (String × Value) → String
| [] => ""
| [(name, content)] =>
    "<RefAddr " ++ name ++ "=" ++ record content ++ ">"
| (name, content) :: attributes =>
    "<RefAddr " ++ name ++ "=" ++ record content ++ ">, " ++
      attributeRecords attributes

end

/- A text as it is, any other value as its record if any. -/
def plain : Value → String
| .text s => s
| value => record value

------------------------------------------------------------
-- Equality
------------------------------------------------------------

/- The integer that a truth value counts as. -/
def boolInt (b : Bool) : Int :=
  if b then 1 else 0

mutual

/-
  Equality of values: numbers are compared as numbers, truth
  values among them; texts, byte strings, lists and tuples by
  their content; dictionaries regardless of order. Two
  references are never equal.
-/
def equal : Value → Value → Bool
| .null, .null => true
| .bool a, .bool b => a == b
| .bool a, .int n => boolInt a == n
| .bool a, .float y => y.compareInt? (boolInt a) == some .eq
| .int m, .bool b => m == boolInt b
| .int m, .int n => m == n
| .int m, .float y => y.compareInt? m == some .eq
| .float x, .bool b => x.compareInt? (boolInt b) == some .eq
| .float x, .int n => x.compareInt? n == some .eq
| .float x, .float y => x.equal y
| .text s, .text t => s == t
| .bytes s, .bytes t => s == t
| .list xs, .list ys => equalItems xs ys
| .tuple xs, .tuple ys => equalItems xs ys
| .dict xs, .dict ys =>
    xs.length == ys.length && equalEntries xs ys
| .attribute m x, .attribute n y => m == n && equal x y
| _, _ => false

/- Equality item by item. -/
def equalItems : List Value → List Value → Bool
| [], [] => true
| x :: xs, y :: ys => equal x y && equalItems xs ys
| _, _ => false

/- Every entry of the first has an equal one in the second. -/
def equalEntries
    : List (Value × Value) → List (Value × Value) → Bool
| [], _ => true
| (key, value) :: rest, entries =>
    entries.any
      (fun entry =>
        equal key entry.1 && equal value entry.2) &&
      equalEntries rest entries

end

instance : BEq Value :=
  ⟨equal⟩

/-
  Whether a value equals itself. Only what is no number, and
  an attribute that holds it, does not.
-/
def equalsItself : Value → Bool
| .float x => !x.isNotANumber
| .attribute _ content => equalsItself content
| _ => true

mutual

/-
  The kind of the first part that keeps a value from being a
  member of a set or a key of a table.
-/
def unhashable? : Value → Option String
| .list _ => some "list"
| .dict _ => some "dict"
| .tuple items => unhashableItem? items
| .attribute _ content => unhashable? content
| _ => none

/- The first such part among the items. -/
def unhashableItem? : List Value → Option String
| [] => none
| item :: items =>
    match unhashable? item with
    | some kind => some kind
    | none => unhashableItem? items

end

end Value

end Keyspaces
