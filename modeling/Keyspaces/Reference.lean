import Keyspaces.Conversion

/-
  This file defines references: descriptions of an object that
  a factory is to create, made of attributes in their order.

  Main definitions:
    * `Reference`
    * `Reference.get?`
    * `Reference.content?`
    * `Reference.add`
    * `Reference.toValue`
    * `Value.reference?`
-/

namespace Keyspaces

/-
  A reference names the class of the object and the factory
  that creates it, and carries attributes, several of which
  may have one name.
-/
structure Reference where
  className : Option String
  factory : Option String
  attributes : List (String × Value)
deriving Inhabited, Repr

namespace Reference

/- The first attribute with a name. -/
def get?
    (reference : Reference)
    (name : String) : Option (String × Value) :=
  reference.attributes.find? fun entry => entry.1 == name

/-
  The content of the first attribute with a name, unless it
  is `null`.
-/
def content?
    (reference : Reference)
    (name : String) : Option Value :=
  match reference.get? name with
  | some (_, .null) => none
  | some (_, content) => some content
  | none => none

/- Put an attribute behind the others. -/
def append
    (reference : Reference)
    (name : String)
    (content : Value) : Reference :=
  { reference with
    attributes := reference.attributes ++ [(name, content)] }

/- Add a value, which has to be an attribute. -/
def add
    (reference : Reference)
    (value : Value) : Except Failure Reference :=
  match value with
  | .attribute name content =>
      .ok (reference.append name content)
  | _ => .error (.showing value (.notAttribute value))

/- The reference as a value. -/
def toValue (reference : Reference) : Value :=
  .reference reference.className reference.factory
    reference.attributes

/- The diagnostic record of a reference, if it has one. -/
def written
    (reference : Reference) : Except Failure String :=
  reference.toValue.written

end Reference

namespace Value

/- The reference that a value is. -/
def reference? : Value → Option Reference
| .reference className factory attributes =>
    some ⟨className, factory, attributes⟩
| _ => none

/- A reference as a value is that reference. -/
theorem reference?_toValue
    (reference : Reference) :
    reference? reference.toValue = some reference :=
  rfl

end Value

end Keyspaces
