import Keyspaces.FileTree
import Keyspaces.Reference
import Keyspaces.Table
import Keyspaces.Text.Blank
import Keyspaces.Xml.Document

/-
  This file defines what a document of declarations declares:
  named references, with attributes from the elements that
  declare them and from blocks of parameters.

  Main definitions:
    * `Declarations`
    * `Declarations.ofElement`
    * `Declarations.Source`
    * `Declarations.ofSource`
-/

namespace Keyspaces

open Text

/-
  References by their names, in the order in which they are
  declared.
-/
abbrev Declarations :=
  Table String Reference

namespace Declarations

------------------------------------------------------------
-- Resources
------------------------------------------------------------

/- The tag of the elements that declare a resource. -/
def resourceTag : String := "Resource"

/- The attributes that are not passed on to the reference. -/
def reservedNames : List String :=
  ["name", "type", "factory", "auth"]

/- The attributes of an element that are passed on. -/
def ownAttributes
    (element : Xml.Element) : List (String × Value) :=
  (element.attributes.filter fun entry =>
    !reservedNames.contains entry.1).map
    fun entry => (entry.1, .text entry.2)

/- The reference that an element declares with a factory. -/
def referenceOf
    (element : Xml.Element)
    (factory : String) : Reference :=
  { className := element.attribute? "type"
    factory := some factory
    attributes := ownAttributes element }

/- The value of an attribute that is there and not empty. -/
def filled?
    (element : Xml.Element)
    (name : String) : Option String :=
  (element.attribute? name).filter fun value =>
    !value.isEmpty

/-
  Declare the resource of an element. It needs a name that is
  not declared yet and a factory.
-/
def declare
    (declarations : Declarations)
    (element : Xml.Element) : Except Failure Declarations :=
  match filled? element "name", filled? element "factory" with
  | none, _ => .error .resourceWithoutName
  | some name, none => .error (.resourceWithoutFactory name)
  | some name, some factory =>
      if declarations.contains name then
        .error (.resourceRepeated name)
      else
        .ok (declarations.insert name
          (referenceOf element factory))

------------------------------------------------------------
-- Parameters
------------------------------------------------------------

/- The tag of the blocks of parameters of a resource. -/
def parametersTag : String := "ResourceParams"

/- The tag of the elements of a block. -/
def parameterTag : String := "parameter"

/-
  Add a parameter to the reference with a name. The name of a
  parameter is trimmed, its value is `null` when there is no
  element with it.
-/
def addParameter
    (name : String)
    (reference : Reference)
    (parameter : Xml.Element) : Except Failure Reference :=
  match (parameter.childText? "name").filter
      fun key => !key.isEmpty with
  | none => .error (.parameterWithoutName name)
  | some key =>
      .ok (reference.append (trim key)
        (((parameter.childText? "value").map
          Value.text).getD .null))

/- Add the parameters of a block to a declared reference. -/
def addParameters
    (declarations : Declarations)
    (block : Xml.Element) : Except Failure Declarations :=
  let name := block.attribute? "name"
  match name.bind fun name =>
      (declarations.get? name).map (name, ·) with
  | none => .error (.parametersOfUndeclared name)
  | some (name, reference) =>
      ((block.named parameterTag).foldlM (addParameter name)
        reference).map (declarations.insert name)

------------------------------------------------------------
-- Documents
------------------------------------------------------------

/-
  What the elements of a document declare. All resources are
  declared before parameters are added to them.
-/
def ofElement
    (root : Xml.Element) : Except Failure Declarations := do
  let declared ←
    (root.named resourceTag).foldlM declare .empty
  (root.named parametersTag).foldlM addParameters declared

------------------------------------------------------------
-- Sources
------------------------------------------------------------

/-
  Where declarations are read from: an open file of text or of
  bytes, or a value, which is the text of a document or names
  a file.
-/
inductive Source
| textFile (content : String)
| bytesFile (content : List UInt8)
| value (value : Value)
deriving Repr

/-
  A text is that of a document, and not the path of one, when
  it starts with a tag.
-/
def isDocument (text : String) : Bool :=
  (trimLeft text.toList).head? == some '<'

/- The root of a document, read with a reader of files. -/
def rootOf
    (read : Value → Except Failure (List UInt8)) :
    Source → Except Failure Xml.Element
| .textFile content =>
    Xml.Document.parse (Utf8.encode content) false
| .bytesFile content => Xml.Document.parse content false
| .value (.text text) =>
    if isDocument text then
      Xml.Document.parse (Utf8.encode text) true
    else do
      Xml.Document.parse (← read (.text text)) false
| .value value => do
    Xml.Document.parse (← read value) false

/- What a source declares. -/
def ofSource
    (read : Value → Except Failure (List UInt8))
    (source : Source) : Except Failure Declarations := do
  ofElement (← rootOf read source)

end Declarations

end Keyspaces
