/-
  This file defines the elements of a document and how they
  are found below one another.

  Main definitions:
    * `Xml.Element`
    * `Xml.Element.attribute?`
    * `Xml.Element.named`
    * `Xml.Element.childText?`
-/

namespace Keyspaces

namespace Xml

/-
  An element has a tag, attributes in their order, the text
  before its first child, and children.
-/
inductive Element
| node
    (tag : String) (attributes : List (String × String))
    (text : String) (children : List Element)
deriving Repr, Inhabited

namespace Element

/- The tag of an element. -/
def tag : Element → String
| .node tag _ _ _ => tag

/- The attributes of an element. -/
def attributes : Element → List (String × String)
| .node _ attributes _ _ => attributes

/- The text before the first child of an element. -/
def text : Element → String
| .node _ _ text _ => text

/- The children of an element. -/
def children : Element → List Element
| .node _ _ _ children => children

/- The value of the attribute with a name. -/
def attribute?
    (element : Element)
    (name : String) : Option String :=
  element.attributes.lookup name

mutual

/- An element and all those below it in document order. -/
def family : Element → List Element
| .node tag attributes text children =>
    .node tag attributes text children :: families children

/- The elements of a list and all those below them. -/
def families : List Element → List Element
| [] => []
| element :: elements =>
    family element ++ families elements

end

/- The elements with a tag in the family of an element. -/
def named
    (element : Element)
    (tag : String) : List Element :=
  element.family.filter fun member => member.tag == tag

/- The text of the first child with a tag. -/
def childText?
    (element : Element)
    (tag : String) : Option String :=
  (element.children.find? fun child => child.tag == tag).map
    Element.text

end Element

end Xml

end Keyspaces
