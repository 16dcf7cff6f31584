import Keyspaces.Text.Split
import Keyspaces.Xml.Entity

/-
  This file defines the namespaces of names: how attributes
  bind prefixes to them, and how the names of elements and
  attributes are written with them.

  Main definitions:
    * `Xml.Bindings`
    * `Xml.Bindings.bind`
    * `Xml.Bindings.expandAttribute`
    * `Xml.Bindings.expandElement`
    * `Xml.openElement`
-/

namespace Keyspaces

namespace Xml

------------------------------------------------------------
-- Prefixes
------------------------------------------------------------

/- Divide a name at its colon into prefix and local part. -/
def splitName
    (name : List Char) : Option (List Char) × List Char :=
  match Text.cut? ':' name with
  | some (space, localPart) => (some space, localPart)
  | none => (none, name)

/- The prefix that binds prefixes. -/
def bindingPrefix : List Char :=
  ['x', 'm', 'l', 'n', 's']

/- The prefix of the attributes of the format itself. -/
def xmlPrefix : List Char :=
  ['x', 'm', 'l']

/- The namespace of the attributes of the format itself. -/
def xmlNamespace : List Char :=
  "http://www.w3.org/XML/1998/namespace".toList

/- The namespace of the attributes that bind prefixes. -/
def bindingNamespace : List Char :=
  "http://www.w3.org/2000/xmlns/".toList

/-
  What an attribute binds: a prefix, or without one the names
  that have no prefix.
-/
def boundPrefix? (name : List Char) : Option (List Char) :=
  if name = bindingPrefix then
    some []
  else
    match splitName name with
    | (some space, localPart) =>
        if space = bindingPrefix then some localPart else none
    | (none, _) => none

/-
  The namespaces that prefixes are bound to, the latest
  binding first. The empty prefix is that of names without
  one, and may be bound to no namespace.
-/
abbrev Bindings :=
  List (List Char × Option (List Char))

namespace Bindings

/- The bindings at the start of a document. -/
def initial : Bindings :=
  [(xmlPrefix, some xmlNamespace)]

/- The namespace that a prefix is bound to. -/
def namespace?
    (bindings : Bindings)
    (space : List Char) : Option (List Char) :=
  (bindings.lookup space).join

/-
  Why a prefix cannot be bound to a namespace, if it cannot.
  A brace would end the namespace in a written name.
-/
def refusal?
    (space target : List Char) : Option Reason :=
  if target.isEmpty && !space.isEmpty then
    some .reservedPrefixUndeclared
  else if space = bindingPrefix then
    some .reservedPrefixXmlns
  else if target.contains '\x7d' then
    some .malformedSyntax
  else if space = xmlPrefix then
    if target = xmlNamespace then none
    else some .reservedPrefixXml
  else if target = xmlNamespace || target = bindingNamespace then
    some .reservedNamespace
  else
    none

/- Bind a prefix to a namespace. -/
def bind
    (bindings : Bindings)
    (space target : List Char) : Except Reason Bindings :=
  match refusal? space target with
  | some reason => .error reason
  | none =>
      .ok ((space, if target.isEmpty then none
        else some target) :: bindings)

/- A local part with the namespace in braces before it. -/
def written
    (target localPart : List Char) : List Char :=
  '\x7b' :: target ++ '\x7d' :: localPart

/-
  The written name of an attribute. Without a prefix it has no
  namespace.
-/
def expandAttribute
    (bindings : Bindings)
    (name : List Char) : Except Reason (List Char) :=
  match splitName name with
  | (none, _) => .ok name
  | (some space, localPart) =>
      match bindings.namespace? space with
      | some target => .ok (written target localPart)
      | none => .error .unboundPrefix

/- The written name of an element. -/
def expandElement
    (bindings : Bindings)
    (name : List Char) : Except Reason (List Char) :=
  match splitName name with
  | (none, _) =>
      .ok (match bindings.namespace? [] with
        | some target => written target name
        | none => name)
  | (some space, localPart) =>
      match bindings.namespace? space with
      | some target => .ok (written target localPart)
      | none => .error .unboundPrefix

end Bindings

------------------------------------------------------------
-- Attributes of an Element
------------------------------------------------------------

/-
  The attributes of an element while they are read: names and
  values in order, and the bindings so far.
-/
structure OpenAttributes where
  names : List (List Char)
  entries : List (List Char × List Char)
  bindings : Bindings

/- A problem of the token it belongs to. -/
def ofToken (reason : Reason) : Problem :=
  ⟨reason, none⟩

/- Add an attribute with its value. -/
def OpenAttributes.add
    (opened : OpenAttributes)
    (name value : List Char) :
    Except Problem OpenAttributes :=
  match boundPrefix? name with
  | some space =>
      match opened.bindings.bind space value with
      | .ok bindings =>
          .ok
            { opened with
              names := name :: opened.names
              bindings := bindings }
      | .error reason => .error (ofToken reason)
  | none =>
      .ok
        { opened with
          names := name :: opened.names
          entries := opened.entries ++ [(name, value)] }

/- Add the attributes of a tag in order. -/
def addWritten
    (declarations : Declarations)
    (openedEntities : List (List Char))
    (declared : List AttributeDefault)
    (opened : OpenAttributes) :
    List Attribute → Except Problem OpenAttributes
| [] => .ok opened
| entry :: entries => do
    if opened.names.contains entry.name then
      .error ⟨.duplicateAttribute, some entry.namePosition⟩
    else
      let keepsSpace :=
        ((declared.find? fun d => d.name == entry.name).map
          AttributeDefault.keepsSpace).getD true
      let value ←
        attributeValue ⟨declarations, keepsSpace⟩
          openedEntities entry.valuePosition entry.value
      let next ← opened.add entry.name value
      addWritten declarations openedEntities declared next
        entries

/- Add the defaults of attributes that are not written. -/
def addDefaults
    (opened : OpenAttributes) :
    List AttributeDefault → Except Problem OpenAttributes
| [] => .ok opened
| declared :: more => do
    match declared.value with
    | some value =>
        if opened.names.contains declared.name then
          addDefaults opened more
        else
          let next ← opened.add declared.name value
          addDefaults next more
    | none => addDefaults opened more

/-
  The written names of attributes. No two attributes with
  prefixes may have the same one.
-/
def expandAll
    (bindings : Bindings)
    (seen : List (List Char)) :
    List (List Char × List Char) →
    Except Problem (List (String × String))
| [] => .ok []
| (name, value) :: entries => do
    let expanded ←
      (bindings.expandAttribute name).mapError ofToken
    let entry := (String.ofList expanded, String.ofList value)
    if (splitName name).1.isNone then
      let rest ← expandAll bindings seen entries
      .ok (entry :: rest)
    else if seen.contains expanded then
      .error (ofToken .duplicateAttribute)
    else
      let rest ← expandAll bindings (expanded :: seen) entries
      .ok (entry :: rest)

/-
  What a start tag opens: the written names of the element and
  of its attributes, and the bindings inside the element.
-/
structure OpenElement where
  tag : String
  attributes : List (String × String)
  bindings : Bindings

/- Make an element from what its start tag says. -/
def openElement
    (declarations : Declarations)
    (openedEntities : List (List Char))
    (bindings : Bindings)
    (name : List Char)
    (attributes : List Attribute) :
    Except Problem OpenElement := do
  let declared := declarations.attributesOf name
  let written ←
    addWritten declarations openedEntities declared
      ⟨[], [], bindings⟩ attributes
  let complete ← addDefaults written declared
  let entries ←
    expandAll complete.bindings [] complete.entries
  let tag ←
    (complete.bindings.expandElement name).mapError ofToken
  .ok ⟨String.ofList tag, entries, complete.bindings⟩

end Xml

end Keyspaces
