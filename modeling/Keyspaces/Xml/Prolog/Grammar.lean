import Keyspaces.Xml.Prolog.Token

/-
  This file defines the order of tokens before the root of a
  document: what is expected next, and what a token does.

  Main definitions:
    * `Xml.Expected`
    * `Xml.Action`
    * `Xml.Expected.accept?`
-/

namespace Keyspaces

namespace Xml

------------------------------------------------------------
-- Expectations
------------------------------------------------------------

/-
  What is expected next. Groups of an element's content are
  open with the sign that joins their members, if it is known.
-/
inductive Expected
| documentStart
| doctype
| root
| doctypeName
| doctypeRest
| doctypePublicId
| doctypeSystemId
| doctypeSubset
| doctypeEnd
| subset
| entityName
| parameterName
| entityDefinition
| entityPublicId
| entitySystemId
| entityRest
| entityNotation
| parameterDefinition
| parameterPublicId
| parameterSystemId
| parameterEnd
| notationName
| notationDefinition
| notationPublicId
| notationSystemId
| notationRest
| attributesElement
| attributeName
| attributeType
| listedValue
| listedRest
| notationsOpen
| notationsValue
| notationsRest
| attributeDefault
| attributeFixed
| elementName
| elementContent
| groupStart
| mixedRest
| mixedName
| mixedNext
| groupItem (groups : List (Option Char))
| groupRest (groups : List (Option Char))
| declarationEnd
deriving DecidableEq, Repr

/- What a token does. -/
inductive Action
| none
| declareXml
| doctypePublicId (position : Nat) (literal : List Symbol)
| doctypeSystemId
| startRoot
| parameterReference
| nameEntity (name : List Char)
| nameParameter
| valueEntity (position : Nat) (literal : List Symbol)
| publicId (position : Nat) (literal : List Symbol)
| systemId
| binaryEntity (name : List Char)
| nameElement (name : List Char)
| nameAttribute (name : List Char)
| typeAttribute (keepsSpace isIdentity : Bool)
| noDefault
| setDefault (position : Nat) (literal : List Symbol)
deriving Repr

namespace Expected

/- The outcome of a token: what it does and what is next. -/
abbrev Accepted :=
  Option (Action × Expected)

/- A token that does nothing. -/
def goTo (next : Expected) : Accepted :=
  some (.none, next)

------------------------------------------------------------
-- Between Declarations
------------------------------------------------------------

/- Tokens before the document type declaration. -/
def acceptStart
    (first : Bool) : Token → Accepted
| .space => goTo .doctype
| .xmlDeclaration =>
    if first then some (.declareXml, .doctype) else none
| .instruction | .comment => goTo .doctype
| .opening keyword =>
    if keyword = "DOCTYPE".toList then goTo .doctypeName
    else none
| .root => some (.startRoot, .root)
| _ => none

/- Tokens after the document type declaration. -/
def acceptRoot : Token → Accepted
| .space | .instruction | .comment => goTo .root
| .root => some (.startRoot, .root)
| _ => none

/- Tokens between declarations. -/
def acceptSubset : Token → Accepted
| .space | .instruction | .comment => goTo .subset
| .opening keyword =>
    if keyword = "ENTITY".toList then goTo .entityName
    else if keyword = "ATTLIST".toList then
      goTo .attributesElement
    else if keyword = "ELEMENT".toList then goTo .elementName
    else if keyword = "NOTATION".toList then
      goTo .notationName
    else none
| .parameterReference =>
    some (.parameterReference, .subset)
| .closeBracket => goTo .doctypeEnd
| _ => none

------------------------------------------------------------
-- Document Type and Entities
------------------------------------------------------------

/- The plain name that a token is. -/
def simpleName? : Token → Option (List Char)
| .name .simple text none => some text
| _ => none

/- The name that a token is, with or without a prefix. -/
def anyName? : Token → Option (List Char)
| .name .simple text none => some text
| .name .prefixed text none => some text
| _ => none

/- The token is the given keyword. -/
def isKeyword (token : Token) (keyword : String) : Bool :=
  simpleName? token == some keyword.toList

/- Tokens that end a declaration. -/
def acceptEnd
    (next : Expected) : Token → Accepted
| .closing => goTo next
| _ => none

/- What comes after the kind of an outside identifier. -/
def acceptOutside
    (token : Token)
    (publicId systemId : Expected) : Accepted :=
  if isKeyword token "SYSTEM" then goTo systemId
  else if isKeyword token "PUBLIC" then goTo publicId
  else none

/- Tokens after the name of the document type. -/
def acceptDoctypeRest (token : Token) : Accepted :=
  match token with
  | .openBracket => goTo .subset
  | .closing => goTo .root
  | _ =>
      acceptOutside token .doctypePublicId .doctypeSystemId

/- Tokens after the identifiers of the document type. -/
def acceptDoctypeSubset : Token → Accepted
| .openBracket => goTo .subset
| .closing => goTo .root
| _ => none

/- A literal and what it does. -/
def acceptLiteral
    (action : Nat → List Symbol → Action)
    (next : Expected) : Token → Accepted
| .literal position content =>
    some (action position content, next)
| _ => none

/- Tokens at the start of the declaration of an entity. -/
def acceptEntityName (token : Token) : Accepted :=
  match token with
  | .percent => goTo .parameterName
  | _ =>
      (simpleName? token).map fun name =>
        (.nameEntity name, .entityDefinition)

/- Tokens after the name of an entity. -/
def acceptDefinition
    (publicId systemId : Expected)
    (token : Token) : Accepted :=
  match token with
  | .literal position content =>
      some (.valueEntity position content, .declarationEnd)
  | _ => acceptOutside token publicId systemId

/- Tokens after the identifiers of an entity. -/
def acceptEntityRest (token : Token) : Accepted :=
  match token with
  | .closing => goTo .subset
  | _ =>
      if isKeyword token "NDATA" then goTo .entityNotation
      else none

------------------------------------------------------------
-- Attributes
------------------------------------------------------------

/- The types of attributes that a name stands for. -/
def attributeTypes : List String :=
  ["CDATA", "ID", "IDREF", "IDREFS", "ENTITY", "ENTITIES",
    "NMTOKEN", "NMTOKENS"]

/- Tokens after the name of an attribute. -/
def acceptType (token : Token) : Accepted :=
  match token with
  | .openParen => goTo .listedValue
  | _ =>
      if isKeyword token "NOTATION" then
        goTo .notationsOpen
      else
        (attributeTypes.find? (isKeyword token)).map
          fun type =>
            (.typeAttribute (type == "CDATA") (type == "ID"),
              .attributeDefault)

/- Tokens inside the values of a listed type. -/
def acceptListed : Token → Accepted
| .name _ _ none =>
    some (.typeAttribute false false, .listedRest)
| _ => none

/- Tokens between listed values. -/
def acceptListedRest
    (again : Expected) : Token → Accepted
| .closeParen none => goTo .attributeDefault
| .choice => goTo again
| _ => none

/- Tokens after the type of an attribute. -/
def acceptDefault : Token → Accepted
| .poundName text =>
    if text = "IMPLIED".toList ||
        text = "REQUIRED".toList then
      some (.noDefault, .attributeName)
    else if text = "FIXED".toList then
      goTo .attributeFixed
    else
      none
| .literal position content =>
    some (.setDefault position content, .attributeName)
| _ => none

/- Tokens before the name of an attribute. -/
def acceptAttributeName (token : Token) : Accepted :=
  match token with
  | .closing => goTo .subset
  | _ =>
      (anyName? token).map fun name =>
        (.nameAttribute name, .attributeType)

------------------------------------------------------------
-- Elements
------------------------------------------------------------

/- Tokens after the name of an element. -/
def acceptContent (token : Token) : Accepted :=
  match token with
  | .openParen => goTo .groupStart
  | _ =>
      if isKeyword token "EMPTY" || isKeyword token "ANY" then
        goTo .declarationEnd
      else
        none

/- Tokens at the start of a member of a group. -/
def acceptItem
    (groups : List (Option Char)) : Token → Accepted
| .openParen => goTo (.groupItem (none :: groups))
| .name .simple _ _ => goTo (.groupRest groups)
| .name .prefixed _ _ => goTo (.groupRest groups)
| _ => none

/- Tokens at the start of the content of an element. -/
def acceptGroupStart : Token → Accepted
| .poundName text =>
    if text = "PCDATA".toList then goTo .mixedRest else none
| token => acceptItem [none] token

/- Tokens after the start of mixed content. -/
def acceptMixedRest : Token → Accepted
| .closeParen none => goTo .declarationEnd
| .closeParen (some '*') => goTo .declarationEnd
| .choice => goTo .mixedName
| _ => none

/- Tokens after a name in mixed content. -/
def acceptMixedNext : Token → Accepted
| .closeParen (some '*') => goTo .declarationEnd
| .choice => goTo .mixedName
| _ => none

/-
  Join a member to the ones before it. All members of a group
  are joined by the same sign.
-/
def joinGroup
    (groups : List (Option Char))
    (sign : Char) : Accepted :=
  match groups with
  | none :: outer => goTo (.groupItem (some sign :: outer))
  | some known :: outer =>
      if known = sign then
        goTo (.groupItem (some known :: outer))
      else
        none
  | [] => none

/- Tokens after a member of a group. -/
def acceptGroupRest
    (groups : List (Option Char)) : Token → Accepted
| .closeParen _ =>
    match groups.tail with
    | [] => goTo .declarationEnd
    | outer => goTo (.groupRest outer)
| .comma => joinGroup groups ','
| .choice => joinGroup groups '|'
| _ => none

------------------------------------------------------------
-- All Tokens
------------------------------------------------------------

/- Spaces between the parts of a declaration. -/
def skipsSpace : Expected → Bool
| .documentStart | .doctype | .root | .subset => false
| _ => true

/- Accept a token that is no space to be skipped. -/
def acceptToken
    (expected : Expected)
    (token : Token) : Accepted :=
  match expected with
  | .documentStart => acceptStart true token
  | .doctype => acceptStart false token
  | .root => acceptRoot token
  | .doctypeName =>
      (anyName? token).bind fun _ => goTo .doctypeRest
  | .doctypeRest => acceptDoctypeRest token
  | .doctypePublicId =>
      acceptLiteral .doctypePublicId .doctypeSystemId token
  | .doctypeSystemId =>
      acceptLiteral (fun _ _ => .doctypeSystemId)
        .doctypeSubset token
  | .doctypeSubset => acceptDoctypeSubset token
  | .doctypeEnd => acceptEnd .root token
  | .subset => acceptSubset token
  | .entityName => acceptEntityName token
  | .parameterName =>
      (simpleName? token).map fun _ =>
        (.nameParameter, .parameterDefinition)
  | .entityDefinition =>
      acceptDefinition .entityPublicId .entitySystemId token
  | .entityPublicId =>
      acceptLiteral .publicId .entitySystemId token
  | .entitySystemId =>
      acceptLiteral (fun _ _ => .systemId) .entityRest token
  | .entityRest => acceptEntityRest token
  | .entityNotation =>
      (simpleName? token).map fun name =>
        (.binaryEntity name, .declarationEnd)
  | .parameterDefinition =>
      acceptDefinition .parameterPublicId .parameterSystemId
        token
  | .parameterPublicId =>
      acceptLiteral .publicId .parameterSystemId token
  | .parameterSystemId =>
      acceptLiteral (fun _ _ => .systemId) .parameterEnd
        token
  | .parameterEnd => acceptEnd .subset token
  | .notationName =>
      (simpleName? token).bind fun _ =>
        goTo .notationDefinition
  | .notationDefinition =>
      acceptOutside token .notationPublicId .notationSystemId
  | .notationPublicId =>
      acceptLiteral .publicId .notationRest token
  | .notationSystemId =>
      acceptLiteral (fun _ _ => .none) .declarationEnd token
  | .notationRest =>
      match token with
      | .closing => goTo .subset
      | _ =>
          acceptLiteral (fun _ _ => .none) .declarationEnd
            token
  | .attributesElement =>
      (anyName? token).map fun name =>
        (.nameElement name, .attributeName)
  | .attributeName => acceptAttributeName token
  | .attributeType => acceptType token
  | .listedValue => acceptListed token
  | .listedRest => acceptListedRest .listedValue token
  | .notationsOpen =>
      match token with
      | .openParen => goTo .notationsValue
      | _ => none
  | .notationsValue =>
      (simpleName? token).map fun _ =>
        (.typeAttribute false false, .notationsRest)
  | .notationsRest => acceptListedRest .notationsValue token
  | .attributeDefault => acceptDefault token
  | .attributeFixed =>
      acceptLiteral .setDefault .attributeName token
  | .elementName =>
      (anyName? token).bind fun _ => goTo .elementContent
  | .elementContent => acceptContent token
  | .groupStart => acceptGroupStart token
  | .mixedRest => acceptMixedRest token
  | .mixedName =>
      (anyName? token).bind fun _ => goTo .mixedNext
  | .mixedNext => acceptMixedNext token
  | .groupItem groups => acceptItem groups token
  | .groupRest groups => acceptGroupRest groups token
  | .declarationEnd => acceptEnd .subset token

/- What a token does where it stands, if it can stand there. -/
def accept?
    (expected : Expected)
    (token : Token) : Accepted :=
  match skipsSpace expected, token with
  | true, .space => some (.none, expected)
  | _, _ => acceptToken expected token

end Expected

end Xml

end Keyspaces
