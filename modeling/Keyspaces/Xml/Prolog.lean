import Keyspaces.Xml.Codec
import Keyspaces.Xml.Entity
import Keyspaces.Xml.Prolog.Grammar
import Keyspaces.Xml.Prolog.Version

/-
  This file defines the reading of a document up to its root:
  its encoding, its declarations and the defaults of its
  attributes.

  Main definitions:
    * `Xml.Document`
    * `Xml.Document.ofBytes`
    * `Xml.Prolog`
    * `Xml.Prolog.read`
-/

namespace Keyspaces

open Text

namespace Xml

------------------------------------------------------------
-- Documents
------------------------------------------------------------

/-
  The bytes of a document as symbols of an encoding. The
  encoding is `fixed` when no declaration can change it.
-/
structure Document where
  bytes : List UInt8
  encoding : Encoding
  symbols : List Symbol
  fixed : Bool

namespace Document

/- The document of bytes in an encoding. -/
def ofBytes
    (bytes : List UInt8)
    (encoding : Encoding)
    (fixed : Bool) : Document :=
  ⟨bytes, encoding, encoding.decode bytes, fixed⟩

/- The failure for a reason at a place of a document. -/
def fail {α : Type}
    (document : Document)
    (reason : Reason)
    (position : Nat) : Except Failure α :=
  .error (.malformedDocument
    (faultAt document.symbols reason position))

/- Why the token at a place cannot be read, and where. -/
def stopPlace
    (start : Nat) : Stop → Reason × Nat
| .invalid position => (.invalidToken, position)
| .unclosed => (.unclosedToken, start)
| .cut => (.partialCharacter, start)

/- The failure to read the token at a place. -/
def failToken {α : Type}
    (document : Document)
    (start : Nat)
    (stop : Stop) : Except Failure α :=
  let (reason, position) := stopPlace start stop
  document.fail reason position

/- The failure for a problem of the token at a place. -/
def failProblem {α : Type}
    (document : Document)
    (start : Nat)
    (problem : Problem) : Except Failure α :=
  document.fail problem.reason
    (problem.position.getD start)

/-
  Read the rest of a document in another encoding. What comes
  before the place is counted in its bytes.
-/
def switch
    (document : Document)
    (encoding : Encoding)
    (cursor : Cursor) : Document × Cursor :=
  let next :=
    ofBytes document.bytes encoding document.fixed
  let before := document.symbols.take cursor.position
  let position := byteCount before
  (next, ⟨position, next.symbols.drop position,
    next.symbols.length⟩)

/-
  Follow the encoding that a declaration names at a place. It
  has to have units of the size that the document is read in.
-/
def follow
    (document : Document)
    (name : String)
    (position : Nat)
    (cursor : Cursor) :
    Except Failure (Document × Cursor) :=
  let current := document.encoding
  match Codec.builtIn? name with
  | some encoding =>
      let named :=
        if Codec.inCapitals name = "UTF-16" &&
            current.unitSize = 2 then
          current
        else
          encoding
      if named = current then
        .ok (document, cursor)
      else if named.unitSize = 1 &&
          current.unitSize = 1 then
        .ok (document.switch named cursor)
      else
        document.fail .incorrectEncoding position
  | none =>
      match Codec.find name with
      | .encoding encoding =>
          .ok (document.switch encoding cursor)
      | .unsuitable =>
          document.fail .unknownEncoding position
      | .failure failure => .error failure

end Document

------------------------------------------------------------
-- Prologs
------------------------------------------------------------

/-
  What is known before the root: the declarations, what is
  expected next, and the entity, element and attribute that
  are being declared.
-/
structure Prolog where
  document : Document
  declarations : Declarations
  expected : Expected
  entity : Option (List Char)
  elementName : List Char
  attributeName : List Char
  keepsSpace : Bool
  isIdentity : Bool

namespace Prolog

/- The prolog before the first token. -/
def start (document : Document) : Prolog :=
  { document := document
    declarations := .none
    expected := .documentStart
    entity := none
    elementName := []
    attributeName := []
    keepsSpace := false
    isIdentity := false }

/- Change the declarations. -/
def declare
    (prolog : Prolog)
    (change : Declarations → Declarations) : Prolog :=
  { prolog with declarations := change prolog.declarations }

/- Characters that a public identifier can have. -/
def isPublicChar (c : Char) : Bool :=
  c.isAlphanum || c = ' ' || c = '\n' || c = '\r' ||
    "-'()+,./:=?;!*#@$_%".toList.contains c

/- The place of a symbol that a public identifier excludes. -/
def publicIdFault?
    (position : Nat) :
    List Symbol → Option Nat
| [] => none
| .char c _ _ :: rest =>
    if isPublicChar c then
      publicIdFault? (position + 1) rest
    else
      some position
| _ => some position

/- Check a public identifier. -/
def checkPublicId
    (prolog : Prolog)
    (position : Nat)
    (literal : List Symbol) : Except Failure Prolog :=
  match publicIdFault? position literal with
  | some place =>
      prolog.document.fail .publicIdCharacter place
  | none => .ok prolog

/-
  Name the entity that is being declared. Only the first
  declaration of an entity counts, and those known without one
  cannot be declared.
-/
def nameEntity
    (prolog : Prolog)
    (name : List Char) : Prolog :=
  let declarations := prolog.declarations
  if (predefined? name).isSome || !declarations.keeps ||
      (declarations.entity? name).isSome then
    { prolog with entity := none }
  else
    { prolog with entity := some name }

/- Declare what the named entity stands for. -/
def defineEntity
    (prolog : Prolog)
    (entity : Entity) : Prolog :=
  match prolog.entity with
  | some name =>
      prolog.declare fun declarations =>
        { declarations with
          entities := (name, entity) :: declarations.entities }
  | none => prolog

/- Declare the replacement text of the named entity. -/
def defineText
    (prolog : Prolog)
    (start position : Nat)
    (literal : List Symbol) : Except Failure Prolog :=
  if prolog.declarations.keeps then
    match entityValue position literal with
    | .ok text => .ok (prolog.defineEntity (.internal text))
    | .error problem =>
        prolog.document.failProblem start problem
  else
    .ok prolog

/- Declare the named attribute of the named element. -/
def defineAttribute
    (prolog : Prolog)
    (value : Option (List Char)) : Prolog :=
  prolog.declare fun declarations =>
    declarations.declareAttribute prolog.elementName
      ⟨prolog.attributeName, prolog.keepsSpace, value⟩
      prolog.isIdentity

/- Declare the default of the named attribute. -/
def defineDefault
    (prolog : Prolog)
    (start position : Nat)
    (literal : List Symbol) : Except Failure Prolog :=
  if prolog.declarations.keeps then
    match attributeValue
        ⟨prolog.declarations, prolog.keepsSpace⟩ []
        position literal with
    | .ok value => .ok (prolog.defineAttribute (some value))
    | .error problem =>
        prolog.document.failProblem start problem
  else
    .ok prolog

/- Perform what the token at a place does. -/
def perform
    (prolog : Prolog)
    (start : Nat) : Action → Except Failure Prolog
| .doctypePublicId position literal =>
    (prolog.declare fun d =>
      { d with hasOutside := true }).checkPublicId position
      literal
| .doctypeSystemId =>
    .ok (prolog.declare fun d => { d with hasOutside := true })
| .parameterReference =>
    .ok (prolog.declare fun d =>
      { d with hasOutside := true, keeps := d.standalone })
| .nameEntity name => .ok (prolog.nameEntity name)
| .nameParameter => .ok { prolog with entity := none }
| .valueEntity position literal =>
    prolog.defineText start position literal
| .publicId position literal =>
    prolog.checkPublicId position literal
| .systemId => .ok (prolog.defineEntity .external)
| .binaryEntity _ => .ok (prolog.defineEntity .binary)
| .nameElement name => .ok { prolog with elementName := name }
| .nameAttribute name =>
    .ok
      { prolog with
        attributeName := name
        keepsSpace := false
        isIdentity := false }
| .typeAttribute keepsSpace isIdentity =>
    .ok
      { prolog with
        keepsSpace := keepsSpace
        isIdentity := isIdentity }
| .noDefault =>
    .ok (if prolog.declarations.keeps then
      prolog.defineAttribute none else prolog)
| .setDefault position literal =>
    prolog.defineDefault start position literal
| .none | .declareXml | .startRoot => .ok prolog

/- The number of symbols around the settings of a version. -/
def versionMargins : Nat × Nat := (5, 2)

/- Read the declaration of the version between two places. -/
def declareVersion
    (prolog : Prolog)
    (start after : Cursor) :
    Except Failure (Prolog × Cursor) :=
  let (left, right) := versionMargins
  let count := after.position - start.position - left - right
  let inside := start.skip left
  match Version.read
      { inside with rest := inside.rest.take count } with
  | .error place =>
      prolog.document.fail .declarationNotWellFormed place
  | .ok version =>
      let declared := prolog.declare fun d =>
        { d with standalone := version.standalone }
      match version.encoding, prolog.document.fixed with
      | some (name, position), false =>
          (prolog.document.follow name position after).map
            fun (document, cursor) =>
              ({ declared with document := document }, cursor)
      | _, _ => .ok (declared, after)

/- Why a token cannot stand where it does. -/
def misplaced : Token → Reason
| .parameterReference => .parameterReference
| .xmlDeclaration => .misplacedDeclaration
| _ => .malformedSyntax

/-
  Read tokens up to the start of the root. `fuel` bounds the
  tokens.
-/
def readFrom :
    (fuel : Nat) → Prolog → Cursor →
    Except Failure (Prolog × Cursor)
| 0, prolog, cursor =>
    prolog.document.fail .noElement cursor.position
| fuel + 1, prolog, cursor =>
    let start := cursor.position
    if cursor.rest.isEmpty then
      prolog.document.fail .noElement start
    else
      match cursor.token with
      | .error stop => prolog.document.failToken start stop
      | .ok (token, after) =>
          match prolog.expected.accept? token with
          | none =>
              prolog.document.fail (misplaced token) start
          | some (action, next) =>
              let prolog := { prolog with expected := next }
              match action with
              | .startRoot => .ok (prolog, cursor)
              | .declareXml =>
                  match prolog.declareVersion cursor after with
                  | .ok (prolog, after) =>
                      readFrom fuel prolog after
                  | .error failure => .error failure
              | action =>
                  match prolog.perform start action with
                  | .ok prolog => readFrom fuel prolog after
                  | .error failure => .error failure

/-
  Read a document up to the start of its root, given whether
  its encoding is fixed to be UTF-8.
-/
def read
    (bytes : List UInt8)
    (fixed : Bool) : Except Failure (Prolog × Cursor) :=
  match Encoding.detect bytes with
  | .tooShort =>
      (Document.ofBytes bytes .utf8 fixed).fail
        .unclosedToken 0
  | .encoding encoding marked =>
      let document := Document.ofBytes bytes encoding fixed
      let first := Cursor.start document.symbols
      readFrom (2 * bytes.length + 2) (start document)
        (if marked then first.next else first)

end Prolog

end Xml

end Keyspaces
