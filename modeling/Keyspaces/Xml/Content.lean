import Keyspaces.Xml.Element
import Keyspaces.Xml.Namespace

/-
  This file defines the reading of the content of a document:
  elements inside one another, text, and the replacement texts
  of entities.

  Main definitions:
    * `Xml.Frame`
    * `Xml.Content`
    * `Xml.Report`
    * `Xml.Content.read`
-/

namespace Keyspaces

open Text

namespace Xml

------------------------------------------------------------
-- Open Elements
------------------------------------------------------------

/-
  An element that is not closed yet. Its text and its children
  are held in reverse, and the bindings outside of it are kept
  for when it closes.
-/
structure Frame where
  name : List Char
  tag : String
  attributes : List (String × String)
  text : List Char
  children : List Element
  outside : Bindings

/- A reason with the place that it is reported at. -/
abbrev Report :=
  Reason × Nat

/-
  What is known inside of the content: the open elements, the
  root when it is closed, and the first report of an entity
  that is used and not declared, which does not end the
  reading but makes it fail.
-/
structure Content where
  declarations : Declarations
  bindings : Bindings
  frames : List Frame
  root : Option Element
  reported : Option Report

namespace Content

/- The content before the root. -/
def start (declarations : Declarations) : Content :=
  { declarations := declarations
    bindings := .initial
    frames := []
    root := none
    reported := none }

/- The failure at a place, or that which was reported first. -/
def fail {α : Type}
    (content : Content)
    (reason : Reason)
    (position : Nat) : Except Report α :=
  .error (content.reported.getD (reason, position))

/-
  Add characters given in order. Text after a child belongs to
  no element.
-/
def addText
    (content : Content)
    (chars : List Char) : Content :=
  match content.frames with
  | frame :: outer =>
      if frame.children.isEmpty then
        { content with
          frames :=
            { frame with text := chars.reverse ++ frame.text } ::
              outer }
      else
        content
  | [] => content

/- Open an element. -/
def openFrame
    (content : Content)
    (name : List Char)
    (opened : OpenElement) : Content :=
  { content with
    bindings := opened.bindings
    frames :=
      { name := name
        tag := opened.tag
        attributes := opened.attributes
        text := []
        children := []
        outside := content.bindings } :: content.frames }

/- The element of a frame. -/
def Frame.element (frame : Frame) : Element :=
  .node frame.tag frame.attributes
    (String.ofList frame.text.reverse)
    frame.children.reverse

/- Close the innermost element. -/
def closeFrame (content : Content) : Content :=
  match content.frames with
  | [] => content
  | [frame] =>
      { content with
        bindings := frame.outside
        frames := []
        root := some (Frame.element frame) }
  | frame :: parent :: outer =>
      { content with
        bindings := frame.outside
        frames :=
          { parent with
            children :=
              Frame.element frame :: parent.children } ::
            outer }

------------------------------------------------------------
-- Undeclared Entities
------------------------------------------------------------

/- The bytes of a reference that a report can show. -/
def shownBytes : Nat := 100

/-
  The characters that take no more than some bytes. One that
  is cut by the limit is replaced.
-/
def limited : (bytes : Nat) → List Char → List Char
| _, [] => []
| bytes, c :: rest =>
    let size := (Utf8.encodeChar c).length
    if size ≤ bytes then
      c :: limited (bytes - size) rest
    else if bytes = 0 then
      []
    else
      ['\ufffd']

/- What a report shows of a reference to an entity. -/
def shownReference (name : List Char) : String :=
  String.ofList (limited shownBytes ('&' :: name ++ [';']))

/- Report a reference to an entity that is not here. -/
def report
    (content : Content)
    (name : List Char)
    (position : Nat) : Content :=
  match content.reported with
  | some _ => content
  | none =>
      { content with
        reported :=
          some (.undeclaredEntity (shownReference name),
            position) }

------------------------------------------------------------
-- Character Data
------------------------------------------------------------

/- The symbol is a character of a run of text. -/
def isPlain : Symbol → Bool
| .char c _ _ =>
    !(c = '<' || c = '&' || c = ']' || isLineEnd c)
| _ => false

/-
  A carriage return is the last character, so that a line feed
  might still come after it.
-/
def isLastReturn (c : Char) (after : List Symbol) : Bool :=
  c = '\r' &&
    match after with
    | [] | [.half] => true
    | _ => false

/-
  Read character data up to its end. `place` gives the place
  that a report at a symbol has. `fuel` bounds the symbols.
-/
def characterData
    (place : Nat → Nat) :
    (fuel : Nat) → Content → Cursor →
    Except Report (Content × Cursor)
| 0, content, cursor =>
    content.fail .unclosedCData (place cursor.position)
| fuel + 1, content, cursor =>
    let here := place cursor.position
    match cursor.rest with
    | [] => content.fail .unclosedCData here
    | .half :: _ => content.fail .unclosedCData here
    | .cut _ :: _ => content.fail .partialCharacter here
    | .invalid .. :: _ => content.fail .invalidToken here
    | .char c _ _ :: after =>
        if c = ']' then
          match after with
          | [] | [.half] => content.fail .unclosedCData here
          | [.char ']' _ _] | [.char ']' _ _, .half] =>
              content.fail .unclosedCData here
          | .char ']' _ _ :: .char '>' _ _ :: _ =>
              .ok (content, cursor.skip 3)
          | _ =>
              characterData place fuel
                (content.addText [']']) cursor.next
        else if isLineEnd c then
          if isLastReturn c after then
            content.fail .unclosedCData here
          else
            characterData place fuel
              (content.addText ['\n']) cursor.skipLineEnd
        else
          characterData place fuel (content.addText [c])
            cursor.next

------------------------------------------------------------
-- Content
------------------------------------------------------------

/-
  Where content is read: the document itself with the size of
  its units, or the replacement text of an entity, where all
  reports have the place of the reference outside.
-/
inductive Origin
| document (unitSize : Nat)
| entity (position : Nat)
deriving DecidableEq, Repr

namespace Origin

/- The place that a report at a symbol has. -/
def place (origin : Origin) (position : Nat) : Nat :=
  match origin with
  | .document _ => position
  | .entity outside => outside

/- The content is that of the document itself. -/
def isDocument : Origin → Bool
| .document _ => true
| .entity _ => false

/- The size of the units of bytes. -/
def unitSize : Origin → Nat
| .document unitSize => unitSize
| .entity _ => 1

end Origin

/- The failure to read the token at a place. -/
def failToken {α : Type}
    (content : Content)
    (origin : Origin)
    (start : Nat)
    (stop : Stop) : Except Report α :=
  match stop with
  | .invalid position =>
      content.fail .invalidToken (origin.place position)
  | .unclosed =>
      content.fail .unclosedToken (origin.place start)
  | .cut =>
      content.fail .partialCharacter (origin.place start)

/- Open the element of a start tag, and close an empty one. -/
def openTag
    (content : Content)
    (origin : Origin)
    (opened : List (List Char))
    (start : Nat)
    (name : List Char)
    (attributes : List Attribute)
    (empty : Bool) : Except Report Content :=
  match openElement content.declarations opened
      content.bindings name attributes with
  | .error problem =>
      content.fail problem.reason
        (origin.place (problem.position.getD start))
  | .ok element =>
      let inside := content.openFrame name element
      .ok (if empty then inside.closeFrame else inside)

/-
  Close the element of an end tag. It has to have been opened
  in the same text, which started inside `level` elements.
-/
def closeTag
    (content : Content)
    (origin : Origin)
    (level start : Nat)
    (name : List Char)
    (namePosition : Nat) : Except Report Content :=
  if content.frames.length = level then
    content.fail .asynchronousEntity (origin.place start)
  else if (content.frames.head?.map Frame.name) = some name then
    .ok content.closeFrame
  else
    content.fail .mismatchedTag (origin.place namePosition)

/-
  Read the reference to an entity, where `nested` reads its
  replacement text.
-/
def readEntity
    (content : Content)
    (origin : Origin)
    (opened : List (List Char))
    (nested :
      List (List Char) → Nat → List Symbol → Content →
      Except Report Content)
    (start : Nat)
    (name : List Char) : Except Report Content :=
  let here := origin.place start
  match predefined? name with
  | some c => .ok (content.addText [c])
  | none =>
      match content.declarations.entity? name with
      | none =>
          if content.declarations.complete then
            content.fail .undefinedEntity here
          else
            .ok (content.report name here)
      | some entity =>
          if opened.contains name then
            content.fail .recursiveEntity here
          else
            match entity with
            | .binary => content.fail .binaryEntity here
            | .external => .ok (content.report name here)
            | .internal text =>
                nested (name :: opened) here text content

/-
  Read content up to the end of the root, or that of the
  replacement text of an entity. `fuel` bounds the symbols.
-/
def readFrom
    (origin : Origin)
    (opened : List (List Char))
    (level : Nat)
    (nested :
      List (List Char) → Nat → List Symbol → Content →
      Except Report Content) :
    (fuel : Nat) → Content → Cursor →
    Except Report (Content × Cursor)
| 0, content, cursor => .ok (content, cursor)
| fuel + 1, content, cursor =>
    let start := cursor.position
    let here := origin.place start
    let go := readFrom origin opened level nested fuel
    match cursor.rest with
    | [] =>
        match origin with
        | .document _ => content.fail .noElement here
        | .entity _ =>
            if content.frames.length = level then
              .ok (content, cursor)
            else
              content.fail .asynchronousEntity here
    | .half :: _ => content.fail .unclosedToken here
    | .cut _ :: _ => content.fail .partialCharacter here
    | .invalid .. :: _ => content.fail .invalidToken here
    | .char c _ _ :: after =>
        if c = '<' then
          match cursor.next.markup origin.unitSize with
          | .error stop => content.failToken origin start stop
          | .ok (.comment, after) => go content after
          | .ok (.instruction, after) => go content after
          | .ok (.declaration, _) =>
              content.fail .misplacedDeclaration here
          | .ok (.characterData, after) =>
              match characterData origin.place
                  (after.bound + 1) content after with
              | .error report => .error report
              | .ok (content, after) => go content after
          | .ok (.startTag name attributes empty, after) =>
              match content.openTag origin opened start name
                  attributes empty with
              | .error report => .error report
              | .ok content =>
                  if content.frames.isEmpty then
                    .ok (content, after)
                  else
                    go content after
          | .ok (.endTag name namePosition, after) =>
              match content.closeTag origin level start name
                  namePosition with
              | .error report => .error report
              | .ok content =>
                  if content.frames.isEmpty then
                    .ok (content, after)
                  else
                    go content after
        else if c = '&' then
          match cursor.next.reference with
          | .error stop => content.failToken origin start stop
          | .ok (.character none, _) =>
              content.fail .invalidCharacterNumber here
          | .ok (.character (some d), after) =>
              go (content.addText [d]) after
          | .ok (.entity name, after) =>
              match content.readEntity origin opened nested
                  start name with
              | .error report => .error report
              | .ok content => go content after
        else if c = ']' then
          match after with
          | .char ']' _ _ :: .char '>' _ _ :: _ =>
              content.fail .invalidToken
                (origin.place (start + 2))
          | _ => go (content.addText [']']) cursor.next
        else if isLineEnd c then
          if origin.isDocument && isLastReturn c after then
            content.fail .noElement here
          else
            go (content.addText ['\n']) cursor.skipLineEnd
        else
          let (run, after) := cursor.span isPlain
          go (content.addText (charsOf run)) after

/-
  Read the replacement text of an entity. `depth` bounds the
  nesting of entities.
-/
def readNested :
    (depth : Nat) → (opened : List (List Char)) →
    (position : Nat) → List Symbol → Content →
    Except Report Content
| 0, _, _, _, content => .ok content
| depth + 1, opened, position, text, content =>
    (readFrom (.entity position) opened content.frames.length
      (readNested depth) (text.length + 1) content
      (.start text)).map Prod.fst

/- Read the root of a document that starts at a place. -/
def read
    (declarations : Declarations)
    (unitSize : Nat)
    (cursor : Cursor) : Except Report (Content × Cursor) :=
  readFrom (.document unitSize) [] 0
    (readNested (declarations.entities.length + 1))
    (cursor.bound + 1) (start declarations) cursor

end Content

end Xml

end Keyspaces
