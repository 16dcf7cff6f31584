import Keyspaces.Xml.Symbol

/-
  This file defines the markup of documents: references, tags,
  comments and instructions, and how each is read. A token
  that cannot be read stops with the place of the symbol that
  does not fit.

  Main definitions:
    * `Xml.Reference`
    * `Xml.Attribute`
    * `Xml.Markup`
    * `Xml.Cursor.reference`
    * `Xml.Cursor.markup`
-/

namespace Keyspaces

open Text

namespace Xml

/-
  A reference: to a character by its number, which may be none
  of a character, or to an entity by its name.
-/
inductive Reference
| character (code : Option Char)
| entity (name : List Char)
deriving DecidableEq, Repr

/-
  An attribute as written: its name with its place, and the
  symbols of its value with the place of the first.
-/
structure Attribute where
  name : List Char
  namePosition : Nat
  value : List Symbol
  valuePosition : Nat
deriving Repr

/- What follows an opening angle bracket. -/
inductive Markup
| startTag
    (name : List Char) (attributes : List Attribute)
    (empty : Bool)
| endTag (name : List Char) (namePosition : Nat)
| comment
| instruction
| declaration
| characterData
deriving Repr

namespace Cursor

------------------------------------------------------------
-- Names
------------------------------------------------------------

/- Read a character that a name can start with. -/
def nameStart (cursor : Cursor) : Except Stop (Char × Cursor) := do
  let (c, kind) ← cursor.look
  if kind = .start then
    .ok (c, cursor.next)
  else
    cursor.unexpected

/- Read a name without colons. -/
def name
    (cursor : Cursor) : Except Stop (List Char × Cursor) := do
  let (c, after) ← cursor.nameStart
  let (more, after) := after.span Symbol.isName
  .ok (c :: charsOf more, after)

/- Read a name with at most one colon between two parts. -/
def qualifiedName
    (cursor : Cursor) : Except Stop (List Char × Cursor) := do
  let (first, after) ← cursor.name
  let (c, _) ← after.look
  if c = ':' then
    let (second, after) ← after.next.name
    .ok (first ++ ':' :: second, after)
  else
    .ok (first, after)

/- The place after the spaces that come next. -/
def skipSpace (cursor : Cursor) : Cursor :=
  (cursor.span Symbol.isSpace).2

------------------------------------------------------------
-- References
------------------------------------------------------------

/- The value of a hexadecimal digit. -/
def hexValue? (c : Char) : Option Nat :=
  if isAsciiDigit c then some (c.toNat - '0'.toNat)
  else if 'a' ≤ c && c ≤ 'f' then
    some (c.toNat - 'a'.toNat + 10)
  else if 'A' ≤ c && c ≤ 'F' then
    some (c.toNat - 'A'.toNat + 10)
  else none

/- The symbol is a hexadecimal digit. -/
def isHexDigit : Symbol → Bool
| .char c _ _ => (hexValue? c).isSome
| _ => false

/- The character with a number that digits denote. -/
def numbered
    (base : Nat)
    (digits : List Char) : Option Char :=
  let code := digits.foldl
    (fun n c =>
      min 0x110000 (base * n + (hexValue? c).getD 0)) 0
  if h : code.isValidChar then
    let c := Char.ofNatAux code h
    if isXmlChar c then some c else none
  else
    none

/- Read the digits of a reference and what ends it. -/
def characterNumber
    (cursor : Cursor)
    (base : Nat)
    (isDigit : Symbol → Bool) :
    Except Stop (Reference × Cursor) := do
  let (digits, after) := cursor.span isDigit
  let c ← after.lookPlain
  if digits.isEmpty || c != ';' then
    after.unexpected
  else
    .ok (.character (numbered base (charsOf digits)),
      after.next)

/- Read a reference after its ampersand. -/
def reference
    (cursor : Cursor) : Except Stop (Reference × Cursor) := do
  let (c, _) ← cursor.look
  if c = '#' then
    let d ← cursor.next.lookPlain
    if d = 'x' then
      cursor.next.next.characterNumber 16 isHexDigit
    else
      cursor.next.characterNumber 10 Symbol.isDigit
  else
    let (name, after) ← cursor.name
    let (d, _) ← after.look
    if d = ';' then
      .ok (.entity name, after.next)
    else
      after.unexpected

------------------------------------------------------------
-- Attributes
------------------------------------------------------------

/-
  Read an attribute value up to its closing quote. References
  in it have to be well formed. `fuel` bounds the symbols.
-/
def attributeValue
    (quote : Char) :
    (fuel : Nat) → Cursor → Except Stop Cursor
| 0, _ => .error .unclosed
| fuel + 1, cursor => do
    let (c, _) ← cursor.look
    if c = quote then
      .ok cursor
    else if c = '&' then
      let (_, after) ← cursor.next.reference
      attributeValue quote fuel after
    else if c = '<' then
      cursor.unexpected
    else
      attributeValue quote fuel cursor.next

/- Read an attribute. -/
def attributeEntry
    (cursor : Cursor) : Except Stop (Attribute × Cursor) := do
  let (name, after) ← cursor.qualifiedName
  let beforeSign := after.skipSpace
  let sign ←
    if after.position = beforeSign.position then
      (after.look).map Prod.fst
    else
      beforeSign.lookPlain
  if sign != '=' then
    beforeSign.unexpected
  else
    let opening := beforeSign.next.skipSpace
    let quote ← opening.lookPlain
    if quote = '\x22' || quote = '\x27' then
      let first := opening.next
      let closing ←
        attributeValue quote (first.bound + 1) first
      let count := closing.position - first.position
      .ok
        ({ name := name
           namePosition := cursor.position
           value := first.rest.take count
           valuePosition := first.position },
          closing.next)
    else
      opening.unexpected

/-
  Read the end of a start tag, if it comes next: whether the
  element is empty.
-/
def tagEnd?
    (cursor : Cursor)
    (c : Char) : Except Stop (Option (Bool × Cursor)) :=
  if c = '>' then
    .ok (some (false, cursor.next))
  else if c = '/' then
    (cursor.next.expect '>').map fun after =>
      some (true, after)
  else
    .ok none

/-
  Read attributes and the end of a start tag. `spaced` tells
  that a space comes before, without which no attribute can
  follow. `fuel` bounds the attributes.
-/
def attributesFrom :
    (fuel : Nat) → (spaced : Bool) → List Attribute →
    Cursor → Except Stop (List Attribute × Bool × Cursor)
| 0, _, _, _ => .error .unclosed
| fuel + 1, spaced, done, cursor => do
    let (c, kind) ←
      if spaced then cursor.look
      else (cursor.lookPlain).map fun c => (c, NameKind.never)
    match ← cursor.tagEnd? c with
    | some (empty, after) => .ok (done.reverse, empty, after)
    | none =>
        if isSpace c then
          attributesFrom fuel true done cursor.skipSpace
        else if spaced && kind = .start then
          let (entry, after) ← cursor.attributeEntry
          attributesFrom fuel false (entry :: done) after
        else
          cursor.unexpected

------------------------------------------------------------
-- Tags
------------------------------------------------------------

/- Read a start tag from its name on. -/
def startTag
    (cursor : Cursor) : Except Stop (Markup × Cursor) := do
  let (name, after) ← cursor.qualifiedName
  let (c, _) ← after.look
  if isSpace c || c = '>' || c = '/' then
    let (attributes, empty, after) ←
      attributesFrom (2 * after.bound + 1) false []
        after
    .ok (.startTag name attributes empty, after)
  else
    after.unexpected

/- The symbol can stand in the name of an end tag. -/
def isTagName (symbol : Symbol) : Bool :=
  symbol.isName || symbol.isChar ':'

/- Read an end tag from its name on. -/
def endTag
    (cursor : Cursor) : Except Stop (Markup × Cursor) := do
  let (c, after) ← cursor.nameStart
  let (more, after) := after.span isTagName
  let tag := Markup.endTag (c :: charsOf more) cursor.position
  let (d, _) ← after.look
  if d = '>' then
    .ok (tag, after.next)
  else if isSpace d then
    (after.skipSpace.expect '>').map fun after => (tag, after)
  else
    after.unexpected

------------------------------------------------------------
-- Comments and Instructions
------------------------------------------------------------

/-
  Read a comment up to its end. Two dashes have to be followed
  by a closing angle bracket. `fuel` bounds the symbols.
-/
def commentBody :
    (fuel : Nat) → Cursor → Except Stop Cursor
| 0, _ => .error .unclosed
| fuel + 1, cursor => do
    let (c, _) ← cursor.look
    if c = '-' then
      let second := cursor.next
      match second.rest with
      | .char '-' _ _ :: _ => second.next.expect '>'
      | [] | [.half] => .error .unclosed
      | _ => commentBody fuel second
    else
      commentBody fuel cursor.next

/- Read a comment after its first dash. -/
def comment (cursor : Cursor) : Except Stop Cursor := do
  let body ← cursor.expect '-'
  commentBody (body.bound + 1) body

/- Read an instruction up to its end. -/
def instructionBody :
    (fuel : Nat) → Cursor → Except Stop Cursor
| 0, _ => .error .unclosed
| fuel + 1, cursor => do
    let (c, _) ← cursor.look
    if c = '?' then
      match cursor.next.rest with
      | .char '>' _ _ :: _ => .ok cursor.next.next
      | [] | [.half] => .error .unclosed
      | _ => instructionBody fuel cursor.next
    else
      instructionBody fuel cursor.next

/-
  What an instruction with a target is. The target that spells
  the name of the format in small letters is a declaration,
  and in other letters not allowed.
-/
def instructionKind? (target : List Char) : Option Markup :=
  if target = ['x', 'm', 'l'] then
    some .declaration
  else if target.map Char.toLower = ['x', 'm', 'l'] then
    none
  else
    some .instruction

/- Read an instruction after its question mark. -/
def instruction
    (cursor : Cursor) : Except Stop (Markup × Cursor) := do
  let (target, after) ← cursor.name
  let (c, _) ← after.look
  match instructionKind? target with
  | none => after.unexpected
  | some kind =>
      if isSpace c then
        let body := after.next
        (instructionBody (body.bound + 1) body).map
          fun after => (kind, after)
      else if c = '?' then
        (after.next.expect '>').map fun after => (kind, after)
      else
        after.unexpected

------------------------------------------------------------
-- Markup
------------------------------------------------------------

/- The characters after the bracket of character data. -/
def dataKeyword : List Char :=
  ['C', 'D', 'A', 'T', 'A', '[']

/- Read given characters. -/
def keyword
    (cursor : Cursor) : List Char → Except Stop Cursor
| [] => .ok cursor
| c :: more => do
    let after ← cursor.expect c
    after.keyword more

/- The number of bytes among the next symbols. -/
def bytesAhead (cursor : Cursor) (count : Nat) : Nat :=
  byteCount (cursor.rest.take count)

/-
  Read the opening of character data after its bracket. With
  fewer bytes left than the opening takes it is not closed,
  whatever they are.
-/
def dataOpening
    (cursor : Cursor)
    (unitSize : Nat) : Except Stop Cursor :=
  if cursor.bytesAhead 6 < 6 * unitSize then
    .error .unclosed
  else
    cursor.keyword dataKeyword

/- Read markup in content after its angle bracket. -/
def markup
    (cursor : Cursor)
    (unitSize : Nat) : Except Stop (Markup × Cursor) := do
  let (c, kind) ← cursor.look
  if kind = .start then
    cursor.startTag
  else if c = '!' then
    let second := cursor.next
    let d ← second.lookPlain
    if d = '-' then
      (second.next.comment).map fun after =>
        (.comment, after)
    else if d = '[' then
      (second.next.dataOpening unitSize).map fun after =>
        (.characterData, after)
    else
      second.unexpected
  else if c = '?' then
    cursor.next.instruction
  else if c = '/' then
    cursor.next.endTag
  else
    cursor.unexpected

end Cursor

end Xml

end Keyspaces
