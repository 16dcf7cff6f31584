import Keyspaces.Text.Utf8
import Keyspaces.Xml.Fault
import Keyspaces.Xml.Name

/-
  This file defines the symbols that the bytes of a document
  are read as, and the places between them.

  Main definitions:
    * `Xml.Symbol`
    * `Xml.Cursor`
    * `Xml.Stop`
    * `Xml.placeAt`
-/

namespace Keyspaces

open Text

namespace Xml

------------------------------------------------------------
-- Symbols
------------------------------------------------------------

/-
  A symbol is a character with the number of bytes it takes
  and the place it can have in a name, or bytes that are no
  character: invalid ones, of which the first may `lead` as in
  a character of several bytes, the start of a character that is
  cut off by the end, or half of a unit of two bytes.
-/
inductive Symbol
| char (c : Char) (bytes : Nat) (kind : NameKind)
| invalid (bytes : Nat) (leads : Bool)
| cut (bytes : Nat)
| half
deriving DecidableEq, Repr

namespace Symbol

/- The number of bytes of a symbol. -/
def bytes : Symbol → Nat
| .char _ bytes _ => bytes
| .invalid bytes _ => bytes
| .cut bytes => bytes
| .half => 1

/- The symbol of a character of replacement text. -/
def ofChar (c : Char) : Symbol :=
  .char c (Utf8.encodeChar c).length (.ofChar c)

/- The character of a symbol, if it is one. -/
def char? : Symbol → Option Char
| .char c _ _ => some c
| _ => none

/- The symbol is the given character. -/
def isChar (expected : Char) : Symbol → Bool
| .char c _ _ => c == expected
| _ => false

end Symbol

/- The number of bytes of some symbols. -/
def byteCount : List Symbol → Nat
| [] => 0
| symbol :: rest => symbol.bytes + byteCount rest

/- The characters among symbols. -/
def charsOf (symbols : List Symbol) : List Char :=
  symbols.filterMap Symbol.char?

/- Controls and the last two of a plane are no characters. -/
def isXmlChar (c : Char) : Bool :=
  let code := c.toNat
  (0x20 ≤ code || code = 0x9 || code = 0xa || code = 0xd) &&
    code != 0xfffe && code != 0xffff

------------------------------------------------------------
-- Places
------------------------------------------------------------

/-
  A place in a document: the number of symbols before, the
  symbols that follow, and a bound for the number of these.
-/
structure Cursor where
  position : Nat
  rest : List Symbol
  bound : Nat
deriving Repr

/- Why a token cannot be read. -/
inductive Stop
| invalid (position : Nat)
| unclosed
| cut
deriving DecidableEq, Repr

/-
  The line and the column after some symbols. A line ends with
  a line feed, a carriage return, or both in this order.
-/
def advancePlace
    (line column : Nat) :
    List Symbol → Nat × Nat
| [] => (line, column)
| first :: rest =>
    if first.isChar '\n' then
      advancePlace (line + 1) 0 rest
    else if first.isChar '\r' then
      match rest with
      | second :: more =>
          if second.isChar '\n' then
            advancePlace (line + 1) 0 more
          else
            advancePlace (line + 1) 0 (second :: more)
      | [] => (line + 1, 0)
    else
      advancePlace line (column + 1) rest

/- The fault for a reason at a position of a document. -/
def faultAt
    (symbols : List Symbol)
    (reason : Reason)
    (position : Nat) : Fault :=
  let (line, column) :=
    advancePlace 1 0 (symbols.take position)
  ⟨reason, line, column⟩

------------------------------------------------------------
-- Reading Symbols
------------------------------------------------------------

namespace Cursor

/- The place before the first symbol of a text. -/
def start (symbols : List Symbol) : Cursor :=
  ⟨0, symbols, symbols.length⟩

/- The place after the next symbol. -/
def next (cursor : Cursor) : Cursor :=
  ⟨cursor.position + 1, cursor.rest.tail, cursor.bound⟩

/- The place after `count` symbols. -/
def skip (cursor : Cursor) (count : Nat) : Cursor :=
  ⟨cursor.position + count, cursor.rest.drop count,
    cursor.bound⟩

/- Only part of a unit or nothing follows. -/
def atEnd (cursor : Cursor) : Bool :=
  match cursor.rest with
  | [] | [.half] => true
  | _ => false

/-
  The next character with its place in names. There has to be
  one.
-/
def look (cursor : Cursor) : Except Stop (Char × NameKind) :=
  match cursor.rest with
  | [] => .error .unclosed
  | .half :: _ => .error .unclosed
  | .cut _ :: _ => .error .cut
  | .invalid .. :: _ => .error (.invalid cursor.position)
  | .char c _ kind :: _ => .ok (c, kind)

/-
  The next character where one of a few is expected, so that a
  character that is cut off is as wrong as any other.
-/
def lookPlain (cursor : Cursor) : Except Stop Char :=
  match cursor.rest with
  | [] => .error .unclosed
  | .half :: _ => .error .unclosed
  | .char c _ _ :: _ => .ok c
  | _ => .error (.invalid cursor.position)

/- The fault of an unexpected symbol at a place. -/
def unexpected {α : Type} (cursor : Cursor) : Except Stop α :=
  .error (.invalid cursor.position)

/- Go on after a character that has to come next. -/
def expect
    (cursor : Cursor)
    (expected : Char) : Except Stop Cursor := do
  let c ← cursor.lookPlain
  if c = expected then
    .ok cursor.next
  else
    cursor.unexpected

/-
  The symbols that come next and have a property, and the
  place after them.
-/
def span
    (cursor : Cursor)
    (p : Symbol → Bool) : List Symbol × Cursor :=
  let taken := cursor.rest.takeWhile p
  (taken, cursor.skip taken.length)

/- The place after the symbols that have a property. -/
def skipWhile
    (cursor : Cursor)
    (p : Symbol → Bool) : Cursor :=
  (cursor.span p).2

end Cursor

/- The characters that separate the parts of markup. -/
def isSpace (c : Char) : Bool :=
  c = ' ' || c = '\t' || c = '\n' || c = '\r'

namespace Symbol

/- The symbol separates parts of markup. -/
def isSpace : Symbol → Bool
| .char c _ _ => Xml.isSpace c
| _ => false

/- The symbol can stand inside a name. -/
def isName : Symbol → Bool
| .char _ _ kind => kind != .never
| _ => false

/- The symbol is an ASCII digit. -/
def isDigit : Symbol → Bool
| .char c _ _ => isAsciiDigit c
| _ => false

end Symbol

end Xml

end Keyspaces
