import Keyspaces.Xml.Symbol

/-
  This file defines the encodings of documents: how bytes are
  read as symbols, and how the encoding of a document is known
  from its first bytes.

  Main definitions:
    * `Xml.Encoding`
    * `Xml.Encoding.decode`
    * `Xml.Encoding.detect`
-/

namespace Keyspaces

namespace Xml

/-
  The encodings: UTF-8, UTF-16 in either order of bytes, and
  encodings of single bytes given by the characters that they
  stand for.
-/
inductive Encoding
| utf8
| utf16 (bigEndian : Bool)
| latin1
| ascii
| singleByte (table : List (Option Char))
deriving DecidableEq, Repr

namespace Encoding

/- The number of bytes of the smallest character. -/
def unitSize : Encoding → Nat
| .utf16 _ => 2
| _ => 1

/- A character, which counts as invalid if XML excludes it. -/
def symbolOf
    (c : Char)
    (bytes : Nat)
    (kind : NameKind) : Symbol :=
  if isXmlChar c then .char c bytes kind
  else .invalid bytes false

------------------------------------------------------------
-- UTF-8
------------------------------------------------------------

/- The number of bytes that a first byte announces. -/
def announced (first : Nat) : Nat :=
  if first < 0xc0 then 1
  else if first < 0xe0 then 2
  else if first < 0xf0 then 3
  else if first < 0xf5 then 4
  else 1

/-
  The symbol at the start of bytes and the bytes after it. An
  invalid sequence is left one byte at a time.
-/
def nextUtf8 (bytes : List UInt8) : Symbol × List UInt8 :=
  match bytes with
  | [] => (.cut 0, [])
  | first :: rest =>
      let count := announced first.toNat
      if bytes.length < count then
        (.cut bytes.length, [])
      else
        match Text.Utf8.next bytes with
        | .char c size after =>
            match symbolOf c size (.ofChar c) with
            | .invalid .. => (.invalid 1 (1 < count), rest)
            | symbol => (symbol, after)
        | _ => (.invalid 1 (1 < count), rest)

/- Read bytes in UTF-8. `fuel` bounds the symbols. -/
def readUtf8 : (fuel : Nat) → List UInt8 → List Symbol
| 0, _ => []
| _, [] => []
| fuel + 1, bytes =>
    let (symbol, rest) := nextUtf8 (bytes.take 4)
    match symbol with
    | .cut _ => [symbol]
    | _ =>
        symbol :: readUtf8 fuel
          (bytes.drop ((bytes.take 4).length - rest.length))

------------------------------------------------------------
-- UTF-16
------------------------------------------------------------

/- The unit of two bytes. -/
def unitOf
    (bigEndian : Bool)
    (first second : UInt8) : Nat :=
  if bigEndian then
    first.toNat * 0x100 + second.toNat
  else
    second.toNat * 0x100 + first.toNat

/- The units of bytes, and whether half a unit is left. -/
def unitsOf
    (bigEndian : Bool) :
    List UInt8 → List Nat × Bool
| [] => ([], false)
| [_] => ([], true)
| first :: second :: rest =>
    let (units, half) := unitsOf bigEndian rest
    (unitOf bigEndian first second :: units, half)

/- The kind of a character of a single unit. -/
def unitKind (c : Char) : NameKind :=
  if c.toNat < 0x100 then .ofByteChar c else .ofChar c

/-
  Read units. The first unit of a pair goes together with
  whatever unit follows it.
-/
def readUnits : List Nat → List Symbol
| [] => []
| unit :: rest =>
    if 0xd800 ≤ unit && unit < 0xdc00 then
      match rest with
      | [] => [.cut 2]
      | low :: more =>
          let c := Char.ofNat
            (0x10000 + unit % 0x400 * 0x400 + low % 0x400)
          .char c 4 .never :: readUnits more
    else if 0xdc00 ≤ unit && unit < 0xe000 then
      .invalid 2 false :: readUnits rest
    else
      symbolOf (Char.ofNat unit) 2
          (unitKind (Char.ofNat unit)) ::
        readUnits rest

/- Read bytes in UTF-16. -/
def readUtf16
    (bigEndian : Bool)
    (bytes : List UInt8) : List Symbol :=
  let (units, half) := unitsOf bigEndian bytes
  readUnits units ++ (if half then [.half] else [])

------------------------------------------------------------
-- Single Bytes
------------------------------------------------------------

/- The symbol of a byte that is its own character. -/
def latin1Symbol (byte : UInt8) : Symbol :=
  let c := Char.ofNat byte.toNat
  symbolOf c 1 (.ofByteChar c)

/- The symbol of a byte that has to be ASCII. -/
def asciiSymbol (byte : UInt8) : Symbol :=
  if byte.toNat < 0x80 then latin1Symbol byte
  else .invalid 1 false

/- The symbol of a byte by a table of characters. -/
def tableSymbol
    (table : List (Option Char))
    (byte : UInt8) : Symbol :=
  match table[byte.toNat]? with
  | some (some c) => symbolOf c 1 (.ofChar c)
  | _ => .invalid 1 false

------------------------------------------------------------
-- Decoding and Detection
------------------------------------------------------------

/- Read bytes as symbols. -/
def decode
    (encoding : Encoding)
    (bytes : List UInt8) : List Symbol :=
  match encoding with
  | .utf8 => readUtf8 bytes.length bytes
  | .utf16 bigEndian => readUtf16 bigEndian bytes
  | .latin1 => bytes.map latin1Symbol
  | .ascii => bytes.map asciiSymbol
  | .singleByte table => bytes.map (tableSymbol table)

/-
  What the first bytes of a document tell: its encoding and
  whether a byte order mark comes first, or that there are too
  few of them.
-/
inductive Detection
| encoding (encoding : Encoding) (marked : Bool)
| tooShort
deriving DecidableEq, Repr

/- Look at the first bytes of a document. -/
def detect (bytes : List UInt8) : Detection :=
  match bytes with
  | [] => .encoding .utf8 false
  | [a] =>
      if a = 0xfe || a = 0xff || a = 0xef || a = 0x00 ||
          a = 0x3c then
        .tooShort
      else
        .encoding .utf8 false
  | a :: b :: rest =>
      if a = 0xfe && b = 0xff then
        .encoding (.utf16 true) true
      else if a = 0xff && b = 0xfe then
        .encoding (.utf16 false) true
      else if a = 0xef && b = 0xbb then
        match rest with
        | [] => .tooShort
        | c :: _ => .encoding .utf8 (c = 0xbf)
      else if a = 0x00 then
        .encoding (.utf16 true) false
      else if b = 0x00 then
        .encoding (.utf16 false) false
      else
        .encoding .utf8 false

end Encoding

end Xml

end Keyspaces
