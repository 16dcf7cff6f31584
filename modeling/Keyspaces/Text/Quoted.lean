import Keyspaces.Text.Printable

/-
  This file defines the quoted form of texts and of byte
  strings, as it appears in messages and records.

  Main definitions:
    * `hex`
    * `quoteFor`
    * `quoted`
    * `quotedBytes`
-/

namespace Keyspaces

namespace Text

------------------------------------------------------------
-- Hexadecimal Digits
------------------------------------------------------------

/- The digit of a value below sixteen. -/
def hexDigit (n : Nat) : Char :=
  if n < 10 then
    Char.ofNat ('0'.toNat + n)
  else
    Char.ofNat ('a'.toNat + (n - 10))

/- The last `width` hexadecimal digits of a number. -/
def hex : (width : Nat) → (n : Nat) → List Char
| 0, _ => []
| width + 1, n =>
    hex width (n / 16) ++ [hexDigit (n % 16)]

------------------------------------------------------------
-- Quotes and Escapes
------------------------------------------------------------

/-
  Single quotes are used unless the content holds a single
  quote and no double quote.
-/
def quoteFor (content : List Char) : Char :=
  if content.contains '\x27' && !content.contains '\x22' then
    '\x22'
  else
    '\x27'

/-
  The written form of a character between quotes, where
  `plain` tells which characters stand for themselves.
-/
def escape
    (quote : Char)
    (plain : Char → Bool)
    (c : Char) : List Char :=
  if c = quote || c = '\\' then
    ['\\', c]
  else if c = '\t' then
    ['\\', 't']
  else if c = '\n' then
    ['\\', 'n']
  else if c = '\r' then
    ['\\', 'r']
  else if plain c then
    [c]
  else if c.toNat < 0x100 then
    '\\' :: 'x' :: hex 2 c.toNat
  else if c.toNat < 0x10000 then
    '\\' :: 'u' :: hex 4 c.toNat
  else
    '\\' :: 'U' :: hex 8 c.toNat

/- A sequence of characters between quotes. -/
def quotedChars
    (plain : Char → Bool)
    (content : List Char) : List Char :=
  let quote := quoteFor content
  quote :: content.flatMap (escape quote plain) ++ [quote]

/- A text between quotes. -/
def quoted (s : String) : String :=
  String.ofList (quotedChars isPrintable s.toList)

------------------------------------------------------------
-- Byte Strings
------------------------------------------------------------

/- A byte that is written as an ASCII character. -/
def isPlainByte (c : Char) : Bool :=
  0x20 ≤ c.toNat && c.toNat < 0x7f

/- A byte string between quotes, marked with a letter. -/
def quotedBytes (bytes : List UInt8) : String :=
  String.ofList
    ('b' :: quotedChars isPlainByte
      (bytes.map fun byte => Char.ofNat byte.toNat))

end Text

end Keyspaces
