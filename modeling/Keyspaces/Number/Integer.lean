import Keyspaces.Text.Blank
import Keyspaces.Text.Digit

/-
  This file defines the texts that denote integers. There are
  two readings: the strict one takes a sign and ASCII digits,
  the liberal one also takes blanks around the number, digits
  of all scripts and single underscores between digits. An
  integer with too many digits is neither read nor written.

  Main definitions:
    * `Integer.ofDigits`
    * `Integer.digitLimit`
    * `Integer.isWritable`
    * `Integer.Reading`
    * `Integer.readStrict`
    * `Integer.readLiberal`
-/

namespace Keyspaces

namespace Number

namespace Integer

------------------------------------------------------------
-- Digits and Signs
------------------------------------------------------------

/- The value of an ASCII digit. -/
def digitValue (c : Char) : Nat :=
  c.toNat - '0'.toNat

/- The number that a row of ASCII digits denotes. -/
def ofDigits (digits : List Char) : Nat :=
  digits.foldl (fun n c => 10 * n + digitValue c) 0

/- Take the sign off a row of characters. -/
def takeSign : List Char → Bool × List Char
| '-' :: rest => (true, rest)
| '+' :: rest => (false, rest)
| cs => (false, cs)

/- A magnitude with its sign. -/
def signed (negative : Bool) (n : Nat) : Int :=
  if negative then -(n : Int) else n

/- No text with more digits than this is read or written. -/
def digitLimit : Nat := 4300

/- The integer has a text with no more digits than that. -/
def isWritable (n : Int) : Bool :=
  n.natAbs < Nat.pow 10 digitLimit

/- The outcome of reading a text as an integer. -/
inductive Reading
| value (n : Int)
| malformed
| tooLong (digits : Nat)
deriving DecidableEq, Repr

------------------------------------------------------------
-- Strict Reading
------------------------------------------------------------

/-
  A sign and at least one ASCII digit, and nothing else but
  one line end after them.
-/
def isStrict (cs : List Char) : Bool :=
  let digits := (takeSign cs).2
  let tail := digits.dropWhile Text.isAsciiDigit
  !(digits.takeWhile Text.isAsciiDigit).isEmpty &&
    (tail.isEmpty || tail == ['\n'])

/- Read a text of the strict form. -/
def readStrict (s : String) : Reading :=
  if isStrict s.toList then
    let (negative, rest) := takeSign s.toList
    let digits := rest.takeWhile Text.isAsciiDigit
    if digitLimit < digits.length then
      .tooLong digits.length
    else
      .value (signed negative (ofDigits digits))
  else
    .malformed

------------------------------------------------------------
-- Liberal Reading
------------------------------------------------------------

/- The ASCII blanks that may surround a number. -/
def isSpace (c : Char) : Bool :=
  c = ' ' || (0x09 ≤ c.toNat && c.toNat ≤ 0x0d)

/-
  Digits of all scripts become ASCII digits and blanks become
  spaces. The text ends for the reader, with a mark that is
  part of no number, at the first other character that is not
  ASCII.
-/
def toAscii : List Char → List Char
| [] => []
| c :: rest =>
    if c.toNat < 0x7f then
      c :: toAscii rest
    else if Text.isBlank c then
      ' ' :: toAscii rest
    else
      match Text.digitValue? c with
      | some n =>
          Char.ofNat ('0'.toNat + n) :: toAscii rest
      | none => ['?']

/- A character of the body of a number. -/
def isBody (c : Char) : Bool :=
  Text.isAsciiDigit c || c = '_'

/-
  Underscores stand only between two digits.
-/
def underscoresInside : List Char → Bool
| [] => true
| '_' :: _ => false
| c :: rest => go c rest
where
  /- The rest of a body after a character. -/
  go (previous : Char) : List Char → Bool
  | [] => previous != '_'
  | c :: rest =>
      !(previous == '_' && c == '_') && go c rest

/- Read ASCII characters by the liberal rule. -/
def readAscii (cs : List Char) : Reading :=
  let (negative, rest) := takeSign (cs.dropWhile isSpace)
  let body := rest.takeWhile isBody
  let tail := (rest.dropWhile isBody).dropWhile isSpace
  let digits := body.filter Text.isAsciiDigit
  if body.isEmpty || !underscoresInside body then
    .malformed
  else if digitLimit < digits.length then
    .tooLong digits.length
  else if tail.isEmpty then
    .value (signed negative (ofDigits digits))
  else
    .malformed

/- Read a text by the liberal rule. -/
def readLiberal (s : String) : Reading :=
  let cs := s.toList
  readAscii
    (if cs.all fun c => c.toNat < 0x80 then cs
    else toAscii cs)

/- Read bytes by the liberal rule, as ASCII characters. -/
def readBytes (bytes : List UInt8) : Reading :=
  readAscii (bytes.map fun byte => Char.ofNat byte.toNat)

end Integer

end Number

end Keyspaces
