/-
  This file defines blank characters and the removal of
  blanks around a text.

  Main definitions:
    * `isBlank`
    * `trimLeft`
    * `trimChars`
    * `trim`
-/

namespace Keyspaces

namespace Text

/-
  White space: the ASCII separators and controls that end or
  space lines, the no-break spaces, the typographic spaces and
  the line and paragraph separators.
-/
def isBlank (c : Char) : Bool :=
  let code := c.toNat
  (0x09 ≤ code && code ≤ 0x0d) ||
  (0x1c ≤ code && code ≤ 0x20) ||
  code == 0x85 || code == 0xa0 || code == 0x1680 ||
  (0x2000 ≤ code && code ≤ 0x200a) ||
  code == 0x2028 || code == 0x2029 ||
  code == 0x202f || code == 0x205f || code == 0x3000

/- Drop the blanks a sequence starts with. -/
def trimLeft (cs : List Char) : List Char :=
  cs.dropWhile isBlank

/- Drop the blanks a sequence ends with. -/
def trimRight (cs : List Char) : List Char :=
  (trimLeft cs.reverse).reverse

/- Drop the blanks on both sides of a sequence. -/
def trimChars (cs : List Char) : List Char :=
  trimRight (trimLeft cs)

/- Drop the blanks on both sides of a text. -/
def trim (s : String) : String :=
  String.ofList (trimChars s.toList)

end Text

end Keyspaces
