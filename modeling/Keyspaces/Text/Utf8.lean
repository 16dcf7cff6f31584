/-
  This file defines the UTF-8 form of texts, reading it one
  character at a time so that a fault is known by its place
  and its kind.

  Main definitions:
    * `Utf8.encodeChar`
    * `Utf8.encode`
    * `Utf8.next`
    * `Utf8.Fault`
    * `Utf8.decodePart`
-/

namespace Keyspaces

namespace Text

namespace Utf8

------------------------------------------------------------
-- Writing
------------------------------------------------------------

/- The bytes of one character. -/
def encodeChar (c : Char) : List UInt8 :=
  let n := c.toNat
  if n < 0x80 then
    [n.toUInt8]
  else if n < 0x800 then
    [(0xc0 + n / 0x40).toUInt8,
      (0x80 + n % 0x40).toUInt8]
  else if n < 0x10000 then
    [(0xe0 + n / 0x1000).toUInt8,
      (0x80 + n / 0x40 % 0x40).toUInt8,
      (0x80 + n % 0x40).toUInt8]
  else
    [(0xf0 + n / 0x40000).toUInt8,
      (0x80 + n / 0x1000 % 0x40).toUInt8,
      (0x80 + n / 0x40 % 0x40).toUInt8,
      (0x80 + n % 0x40).toUInt8]

/- The bytes of a text. -/
def encode (s : String) : List UInt8 :=
  s.toList.flatMap encodeChar

/- The number of bytes of a sequence of characters. -/
def size : List Char → Nat
| [] => 0
| c :: rest => (encodeChar c).length + size rest

------------------------------------------------------------
-- Reading One Character
------------------------------------------------------------

/- What is wrong with the bytes at a place. -/
inductive Reason
| invalidStart
| invalidContinuation
| unexpectedEnd
deriving DecidableEq, Repr

/- The outcome of reading one character. -/
inductive Step
| char (c : Char) (size : Nat) (rest : List UInt8)
| bad (size : Nat) (reason : Reason)
| cut
deriving Repr

/- The number of bytes a first byte announces. -/
def announced? (first : Nat) : Option Nat :=
  if first < 0x80 then some 1
  else if first < 0xc2 then none
  else if first < 0xe0 then some 2
  else if first < 0xf0 then some 3
  else if first < 0xf5 then some 4
  else none

/-
  The second byte can follow the first. The bounds exclude
  long forms, surrogates and codes past the last one.
-/
def continues
    (first second : Nat) : Bool :=
  let low :=
    if first = 0xe0 then 0xa0
    else if first = 0xf0 then 0x90
    else 0x80
  let high :=
    if first = 0xed then 0x9f
    else if first = 0xf4 then 0x8f
    else 0xbf
  low ≤ second && second ≤ high

/- A byte that can stand in third or fourth place. -/
def isContinuation (byte : Nat) : Bool :=
  0x80 ≤ byte && byte < 0xc0

/- Read the character that a sequence of bytes starts with. -/
def next : List UInt8 → Step
| [] => .cut
| b₁ :: r₁ =>
    let n₁ := b₁.toNat
    match announced? n₁ with
    | none => .bad 1 .invalidStart
    | some 1 => .char (Char.ofNat n₁) 1 r₁
    | some count =>
        match r₁ with
        | [] => .cut
        | b₂ :: r₂ =>
            let n₂ := b₂.toNat
            if !continues n₁ n₂ then
              .bad 1 .invalidContinuation
            else if count = 2 then
              .char
                (Char.ofNat ((n₁ - 0xc0) * 0x40 + (n₂ - 0x80)))
                2 r₂
            else
              match r₂ with
              | [] => .cut
              | b₃ :: r₃ =>
                  let n₃ := b₃.toNat
                  if !isContinuation n₃ then
                    .bad 2 .invalidContinuation
                  else if count = 3 then
                    .char
                      (Char.ofNat ((n₁ - 0xe0) * 0x1000 +
                        (n₂ - 0x80) * 0x40 + (n₃ - 0x80)))
                      3 r₃
                  else
                    match r₃ with
                    | [] => .cut
                    | b₄ :: r₄ =>
                        let n₄ := b₄.toNat
                        if !isContinuation n₄ then
                          .bad 3 .invalidContinuation
                        else
                          .char
                            (Char.ofNat
                              ((n₁ - 0xf0) * 0x40000 +
                                (n₂ - 0x80) * 0x1000 +
                                (n₃ - 0x80) * 0x40 +
                                (n₄ - 0x80)))
                            4 r₄

------------------------------------------------------------
-- Reading a Part
------------------------------------------------------------

/-
  A fault: the bytes from `start`, `size` in number, are not
  the form of a character.
-/
structure Fault where
  start : Nat
  size : Nat
  first : UInt8
  reason : Reason
deriving DecidableEq, Repr

namespace Reason

/- The words for what is wrong. -/
def message : Reason → String
| .invalidStart => "invalid start byte"
| .invalidContinuation => "invalid continuation byte"
| .unexpectedEnd => "unexpected end of data"

end Reason

namespace Fault

/- The account of a fault. -/
def message (fault : Fault) : String :=
  "'utf-8' codec can't decode " ++
    (if fault.size = 1 then
      "byte 0x" ++
        String.ofList
          ((Nat.toDigits 16 (0x100 + fault.first.toNat)).drop
            1) ++
        " in position " ++ toString fault.start
    else
      "bytes in position " ++ toString fault.start ++ "-" ++
        toString (fault.start + fault.size - 1)) ++
    ": " ++ fault.reason.message

end Fault

/-
  What reading a part of a byte stream gives: the characters
  in it and the bytes of a character that is not complete, or
  a fault.
-/
structure Part where
  chars : List Char
  pending : List UInt8
deriving DecidableEq, Repr

/-
  Read all complete characters of a part. `position` counts
  the bytes before, `fuel` bounds the characters, and `done`
  holds the characters read so far in reverse.
-/
def decodeFrom
    (fuel position : Nat)
    (done : List Char)
    (bytes : List UInt8) : Except Fault Part :=
  match fuel, bytes with
  | 0, _ => .ok ⟨done.reverse, bytes⟩
  | _, [] => .ok ⟨done.reverse, []⟩
  | fuel + 1, first :: _ =>
      match next bytes with
      | .cut => .ok ⟨done.reverse, bytes⟩
      | .bad size reason =>
          .error ⟨position, size, first, reason⟩
      | .char c size rest =>
          decodeFrom fuel (position + size) (c :: done) rest

/- Read all complete characters of a part. -/
def decodePart (bytes : List UInt8) : Except Fault Part :=
  decodeFrom bytes.length 0 [] bytes

/-
  Read a whole byte string, which may not end within a
  character.
-/
def decode (bytes : List UInt8) : Except Fault (List Char) :=
  match decodePart bytes with
  | .error fault => .error fault
  | .ok ⟨chars, []⟩ => .ok chars
  | .ok ⟨_, first :: more⟩ =>
      .error ⟨bytes.length - (more.length + 1),
        more.length + 1, first, .unexpectedEnd⟩

end Utf8

end Text

end Keyspaces
