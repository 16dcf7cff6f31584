import Keyspaces.Failure
import Keyspaces.Xml.Codec.Table
import Keyspaces.Xml.Encoding

/-
  This file defines how the name of an encoding in a document
  leads to the encoding.

  Main definitions:
    * `Xml.Codec.normalize`
    * `Xml.Codec.builtIn?`
    * `Xml.Codec.Outcome`
    * `Xml.Codec.find`
-/

namespace Keyspaces

namespace Xml

namespace Codec

------------------------------------------------------------
-- Encodings Known by Name
------------------------------------------------------------

/- The name in capital letters. -/
def inCapitals (name : String) : String :=
  String.ofList (name.toList.map Char.toUpper)

/- The encodings that every document can be written in. -/
def builtIn? (name : String) : Option Encoding :=
  match inCapitals name with
  | "ISO-8859-1" => some .latin1
  | "US-ASCII" => some .ascii
  | "UTF-8" => some .utf8
  | "UTF-16" => some (.utf16 true)
  | "UTF-16BE" => some (.utf16 true)
  | "UTF-16LE" => some (.utf16 false)
  | _ => none

------------------------------------------------------------
-- Names of Codecs
------------------------------------------------------------

/-
  The plain form of a name: small letters, and one underscore
  for each row of signs between letters and digits.
-/
def normalizeFrom
    (started signs : Bool) :
    List Char → List Char
| [] => []
| c :: rest =>
    if c.isAlphanum || c = '.' then
      let tail := c.toLower :: normalizeFrom true false rest
      if started && signs then '_' :: tail else tail
    else
      normalizeFrom started true rest

/- The plain form of a name. -/
def normalize (name : String) : String :=
  String.ofList (normalizeFrom false false name.toList)

/- The name with underscores in place of points. -/
def withoutPoints (name : String) : String :=
  String.ofList
    (name.toList.map fun c => if c = '.' then '_' else c)

/- The codecs that a name may stand for, in order. -/
def candidates (name : String) : List String :=
  let plain := normalize name
  let aliased :=
    match aliases.lookup plain with
    | some codec => some codec
    | none => aliases.lookup (withoutPoints plain)
  (aliased.toList ++ [plain]).filter fun codec =>
    !(codec.isEmpty || codec.toList.contains '.')

------------------------------------------------------------
-- Codecs
------------------------------------------------------------

/- What a codec is good for. -/
inductive Outcome
| encoding (encoding : Encoding)
| unsuitable
| failure (failure : Failure)
deriving Repr

/- The characters of the ASCII bytes, some of them missing. -/
def asciiTable (holes : List Char) : List (Option Char) :=
  (List.range 0x80).map fun code =>
    let c := Char.ofNat code
    if holes.contains c then none else some c

/- The characters of the bytes from 128 on. -/
def upperTable (upper : String) : List (Option Char) :=
  upper.toList.map fun c =>
    if c = '\ufffd' then none else some c

/- Codecs that fail in their own way, and how. -/
def failing : List (String × Failure) :=
  [("idna",
      .reported .unicode
        ("decoding with 'idna' codec failed (UnicodeError: " ++
          "Unsupported error handling replace)")),
   ("punycode",
      .reported .undecodable
        ("'ascii' codec can't decode byte 0x80 in position " ++
          "82: ordinal not in range(128)")),
   ("undefined",
      .reported .unicode
        ("decoding with 'undefined' codec failed " ++
          "(UnicodeError: undefined encoding)"))]

/- The codec with exactly this name, if there is one. -/
def outcome? (name codec : String) : Option Outcome :=
  if asciiOnly.contains codec then
    some (.encoding (.singleByte (asciiTable
      (if codec = "hz" then ['~'] else []))))
  else if unsuitable.contains codec then
    some .unsuitable
  else if multiByte.contains codec then
    some (.failure .multiByteCodec)
  else if notText.contains codec then
    some (.failure (.codecOfNoText name))
  else
    match failing.lookup codec with
    | some failure => some (.failure failure)
    | none =>
        let source := (equivalents.lookup codec).getD codec
        (upperHalves.lookup source).map fun upper =>
          .encoding (.singleByte
            (asciiTable [] ++ upperTable upper))

/- What becomes of a name that is not built in. -/
def find (name : String) : Outcome :=
  ((candidates name).findSome? (outcome? name)).getD
    (.failure (.unknownCodec name))

end Codec

end Xml

end Keyspaces
