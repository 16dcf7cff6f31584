import Keyspaces.Conversion

/-
  This file defines the hosts of a cluster and the texts that
  name them: an address, and a port after a colon if it is not
  the default port. An address with colons of its own stands
  in brackets when a port follows.

  Main definitions:
    * `Host`
    * `Host.record`
    * `Host.written`
    * `Host.divide`
    * `Host.parse`
    * `Host.parseAll`
-/

namespace Keyspaces

open Text

/-
  A host has an address and a port. The port is an integer, or
  the truth value that was given as the default port.
-/
structure Host where
  address : String
  port : Value
deriving Inhabited, Repr

namespace Host

------------------------------------------------------------
-- Records and Equality
------------------------------------------------------------

/- The text of a host whose port has a text. -/
def record (host : Host) : String :=
  host.address ++ ":" ++ host.port.plain

/- A host has a text if its port does. -/
def isWritable (host : Host) : Bool :=
  host.port.isWritable

/- The text of a host, if it has one. -/
def written (host : Host) : Except Failure String :=
  Failure.writing host.isWritable host.record

/- The diagnostic record of hosts that have texts. -/
def recordAll (hosts : List Host) : String :=
  "[" ++ Text.join ", " (hosts.map record) ++ "]"

/- The diagnostic record of a list of hosts, if it has one. -/
def writtenAll (hosts : List Host) : Except Failure String :=
  Failure.writing (hosts.all isWritable) (recordAll hosts)

/- Hosts are equal when their addresses and ports are. -/
def equal (a b : Host) : Bool :=
  a.address == b.address && a.port.equal b.port

------------------------------------------------------------
-- Addresses and Ports
------------------------------------------------------------

/- A square bracket. -/
def isBracket (c : Char) : Bool :=
  c = '[' || c = ']'

/- Drop the brackets on both sides of a text. -/
def stripBrackets (cs : List Char) : List Char :=
  ((cs.dropWhile isBracket).reverse.dropWhile
    isBracket).reverse

/- The text between an opening and a closing bracket. -/
def bracketed? : List Char → Option (List Char)
| '[' :: rest =>
    if rest.getLast? = some ']' then
      some rest.dropLast
    else
      none
| _ => none

/-
  Divide the text of a host into its address and the text of
  its port. There is none in a text without a colon, nor in an
  address that has several colons and no brackets.
-/
def divide
    (cs : List Char) : List Char × Option (List Char) :=
  match cutLast? ':' cs with
  | none => (stripBrackets cs, none)
  | some (address, port) =>
      match bracketed? address with
      | some inner => (inner, some port)
      | none =>
          if address.contains ':' then
            (stripBrackets cs, none)
          else
            (address, some port)

/-
  A port that is a number as it is, and any other one
  converted to an integer.
-/
def portNumber
    (port : Value) : Except Failure (Value × Int) :=
  match port with
  | .int n => .ok (port, n)
  | .bool b => .ok (port, Value.boolInt b)
  | _ => port.toInteger.map fun n => (.int n, n)

/- A port that is no number is a fault of the host. -/
def namePortFault
    (host : String)
    (fault : Failure) : Failure :=
  if fault.kind.isValue then .invalidPort host else fault

/- Parse the text of a host. -/
def parseText
    (host : String)
    (defaultPort : Value) : Except Failure Host := do
  let (address, port) := divide host.toList
  let (port, number) ←
    (portNumber (match port with
      | some cs => .text (String.ofList cs)
      | none => defaultPort)).mapError (namePortFault host)
  if address.isEmpty then
    .error (.noAddress host)
  else if 0 < number && number < 65536 then
    .ok ⟨String.ofList address, port⟩
  else
    .error (.portOutOfRange host)

/- Parse a host that is given as a value. -/
def parse
    (host defaultPort : Value) : Except Failure Host :=
  match host with
  | .text s => parseText s defaultPort
  | .bytes _ => .error .bytesRequired
  | _ => .error (.noMember host.kindName "rpartition")

------------------------------------------------------------
-- Lists of Hosts
------------------------------------------------------------

/- Parse an entry of a list of hosts. -/
def parseEntry
    (defaultPort : Value)
    (entry : Value) : Except Failure Host :=
  match entry with
  | .text s => parseText (trim s) defaultPort
  | .bytes _ => .error .bytesRequired
  | _ => .error (.noMember entry.kindName "strip")

/- Parse entries in order. -/
def parseEntries
    (defaultPort : Value) :
    List Value → Except Failure (List Host)
| [] => .ok []
| entry :: entries => do
    let host ← parseEntry defaultPort entry
    let hosts ← parseEntries defaultPort entries
    .ok (host :: hosts)

/-
  The entries of a list of hosts: the items of a collection or
  the parts of a text between commas.
-/
def entriesOf
    (hosts : Value) : Except Failure (List Value) :=
  hosts.toItems.mapError fun fault =>
    .showing hosts (.invalidValue hosts "hosts" fault)

/- Parse a list of hosts, none of which may be empty. -/
def parseAll
    (hosts defaultPort : Value) :
    Except Failure (List Host) :=
  if !hosts.isTruthy then
    .error .noHosts
  else do
    let entries ← entriesOf hosts
    if entries.all Value.isTruthy then
      parseEntries defaultPort entries
    else
      .error (.showing hosts (.emptyHost hosts))

end Host

end Keyspaces
