import Keyspaces.Xml.Content
import Keyspaces.Xml.Prolog

/-
  This file defines the reading of a whole document as the
  element that is its root.

  Main definitions:
    * `Xml.Document.readEnd`
    * `Xml.Document.parse`
-/

namespace Keyspaces

namespace Xml

namespace Document

/- The failure that a report stands for. -/
def failReport {α : Type}
    (document : Document)
    (report : Report) : Except Failure α :=
  document.fail report.1 report.2

/-
  Read what follows the root: spaces, comments and
  instructions. `fuel` bounds the tokens.
-/
def readEnd
    (content : Content) :
    (fuel : Nat) → Cursor → Except Report Unit
| 0, _ => .ok ()
| fuel + 1, cursor =>
    if cursor.rest.isEmpty then
      .ok ()
    else
      match cursor.token with
      | .error stop =>
          let (reason, position) :=
            stopPlace cursor.position stop
          content.fail reason position
      | .ok (.space, after) => readEnd content fuel after
      | .ok (.comment, after) => readEnd content fuel after
      | .ok (.instruction, after) => readEnd content fuel after
      | .ok _ => content.fail .junkAfterRoot cursor.position

/- Read the root and what follows it. -/
def readRoot
    (declarations : Declarations)
    (unitSize : Nat)
    (cursor : Cursor) : Except Report Element := do
  let (content, after) ←
    Content.read declarations unitSize cursor
  readEnd content (after.bound + 1) after
  match content.reported, content.root with
  | some report, _ => .error report
  | none, some root => .ok root
  | none, none => .error (.noElement, after.position)

/-
  Read a document, given whether its encoding is fixed to be
  UTF-8 whatever it declares.
-/
def parse
    (bytes : List UInt8)
    (fixed : Bool) : Except Failure Element := do
  let (prolog, cursor) ← Prolog.read bytes fixed
  let document := prolog.document
  match readRoot prolog.declarations
      document.encoding.unitSize cursor with
  | .ok root => .ok root
  | .error report => document.failReport report

end Document

end Xml

end Keyspaces
