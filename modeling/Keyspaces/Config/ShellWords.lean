import Keyspaces.Failure

/-
  This file defines how a line is divided into words with the
  quotes and escapes of a shell.

  Main definitions:
    * `ShellWords.State`
    * `ShellWords.split`
-/

namespace Keyspaces

namespace ShellWords

/-
  Where a reader is: between words, within one, within quotes
  of a kind, or after a backslash, which may be within quotes.
-/
inductive State
| between
| word
| quote (mark : Char)
| escape (inside : Option Char)
deriving DecidableEq, Repr

/- The characters that end words. -/
def isSpace (c : Char) : Bool :=
  c = ' ' || c = '\t' || c = '\r' || c = '\n'

/- The characters that open and close quotes. -/
def isQuote (c : Char) : Bool :=
  c = '\x27' || c = '\x22'

/-
  The state after a character outside of quotes, unless the
  character is a space.
-/
def enter (c : Char) : State :=
  if c = '\\' then .escape none
  else if isQuote c then .quote c
  else .word

/- The characters that a character outside of quotes adds. -/
def added (c : Char) : List Char :=
  if c = '\\' || isQuote c then [] else [c]

/- The state after a backslash is done with. -/
def leaveEscape : Option Char → State
| none => .word
| some mark => .quote mark

/-
  What an escaped character adds, in reverse. Within quotes
  the backslash stays unless it escapes itself or the quote.
-/
def escaped
    (inside : Option Char)
    (c : Char) : List Char :=
  match inside with
  | none => [c]
  | some mark => if c = '\\' || c = mark then [c] else [c, '\\']

/-
  Read words. The word that is being read is given in reverse.
-/
def readFrom
    (state : State)
    (token : List Char) :
    List Char → Except Failure (List String)
| [] =>
    match state with
    | .between => .ok []
    | .word => .ok [String.ofList token.reverse]
    | .quote _ => .error .noClosingQuotation
    | .escape _ => .error .noEscapedCharacter
| c :: rest =>
    match state with
    | .between =>
        if isSpace c then
          readFrom .between [] rest
        else
          readFrom (enter c) (added c) rest
    | .word =>
        if isSpace c then
          (readFrom .between [] rest).map
            fun words => String.ofList token.reverse :: words
        else
          readFrom (enter c) (added c ++ token) rest
    | .quote mark =>
        if c = mark then
          readFrom .word token rest
        else if c = '\\' && mark = '\x22' then
          readFrom (.escape (some mark)) token rest
        else
          readFrom (.quote mark) (c :: token) rest
    | .escape inside =>
        readFrom (leaveEscape inside)
          (escaped inside c ++ token) rest

/- The words of a line. -/
def split (line : String) : Except Failure (List String) :=
  readFrom .between [] line.toList

end ShellWords

end Keyspaces
