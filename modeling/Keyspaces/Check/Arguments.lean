import Keyspaces.Text.Digit
import Keyspaces.Text.Split

/-
  This file defines the command line of the check: a file with
  declarations, the names of the resources to check, and
  options for the configuration.

  Main definitions:
    * `Check.Arguments`
    * `Check.Exit`
    * `Check.Token.ofText`
    * `Check.Arguments.parse`
-/

namespace Keyspaces

open Text

namespace Check

/-
  The declarations to check, the names of the resources to
  check, all if there are none, and options in the form of
  `key=value`.
-/
structure Arguments where
  source : String
  names : List String
  options : List String
deriving DecidableEq, Repr

/- Why a command line does not lead to a check. -/
inductive Exit
| help
| usage
deriving DecidableEq, Repr

namespace Exit

/- The status that the command exits with. -/
def status : Exit → Nat
| .help => 0
| .usage => 2

end Exit

------------------------------------------------------------
-- Tokens
------------------------------------------------------------

/-
  A part of a command line: a value, the separator that only
  values follow, the option for the configuration, possibly
  with its only value attached, the request for help, which
  may have a value attached that it does not take, or an
  option that is not known.
-/
inductive Token
| value (text : String)
| separator
| configure (attached : Option String)
| help (valid : Bool)
| unknown
deriving DecidableEq, Repr

namespace Token

/- The text of the separator. -/
def separatorText : String := "--"

/- The option for the configuration. -/
def configureName : List Char := "--conf".toList

/- The request for help and its short form. -/
def helpName : List Char := "--help".toList

/-
  Whether the letters after the short request for help are
  letters of further options, of which there are no others.
-/
def isCluster : List Char → Bool
| [] => true
| 'h' :: '=' :: _ => false
| 'h' :: rest => isCluster rest
| '-' :: _ => false
| _ :: _ => true

/- Digits of any script, at least one. -/
def isDigits (cs : List Char) : Bool :=
  !cs.isEmpty && cs.all fun c => (digitValue? c).isSome

/- A decimal number that may lack its whole part. -/
def isNumber (cs : List Char) : Bool :=
  match cut? '.' cs with
  | none => isDigits cs
  | some (whole, places) =>
      (whole.isEmpty || isDigits whole) && isDigits places

/- What may be written like an option and still is a value. -/
def isPlainValue (cs : List Char) : Bool :=
  cs.contains ' ' ||
    isNumber
      (if cs.getLast? = some '\n' then cs.dropLast else cs)

/- An option with the value that an equality sign attaches. -/
def withValue
    (name : List Char)
    (attached : Option (List Char)) : Token :=
  if name = configureName then
    .configure (attached.map String.ofList)
  else
    .help attached.isNone

/-
  An option that starts with two hyphens. Its name may be
  shortened as long as only one option starts with it.
-/
def ofLong (cs : List Char) : Except Exit Token :=
  let (name, attached) :=
    match cut? '=' cs with
    | some (name, given) => (name, some given)
    | none => (cs, none)
  match [helpName, configureName].filter
      fun known => name.isPrefixOf known with
  | [known] => .ok (withValue known attached)
  | [] =>
      .ok (if isPlainValue cs.tail then
        .value (String.ofList cs) else .unknown)
  | _ => .error .usage

/- The token of a text that does not follow the separator. -/
def ofText (text : String) : Except Exit Token :=
  match text.toList with
  | ['-', '-'] => .ok .separator
  | '-' :: '-' :: rest => ofLong ('-' :: '-' :: rest)
  | '-' :: 'h' :: rest =>
      .ok (.help (rest.head? != some '=' && isCluster rest))
  | '-' :: c :: rest =>
      .ok (if isPlainValue (c :: rest) then .value text
        else .unknown)
  | _ => .ok (.value text)

/- The tokens of a command line. -/
def ofTexts : List String → Except Exit (List Token)
| [] => .ok []
| text :: texts => do
    match ← ofText text with
    | .separator => .ok (.separator :: texts.map .value)
    | token => .ok (token :: (← ofTexts texts))

end Token

------------------------------------------------------------
-- Command Lines
------------------------------------------------------------

/-
  How the values of a command line are read: before the first
  value, right after it with the names so far, or after an
  option that came behind it.
-/
inductive Stage
| before
| naming (source : String) (names : List String)
| closed (source : String) (names : List String)
deriving DecidableEq, Repr

/-
  What is read of a command line. `collects` tells that values
  belong to the option for the configuration, `leftover` that
  some part has no use.
-/
structure Progress where
  stage : Stage
  options : List String
  collects : Bool
  leftover : Bool
deriving DecidableEq, Repr

namespace Progress

/- Nothing is read. -/
def start : Progress :=
  ⟨.before, [], false, false⟩

/- An option ends the names. -/
def close (progress : Progress) : Progress :=
  { progress with
    collects := false
    stage :=
      match progress.stage with
      | .naming source names => .closed source names
      | stage => stage }

/- Read a value. -/
def value
    (progress : Progress)
    (text : String) : Progress :=
  if progress.collects then
    { progress with options := progress.options ++ [text] }
  else
    match progress.stage with
    | .before => { progress with stage := .naming text [] }
    | .naming source names =>
        { progress with
          stage := .naming source (names ++ [text]) }
    | .closed .. => { progress with leftover := true }

/-
  Read the separator. Between names it stands among them until
  the first of its kind is dropped.
-/
def separator (progress : Progress) : Progress :=
  let next := { progress with collects := false }
  match progress.stage with
  | .before | .naming _ [] => next
  | .naming source names =>
      { next with
        stage :=
          .naming source (names ++ [Token.separatorText]) }
  | .closed .. => { next with leftover := true }

/- Read a token. -/
def step
    (progress : Progress) :
    Token → Except Exit Progress
| .value text => .ok (progress.value text)
| .separator => .ok progress.separator
| .configure none =>
    .ok { progress.close with options := [], collects := true }
| .configure (some option) =>
    .ok { progress.close with options := [option] }
| .help true => .error .help
| .help false => .error .usage
| .unknown => .ok { progress.close with leftover := true }

/- The arguments when everything is read. -/
def finish (progress : Progress) : Except Exit Arguments :=
  match progress.leftover, progress.stage with
  | false, .naming source names
  | false, .closed source names =>
      .ok ⟨source, names.erase Token.separatorText,
        progress.options⟩
  | _, _ => .error .usage

end Progress

namespace Arguments

/- Read a command line. -/
def parse
    (texts : List String) : Except Exit Arguments := do
  let tokens ← Token.ofTexts texts
  let progress ← tokens.foldlM Progress.step .start
  progress.finish

end Arguments

end Check

end Keyspaces
