import Keyspaces.Xml.Markup

/-
  This file defines the tokens before and after the root of a
  document, those of a document type declaration among them.

  Main definitions:
    * `Xml.NameForm`
    * `Xml.Token`
    * `Xml.Cursor.token`
-/

namespace Keyspaces

namespace Xml

/- The forms of names: plain, with a prefix, and any other. -/
inductive NameForm
| simple
| prefixed
| other
deriving DecidableEq, Repr

/-
  A token. Names and closing parentheses may be followed by a
  sign of repetition. Literals come with the place of their
  first symbol.
-/
inductive Token
| space
| xmlDeclaration
| instruction
| comment
| opening (keyword : List Char)
| conditional
| conditionalEnd
| root
| openBracket
| closeBracket
| closing
| name
    (form : NameForm) (text : List Char)
    (repetition : Option Char)
| literal (position : Nat) (content : List Symbol)
| percent
| parameterReference
| poundName (text : List Char)
| openParen
| closeParen (repetition : Option Char)
| choice
| comma
deriving Repr

namespace Cursor

------------------------------------------------------------
-- Literals
------------------------------------------------------------

/-
  Read a literal up to its closing quote. `fuel` bounds the
  symbols.
-/
def literalEnd
    (quote : Char) :
    (fuel : Nat) → Cursor → Except Stop Cursor
| 0, _ => .error .unclosed
| fuel + 1, cursor => do
    let (c, _) ← cursor.look
    if c = quote then
      .ok cursor
    else
      literalEnd quote fuel cursor.next

/- The characters that can follow a literal. -/
def endsLiteral (c : Char) : Bool :=
  isSpace c || c = '>' || c = '%' || c = '['

/- Read a literal after its opening quote. -/
def literal
    (cursor : Cursor)
    (quote : Char) : Except Stop (Token × Cursor) := do
  let closing ← literalEnd quote (cursor.bound + 1) cursor
  let count := closing.position - cursor.position
  let token :=
    Token.literal cursor.position (cursor.rest.take count)
  let after := closing.next
  if after.atEnd then
    .ok (token, after)
  else
    let c ← after.lookPlain
    if endsLiteral c then
      .ok (token, after)
    else
      after.unexpected

------------------------------------------------------------
-- Names
------------------------------------------------------------

/- The characters that can follow a name. -/
def endsName (c : Char) : Bool :=
  isSpace c || c = '>' || c = ')' || c = ',' || c = '|' ||
    c = '[' || c = '%'

/- The signs of repetition. -/
def isRepetition (c : Char) : Bool :=
  c = '?' || c = '*' || c = '+'

/- The form of a name after a colon in it. -/
def afterColon
    (form : NameForm)
    (next : Symbol) : NameForm :=
  match form with
  | .simple => if next.isName then .prefixed else .other
  | _ => .other

/-
  Read a name with any number of colons. Nothing has to follow
  it. `fuel` bounds the colons.
-/
def nameToken :
    (fuel : Nat) → NameForm → (text : List Char) → Cursor →
    Except Stop (Token × Cursor)
| 0, form, text, cursor => .ok (.name form text none, cursor)
| fuel + 1, form, text, cursor => do
    let (more, after) := cursor.span Symbol.isName
    let text := text ++ charsOf more
    if after.atEnd then
      .ok (.name form text none, after)
    else
      let (c, _) ← after.look
      if endsName c then
        .ok (.name form text none, after)
      else if c = ':' then
        match form, after.next.rest with
        | .simple, [] | .simple, [.half] => .error .unclosed
        | .simple, .cut _ :: _ => .error .cut
        | .simple, .invalid .. :: _ => after.next.unexpected
        | form, next :: _ =>
            nameToken fuel (afterColon form next)
              (text ++ [':']) after.next
        | form, [] =>
            nameToken fuel form (text ++ [':']) after.next
      else if isRepetition c && form != .other then
        .ok (.name form text (some c), after.next)
      else
        after.unexpected

------------------------------------------------------------
-- Declarations
------------------------------------------------------------

/- The symbol is a letter of a keyword. -/
def isKeywordLetter (symbol : Symbol) : Bool :=
  match symbol with
  | .char c bytes kind =>
      kind == .start && (c.toNat < 0x80 || bytes == 1)
  | _ => false

/-
  Read the opening of a declaration after its exclamation
  mark.
-/
def declaration
    (cursor : Cursor) : Except Stop (Token × Cursor) := do
  let c ← cursor.lookPlain
  if c = '-' then
    (cursor.next.comment).map fun after => (.comment, after)
  else if c = '[' then
    .ok (.conditional, cursor.next)
  else
    let (letters, after) := cursor.span isKeywordLetter
    if letters.isEmpty then
      cursor.unexpected
    else
      let keyword := charsOf letters
      let d ← after.lookPlain
      if isSpace d then
        .ok (.opening keyword, after)
      else if d = '%' then
        match after.next.rest with
        | [] | [.half] => .error .unclosed
        | symbol :: _ =>
            if symbol.isSpace || symbol.isChar '%' then
              after.unexpected
            else
              .ok (.opening keyword, after)
      else
        after.unexpected

/- Read what follows an opening angle bracket at `cursor`. -/
def afterAngle
    (cursor : Cursor) : Except Stop (Token × Cursor) :=
  match cursor.next.rest with
  | [] | [.half] => .error .unclosed
  | .cut _ :: _ | .invalid _ true :: _ => .ok (.root, cursor)
  | .char c bytes kind :: _ =>
      if c = '!' then
        cursor.next.next.declaration
      else if c = '?' then
        (cursor.next.next.instruction).map
          fun (markup, after) =>
            match markup with
            | .declaration => (.xmlDeclaration, after)
            | _ => (.instruction, after)
      else if kind = .start ||
          (0x80 ≤ c.toNat && 2 ≤ bytes) then
        .ok (.root, cursor)
      else
        cursor.next.unexpected
  | _ => cursor.next.unexpected

/- Read what follows a percent sign. -/
def afterPercent
    (cursor : Cursor) : Except Stop (Token × Cursor) := do
  let (c, _) ← cursor.look
  if isSpace c || c = '%' then
    .ok (.percent, cursor)
  else
    let (_, after) ← cursor.name
    let (d, _) ← after.look
    if d = ';' then
      .ok (.parameterReference, after.next)
    else
      after.unexpected

/- The characters that can follow a name with a number sign. -/
def endsPoundName (c : Char) : Bool :=
  isSpace c || c = ')' || c = '>' || c = '%' || c = '|'

/- Read what follows a number sign. -/
def afterPound
    (cursor : Cursor) : Except Stop (Token × Cursor) := do
  let (name, after) ← cursor.name
  if after.atEnd then
    .ok (.poundName name, after)
  else
    let (c, _) ← after.look
    if endsPoundName c then
      .ok (.poundName name, after)
    else
      after.unexpected

/- The characters that can follow a closing parenthesis. -/
def endsParen (c : Char) : Bool :=
  isSpace c || c = '>' || c = ',' || c = '|' || c = ')'

/- Read what follows a closing parenthesis. -/
def afterParen
    (cursor : Cursor) : Except Stop (Token × Cursor) :=
  if cursor.atEnd then
    .ok (.closeParen none, cursor)
  else do
    let c ← cursor.lookPlain
    if isRepetition c then
      .ok (.closeParen (some c), cursor.next)
    else if endsParen c then
      .ok (.closeParen none, cursor)
    else
      cursor.unexpected

/- Read what follows a closing bracket. -/
def afterBracket
    (cursor : Cursor) : Except Stop (Token × Cursor) :=
  match cursor.rest with
  | .char ']' _ _ :: .char '>' _ _ :: _ =>
      .ok (.conditionalEnd, cursor.next.next)
  | [.char ']' _ _] | [.char ']' _ _, .half] =>
      .error .unclosed
  | _ => .ok (.closeBracket, cursor)

------------------------------------------------------------
-- Tokens
------------------------------------------------------------

/- Read a token that starts with a character. -/
def tokenOf
    (cursor : Cursor)
    (c : Char)
    (kind : NameKind) : Except Stop (Token × Cursor) :=
  let after := cursor.next
  if isSpace c then
    .ok (.space, cursor.skipSpace)
  else if kind != .never || c = ':' then
    nameToken (cursor.bound + 1)
      (if kind = .start then .simple else .other) [c] after
  else if c = '\x22' || c = '\x27' then
    after.literal c
  else
    match c with
    | '<' => cursor.afterAngle
    | '%' => after.afterPercent
    | ',' => .ok (.comma, after)
    | '[' => .ok (.openBracket, after)
    | ']' => after.afterBracket
    | '(' => .ok (.openParen, after)
    | ')' => after.afterParen
    | '|' => .ok (.choice, after)
    | '>' => .ok (.closing, after)
    | '#' => after.afterPound
    | _ => cursor.unexpected

/- Read a token outside of the root of a document. -/
def token
    (cursor : Cursor) : Except Stop (Token × Cursor) := do
  let (c, kind) ← cursor.look
  cursor.tokenOf c kind

end Cursor

end Xml

end Keyspaces
