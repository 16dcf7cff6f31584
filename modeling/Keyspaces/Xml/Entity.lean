import Keyspaces.Xml.Markup

/-
  This file defines what a document type declares, entities
  and defaults of attributes, and how the values of entities
  and attributes are made from their literals.

  Main definitions:
    * `Xml.Entity`
    * `Xml.AttributeDefault`
    * `Xml.Declarations`
    * `Xml.Problem`
    * `Xml.entityValue`
    * `Xml.attributeValue`
-/

namespace Keyspaces

namespace Xml

------------------------------------------------------------
-- Declarations
------------------------------------------------------------

/-
  An entity has a replacement text, or stands for something
  outside of the document, which may be no XML.
-/
inductive Entity
| internal (text : List Symbol)
| external
| binary
deriving Repr

/-
  What is declared for an attribute: whether its value is kept
  as it is written, and its default.
-/
structure AttributeDefault where
  name : List Char
  keepsSpace : Bool
  value : Option (List Char)
deriving DecidableEq, Repr

/-
  The declarations of a document. `hasOutside` tells that some
  of them are outside of the document, `standalone` that they
  do not matter, and `keeps` that further ones are read.
-/
structure Declarations where
  entities : List (List Char × Entity)
  defaults : List (List Char × List AttributeDefault)
  hasOutside : Bool
  standalone : Bool
  keeps : Bool
deriving Repr

namespace Declarations

/- No declarations. -/
def none : Declarations :=
  { entities := []
    defaults := []
    hasOutside := false
    standalone := false
    keeps := true }

/- The entity with a name. -/
def entity?
    (declarations : Declarations)
    (name : List Char) : Option Entity :=
  declarations.entities.lookup name

/- Every entity that is used has to be declared here. -/
def complete (declarations : Declarations) : Bool :=
  !declarations.hasOutside || declarations.standalone

/- The declared attributes of the elements with a name. -/
def attributesOf
    (declarations : Declarations)
    (element : List Char) : List AttributeDefault :=
  (declarations.defaults.lookup element).getD []

/-
  Declare an attribute behind those declared before. One with
  a default or an identity counts only if it is the first of
  its name.
-/
def declareAttribute
    (declarations : Declarations)
    (element : List Char)
    (declared : AttributeDefault)
    (isIdentity : Bool) : Declarations :=
  let known := declarations.attributesOf element
  let repeated := known.any fun entry =>
    entry.name == declared.name
  if (declared.value.isSome || isIdentity) && repeated then
    declarations
  else
    let others := declarations.defaults.filter fun entry =>
      entry.1 != element
    { declarations with
      defaults := (element, known ++ [declared]) :: others }

end Declarations

/- The entities that are known without a declaration. -/
def predefined? : List Char → Option Char
| ['l', 't'] => some '<'
| ['g', 't'] => some '>'
| ['a', 'm', 'p'] => some '&'
| ['q', 'u', 'o', 't'] => some '\x22'
| ['a', 'p', 'o', 's'] => some '\x27'
| _ => none

/-
  What is wrong in a value, and the place of it if it is not
  that of the token the value belongs to.
-/
structure Problem where
  reason : Reason
  position : Option Nat
deriving DecidableEq, Repr

/- The symbol is a line end, given the one after it. -/
def isLineEnd (c : Char) : Bool :=
  c = '\n' || c = '\r'

namespace Cursor

/- The place after a line end, both of whose signs may stand. -/
def skipLineEnd (cursor : Cursor) : Cursor :=
  match cursor.rest with
  | .char '\r' _ _ :: .char '\n' _ _ :: _ =>
      cursor.next.next
  | _ => cursor.next

end Cursor

/- Report a reference that cannot be read at its place. -/
def referenceProblem
    (ampersand : Nat) : Stop → Problem
| .invalid position => ⟨.invalidToken, some position⟩
| _ => ⟨.invalidToken, some ampersand⟩

------------------------------------------------------------
-- Values of Entities
------------------------------------------------------------

/-
  Read a percent sign inside a value, which would have to start
  a reference to a parameter entity. These are not allowed.
-/
def percentProblem (cursor : Cursor) : Problem :=
  match cursor.next.name with
  | .error (.invalid position) =>
      ⟨.invalidToken, some position⟩
  | .error _ => ⟨.invalidToken, some cursor.position⟩
  | .ok (_, after) =>
      match after.look with
      | .ok (c, _) =>
          if c = ';' then
            ⟨.parameterReference, some cursor.position⟩
          else
            ⟨.invalidToken, some after.position⟩
      | .error (.invalid position) =>
          ⟨.invalidToken, some position⟩
      | .error _ => ⟨.invalidToken, some cursor.position⟩

/-
  The replacement text of an entity: its literal with numbered
  characters in place and line ends in one form. `done` holds
  the text so far in reverse, `fuel` bounds the symbols.
-/
def entityValueFrom :
    (fuel : Nat) → (done : List Symbol) → Cursor →
    Except Problem (List Symbol)
| 0, done, _ => .ok done.reverse
| fuel + 1, done, cursor =>
    match cursor.rest with
    | .char c _ _ :: _ =>
        if c = '&' then
          match cursor.next.reference with
          | .error stop =>
              .error (referenceProblem cursor.position stop)
          | .ok (.character none, _) =>
              .error ⟨.invalidCharacterNumber,
                some cursor.position⟩
          | .ok (.character (some d), after) =>
              entityValueFrom fuel (.ofChar d :: done) after
          | .ok (.entity name, after) =>
              let text := '&' :: name ++ [';']
              entityValueFrom fuel
                ((text.map Symbol.ofChar).reverse ++ done)
                after
        else if c = '%' then
          .error (percentProblem cursor)
        else if isLineEnd c then
          entityValueFrom fuel (.ofChar '\n' :: done)
            cursor.skipLineEnd
        else
          entityValueFrom fuel (.ofChar c :: done) cursor.next
    | _ => .ok done.reverse

/- The replacement text of an entity from its literal. -/
def entityValue
    (position : Nat)
    (literal : List Symbol) : Except Problem (List Symbol) :=
  entityValueFrom (literal.length + 1) []
    ⟨position, literal, literal.length⟩

------------------------------------------------------------
-- Values of Attributes
------------------------------------------------------------

/-
  How the value of an attribute is made: from which
  declarations, and whether spaces are kept as written.
-/
structure ValueRules where
  declarations : Declarations
  keepsSpace : Bool

/-
  Add a space to a value given in reverse. Where spaces are not
  kept, one after another or at the start is dropped.
-/
def addSpace
    (keepsSpace : Bool)
    (done : List Char) : List Char :=
  if !keepsSpace && (done.isEmpty || done.head? = some ' ') then
    done
  else
    ' ' :: done

/- Add a numbered character to a value given in reverse. -/
def addNumbered
    (keepsSpace : Bool)
    (done : List Char)
    (c : Char) : List Char :=
  if c = ' ' then addSpace keepsSpace done else c :: done

/-
  Find the entity of a reference in a value: its replacement
  text, or none if it is passed over.
-/
def valueEntity
    (declarations : Declarations)
    (opened : List (List Char))
    (position : Nat)
    (name : List Char) :
    Except Problem (Option (List Symbol)) :=
  match declarations.entity? name with
  | none =>
      if declarations.complete then
        .error ⟨.undefinedEntity, none⟩
      else
        .ok none
  | some entity =>
      if opened.contains name then
        .error ⟨.recursiveEntity, none⟩
      else
        match entity with
        | .binary =>
            .error ⟨.binaryEntity, some position⟩
        | .external =>
            .error ⟨.externalEntityInAttribute,
              some position⟩
        | .internal text => .ok (some text)

/-
  Add the symbols of a value to the part of it given in
  reverse, where `nested` does so for replacement texts.
-/
def valueFrom
    (rules : ValueRules)
    (opened : List (List Char))
    (nested :
      List (List Char) → List Symbol → List Char →
      Except Problem (List Char)) :
    (fuel : Nat) → (done : List Char) → Cursor →
    Except Problem (List Char)
| 0, done, _ => .ok done
| fuel + 1, done, cursor =>
    match cursor.rest with
    | .char c _ _ :: _ =>
        if c = '&' then
          match cursor.next.reference with
          | .error stop =>
              .error (referenceProblem cursor.position stop)
          | .ok (.character none, _) =>
              .error ⟨.invalidCharacterNumber,
                some cursor.position⟩
          | .ok (.character (some d), after) =>
              valueFrom rules opened nested fuel
                (addNumbered rules.keepsSpace done d) after
          | .ok (.entity name, after) =>
              match predefined? name with
              | some d =>
                  valueFrom rules opened nested fuel
                    (d :: done) after
              | none =>
                  match valueEntity rules.declarations opened
                      cursor.position name with
                  | .error problem => .error problem
                  | .ok none =>
                      valueFrom rules opened nested fuel done
                        after
                  | .ok (some text) =>
                      match nested (name :: opened) text
                          done with
                      | .error problem => .error problem
                      | .ok more =>
                          valueFrom rules opened nested fuel
                            more after
        else if c = '<' then
          .error ⟨.invalidToken, some cursor.position⟩
        else if isSpace c then
          valueFrom rules opened nested fuel
            (addSpace rules.keepsSpace done)
            cursor.skipLineEnd
        else
          valueFrom rules opened nested fuel (c :: done)
            cursor.next
    | _ => .ok done

/-
  Add a replacement text to a value given in reverse. Problems
  in it are those of the token that the value belongs to.
  `depth` bounds the nesting of entities.
-/
def nestedValue
    (rules : ValueRules) :
    (depth : Nat) → (opened : List (List Char)) →
    List Symbol → (done : List Char) →
    Except Problem (List Char)
| 0, _, _, done => .ok done
| depth + 1, opened, text, done =>
    (valueFrom rules opened (nestedValue rules depth)
      (text.length + 1) done (.start text)).mapError
      fun problem => { problem with position := none }

/- A value given in reverse without the space it ends with. -/
def finishValue
    (keepsSpace : Bool)
    (done : List Char) : List Char :=
  match keepsSpace, done with
  | false, ' ' :: rest => rest.reverse
  | _, _ => done.reverse

/- The value of an attribute from its literal. -/
def attributeValue
    (rules : ValueRules)
    (opened : List (List Char))
    (position : Nat)
    (literal : List Symbol) : Except Problem (List Char) :=
  let depth := rules.declarations.entities.length + 1
  (valueFrom rules opened (nestedValue rules depth)
    (literal.length + 1) []
    ⟨position, literal, literal.length⟩).map
    (finishValue rules.keepsSpace)

end Xml

end Keyspaces
