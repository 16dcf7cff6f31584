/-
  This file defines the ways a text is divided at a separator
  character.

  Main definitions:
    * `pieces`
    * `cut?`
    * `cutLast?`
    * `join`
-/

namespace Keyspaces

namespace Text

/-
  The parts between the separators of a sequence, blank parts
  included. There is always at least one part.
-/
def pieces
    (separator : Char) :
    List Char → List (List Char)
| [] => [[]]
| c :: rest =>
    match pieces separator rest with
    | [] => [[c]]
    | part :: parts =>
        if c = separator then
          [] :: part :: parts
        else
          (c :: part) :: parts

/-
  The text before and after the first separator, if there is
  one.
-/
def cut?
    (separator : Char) :
    List Char → Option (List Char × List Char)
| [] => none
| c :: rest =>
    if c = separator then
      some ([], rest)
    else
      (cut? separator rest).map fun halves =>
        (c :: halves.1, halves.2)

/-
  The text before and after the last separator, if there is
  one.
-/
def cutLast?
    (separator : Char) :
    List Char → Option (List Char × List Char)
| [] => none
| c :: rest =>
    match cutLast? separator rest with
    | some halves => some (c :: halves.1, halves.2)
    | none =>
        if c = separator then some ([], rest) else none

/- The texts in order with a separator text between them. -/
def join
    (separator : String)
    (texts : List String) : String :=
  String.intercalate separator texts

end Text

end Keyspaces
