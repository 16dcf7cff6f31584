import Keyspaces.Host

/-
  This file defines what the members of a set can be, hosts
  and values, and when two of them count as one.

  Main definitions:
    * `Member`
    * `Member.equal`
    * `Member.equalsItself`
    * `Member.distinct`
-/

namespace Keyspaces

/- A host or any other value. -/
inductive Member
| host (host : Host)
| value (value : Value)
deriving Repr

namespace Member

/- The text of a member, if it has one. -/
def written : Member → Except Failure String
| .host h => h.written
| .value v => v.written

/- Equality of two members. A host equals only hosts. -/
def equal : Member → Member → Bool
| .host a, .host b => a.equal b
| .value x, .value y => x.equal y
| _, _ => false

/- Whether a member equals itself. -/
def equalsItself : Member → Bool
| .host h => h.port.equalsItself
| .value v => v.equalsItself

/- The kind of the part that keeps a member out of sets. -/
def unhashable? : Member → Option String
| .host h => h.port.unhashable?
| .value v => v.unhashable?

/-
  Whether the members at two places of a list are equal. At
  one place there is one member, so a value that equals no
  other, such as a reference, still equals itself.
-/
def equalAt
    (members : List Member)
    (i j : Nat) : Bool :=
  match members[i]?, members[j]? with
  | some a, some b =>
      if i = j then a.equalsItself else equal a b
  | _, _ => false

/- Add a member to a set unless an equal one is there. -/
def insert
    (set : List Member)
    (member : Member) : List Member :=
  if set.any (equal member) then set else set ++ [member]

/- The set of the members of a list. -/
def distinct
    (members : List Member) : Except Failure (List Member) :=
  match members.findSome? unhashable? with
  | some kindName => .error (.unhashable kindName)
  | none => .ok (members.foldl insert [])

end Member

end Keyspaces
