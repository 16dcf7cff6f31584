import Keyspaces.Failure

/-
  This file defines the policy that sends requests to the
  contact points only. Names of contact points are resolved
  when the policy is populated.

  Main definitions:
    * `Node`
    * `NameAnswer`
    * `ContactPointsPolicy`
    * `ContactPointsPolicy.populate`
    * `ContactPointsPolicy.isAllowed`
    * `ContactPointsPolicy.distance`
    * `ContactPointsPolicy.handle`
    * `ContactPointsPolicy.plan`
-/

namespace Keyspaces

/- A host of a running cluster. -/
structure Node where
  id : String
  address : String
deriving DecidableEq, Repr, Inhabited

/-
  What happens to a host while a cluster runs.
-/
inductive NodeEvent
| up
| down
| added
| removed
deriving DecidableEq, Repr

/- Whether connections with a host are kept. -/
inductive Distance
| near
| ignored
deriving DecidableEq, Repr

/-
  What comes of looking a name up: the addresses that it
  resolves to, that it does not resolve, or a failure of
  another kind, as when it cannot be the name of a host.
-/
inductive NameAnswer
| resolved (addresses : List String)
| unresolved
| refused (failure : Failure)
deriving Repr

/-
  The policy knows the contact points as configured, the
  addresses that they stand for and the hosts that are live.
-/
structure ContactPointsPolicy where
  contactPoints : List String
  addresses : List String
  live : List Node
deriving DecidableEq, Repr

namespace ContactPointsPolicy

/- What comes of looking up each name. -/
abbrev Resolver :=
  String → NameAnswer

/- The policy before it is populated. -/
def ofContactPoints
    (contactPoints : List String) : ContactPointsPolicy :=
  ⟨contactPoints, [], []⟩

/-
  The addresses that a contact point stands for: itself and
  those it resolves to, if any.
-/
def addressesOf
    (resolve : Resolver)
    (contactPoint : String) : Except Failure (List String) :=
  match resolve contactPoint with
  | .resolved addresses => .ok (contactPoint :: addresses)
  | .unresolved => .ok [contactPoint]
  | .refused failure => .error failure

/-
  The addresses that contact points stand for, looked up in
  order up to the first that is refused.
-/
def addressesOfAll
    (resolve : Resolver) :
    List String → Except Failure (List String)
| [] => .ok []
| contactPoint :: contactPoints => do
    let first ← addressesOf resolve contactPoint
    let rest ← addressesOfAll resolve contactPoints
    .ok (first ++ rest)

/- A host is allowed when its address is known. -/
def isAllowed
    (policy : ContactPointsPolicy)
    (node : Node) : Bool :=
  policy.addresses.contains node.address

/- The hosts that are allowed are near, all others ignored. -/
def distance
    (policy : ContactPointsPolicy)
    (node : Node) : Distance :=
  if policy.isAllowed node then .near else .ignored

/- Two entries for the same host. -/
def sameNode (a b : Node) : Bool :=
  a.id == b.id

/- Add a host to the live ones unless it is among them. -/
def addLive
    (live : List Node)
    (node : Node) : List Node :=
  if live.any (sameNode node) then live else live ++ [node]

/- Remove a host from the live ones. -/
def removeLive
    (live : List Node)
    (node : Node) : List Node :=
  live.filter fun other => !sameNode node other

/-
  Resolve the contact points anew, and start with those of the
  given hosts that are allowed.
-/
def populate
    (policy : ContactPointsPolicy)
    (resolve : Resolver)
    (nodes : List Node) :
    Except Failure ContactPointsPolicy := do
  let addresses ←
    addressesOfAll resolve policy.contactPoints
  let resolved :=
    { policy with addresses := addresses.eraseDups }
  .ok
    { resolved with
      live :=
        (nodes.filter resolved.isAllowed).foldl addLive [] }

/-
  Take note of an event. A host that comes up is live if it is
  allowed; one that goes down is not.
-/
def handle
    (policy : ContactPointsPolicy)
    (node : Node) :
    NodeEvent → ContactPointsPolicy
| .up | .added =>
    if policy.isAllowed node then
      { policy with live := addLive policy.live node }
    else
      policy
| .down | .removed =>
    { policy with live := removeLive policy.live node }

/- The hosts a request can be sent to. -/
def plan (policy : ContactPointsPolicy) : List Node :=
  policy.live

end ContactPointsPolicy

end Keyspaces
