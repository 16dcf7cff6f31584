import Keyspaces.Configurator

/-
  This file defines the policies for reconnecting with hosts
  that went down, and the delays between attempts that they
  schedule.

  Main definitions:
    * `Value.compareZero`
    * `ReconnectionPolicy`
    * `ReconnectionPolicy.ofConfigurator`
    * `ReconnectionPolicy.Schedule`
    * `ReconnectionPolicy.schedule`
-/

namespace Keyspaces

------------------------------------------------------------
-- Signs of Values
------------------------------------------------------------

namespace Value

/-
  How a number compares with zero. What is no number at all
  cannot be compared by the relation that is asked for, and
  the number that stands for none has no place in the order.
-/
def compareZero
    (relation : String)
    (value : Value) : Except Failure (Option Ordering) :=
  match value with
  | .int n => .ok (some (compare n 0))
  | .bool b => .ok (some (compare (boolInt b) 0))
  | .float x => .ok (x.compareInt? 0)
  | _ => .error (.incomparable relation value.kindName)

/- Whether a number is above zero. -/
def isPositive (value : Value) : Except Failure Bool :=
  (value.compareZero ">").map fun order => order == some .gt

/- Whether a number is below zero. -/
def isNegative (value : Value) : Except Failure Bool :=
  (value.compareZero "<").map fun order => order == some .lt

end Value

------------------------------------------------------------
-- Policies
------------------------------------------------------------

/-
  Hosts that went down are either left alone, or tried again
  after a constant delay, at most a given number of times if
  there is one.
-/
inductive ReconnectionPolicy
| never
| constant (delay : Value) (maxAttempts : Option Value)
deriving Repr

namespace ReconnectionPolicy

/- The policy of a constant delay, which is not negative. -/
def ofDelay
    (delay : Value)
    (maxAttempts : Option Value) :
    Except Failure ReconnectionPolicy := do
  if ← delay.isNegative then
    .error .negativeDelay
  else
    .ok (.constant delay maxAttempts)

/-
  The policy of a configuration. The size of the queue bounds
  the attempts if it is positive.
-/
def ofConfigurator
    (configurator : Configurator) :
    Except Failure ReconnectionPolicy :=
  if !(configurator.option .retryDownedHosts).isTruthy then
    .ok .never
  else do
    let attempts :=
      configurator.option .retryDownedHostsQueueSize
    let bounded ← attempts.isPositive
    ofDelay
      (configurator.option .retryDownedHostsDelayInSeconds)
      (if bounded then some attempts else none)

------------------------------------------------------------
-- Schedules
------------------------------------------------------------

/-
  The delays of a policy: none, or one delay a number of times
  or without end.
-/
inductive Schedule
| finished
| repeated (delay : Value) (count : Option Nat)
deriving Repr

namespace Schedule

/- The first delays of a schedule, at most `n`. -/
def take (n : Nat) : Schedule → List Value
| .finished => []
| .repeated delay none => List.replicate n delay
| .repeated delay (some count) =>
    List.replicate (min n count) delay

end Schedule

/- The largest number of attempts that can be counted. -/
def maxCount : Nat := Nat.pow 2 63 - 1

/- The number of attempts that a value denotes. -/
def countOf (value : Value) : Except Failure Nat :=
  match value with
  | .int n =>
      if (maxCount : Int) < n then .error .countTooLarge
      else .ok n.toNat
  | .bool b => .ok (Value.boolInt b).toNat
  | _ => .error (.notAnIntegerCount value.kindName)

/- The schedule of a policy. -/
def schedule :
    ReconnectionPolicy → Except Failure Schedule
| .never => .ok .finished
| .constant delay none => .ok (.repeated delay none)
| .constant delay (some attempts) =>
    (countOf attempts).map fun count =>
      .repeated delay (some count)

end ReconnectionPolicy

end Keyspaces
