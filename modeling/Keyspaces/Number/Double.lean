/-
  This file defines numbers in the binary format of 64 bits:
  a sign, eleven bits of exponent and 52 bits of fraction.
  All arithmetic on them is exact arithmetic on integers
  followed by one rounding to the nearest, of two nearest to
  the even one.

  Main definitions:
    * `Double`
    * `Double.Parts`
    * `Double.parts`
    * `Double.ofRatio?`
    * `Double.div`
    * `Double.compareInt`
    * `Double.equal`
    * `Double.truncate?`
-/

namespace Keyspaces

namespace Number

/- A number of the format is its 64 bits. -/
structure Double where
  bits : UInt64
deriving DecidableEq, Repr

namespace Double

------------------------------------------------------------
-- Parts
------------------------------------------------------------

/-
  What the bits stand for. A finite number is
  `mantissa * 2 ^ exponent` with its sign.
-/
inductive Parts
| notANumber
| infinite (negative : Bool)
| finite (negative : Bool) (mantissa : Nat) (exponent : Int)
deriving DecidableEq, Repr

/- The smallest exponent of a finite number. -/
def minExponent : Int := -1074

/- The largest exponent of a finite number. -/
def maxExponent : Int := 971

/- Read the bits. -/
def parts (x : Double) : Parts :=
  let n := x.bits.toNat
  let negative := Nat.pow 2 63 ≤ n
  let field : Nat := n / Nat.pow 2 52 % Nat.pow 2 11
  let fraction : Nat := n % Nat.pow 2 52
  if field = Nat.pow 2 11 - 1 then
    if fraction = 0 then .infinite negative else .notANumber
  else if field = 0 then
    .finite negative fraction minExponent
  else
    .finite negative (Nat.pow 2 52 + fraction)
      (minExponent + field - 1)

/- The bit of the sign. -/
def signBit (negative : Bool) : Nat :=
  if negative then Nat.pow 2 63 else 0

/- The infinite number of a sign. -/
def infinity (negative : Bool) : Double :=
  ⟨UInt64.ofNat (signBit negative +
    (Nat.pow 2 11 - 1) * Nat.pow 2 52)⟩

/- The quiet value that is no number. -/
def notANumber : Double :=
  ⟨UInt64.ofNat ((Nat.pow 2 11 - 1) * Nat.pow 2 52 +
    Nat.pow 2 51)⟩

/-
  The finite number with a mantissa below `2 ^ 53` that is at
  least `2 ^ 52` unless the exponent is the smallest.
-/
def ofParts
    (negative : Bool)
    (mantissa : Nat)
    (exponent : Int) : Double :=
  if mantissa < Nat.pow 2 52 then
    ⟨UInt64.ofNat (signBit negative + mantissa)⟩
  else
    ⟨UInt64.ofNat (signBit negative +
      (exponent - minExponent + 1).toNat * Nat.pow 2 52 +
      (mantissa - Nat.pow 2 52))⟩

------------------------------------------------------------
-- Rounding
------------------------------------------------------------

/-
  The integer nearest to a quotient, of two nearest the even
  one.
-/
def roundedQuotient (num den : Nat) : Nat :=
  let down := num / den
  let twice := 2 * (num % den)
  if twice < den then
    down
  else if den < twice then
    down + 1
  else if down % 2 = 0 then
    down
  else
    down + 1

/- Scale a quotient by a power of two, as a new quotient. -/
def scaled
    (num den : Nat)
    (power : Int) : Nat × Nat :=
  if 0 ≤ power then
    (num * Nat.pow 2 power.toNat, den)
  else
    (num, den * Nat.pow 2 (-power).toNat)

/-
  The exponent at which a positive quotient has 53 bits before
  the point, or the smallest exponent if that is larger.
-/
def exponentFor (num den : Nat) : Int :=
  let guess : Int :=
    (Nat.log2 num : Int) - (Nat.log2 den : Int) - 53
  let (n, d) := scaled num den (-guess)
  max (if n / d < Nat.pow 2 53 then guess else guess + 1)
    minExponent

/-
  The number nearest to a quotient. There is none when the
  quotient is too large.
-/
def ofRatio?
    (negative : Bool)
    (num den : Nat) : Option Double :=
  if num = 0 then
    some (ofParts negative 0 minExponent)
  else
    let exponent := exponentFor num den
    let (n, d) := scaled num den (-exponent)
    let mantissa := roundedQuotient n d
    let (mantissa, exponent) :=
      if mantissa = Nat.pow 2 53 then
        (Nat.pow 2 52, exponent + 1)
      else
        (mantissa, exponent)
    if maxExponent < exponent then
      none
    else
      some (ofParts negative mantissa exponent)

/- The quotient of an integer and a positive integer. -/
def ofIntRatio? (n : Int) (den : Nat) : Option Double :=
  ofRatio? (decide (n < 0)) n.natAbs den

/- A number divided by a positive integer. -/
def div (x : Double) (den : Nat) : Double :=
  match x.parts with
  | .notANumber => x
  | .infinite _ => x
  | .finite negative mantissa exponent =>
      let (n, d) := scaled mantissa den exponent
      (ofRatio? negative n d).getD (infinity negative)

------------------------------------------------------------
-- Comparison
------------------------------------------------------------

/-
  The order of a number and an integer. A value that is no
  number has no place in it.
-/
def compareInt? (x : Double) (n : Int) : Option Ordering :=
  match x.parts with
  | .notANumber => none
  | .infinite negative => some (if negative then .lt else .gt)
  | .finite negative mantissa exponent =>
      let (num, den) := scaled mantissa 1 exponent
      let signed : Int := if negative then -num else num
      some (compare signed (n * den))

/-
  Equality as a number: the two zeros are equal, and what is
  no number differs from everything.
-/
def equal (x y : Double) : Bool :=
  match x.parts, y.parts with
  | .notANumber, _ => false
  | _, .notANumber => false
  | .finite _ 0 _, .finite _ 0 _ => true
  | _, _ => x.bits == y.bits

/- The value is one of the two zeros. -/
def isZero (x : Double) : Bool :=
  match x.parts with
  | .finite _ 0 _ => true
  | _ => false

/- The value is no number. -/
def isNotANumber (x : Double) : Bool :=
  x.parts == .notANumber

/-
  The integer part of a finite number, the fraction dropped.
-/
def truncate? (x : Double) : Option Int :=
  match x.parts with
  | .finite negative mantissa exponent =>
      let (num, den) := scaled mantissa 1 exponent
      some (if negative then -(num / den : Nat) else num / den)
  | _ => none

end Double

end Number

end Keyspaces
