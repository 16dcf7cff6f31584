import Keyspaces.Number.Double

/-
  This file defines the decimal text of a number in the binary
  format of 64 bits: the fewest digits that read back as the
  same number, and of those the nearest.

  Main definitions:
    * `Double.Decimal`
    * `Double.shortest`
    * `Double.text`
-/

namespace Keyspaces

namespace Number

namespace Double

------------------------------------------------------------
-- Shortest Digits
------------------------------------------------------------

/-
  The decimal `digits * 10 ^ scale`, its digits read as one
  integer.
-/
structure Decimal where
  digits : Nat
  scale : Int
deriving DecidableEq, Repr

/-
  The quotient `num / den` in units of a power of ten, as a
  new quotient.
-/
def inTens
    (num den : Nat)
    (scale : Int) : Nat × Nat :=
  if 0 ≤ scale then
    (num, den * Nat.pow 10 scale.toNat)
  else
    (num * Nat.pow 10 (-scale).toNat, den)

/-
  All reals between `low / den` and `high / den` read back as
  the number `value / den`; the ends do so when `closed`.
-/
structure Interval where
  low : Nat
  value : Nat
  high : Nat
  den : Nat
  closed : Bool
deriving Repr

namespace Interval

/-
  The interval of a mantissa and exponent, measured in quarter
  units of the mantissa. Below a power of two the neighbour is
  half as far away.
-/
def ofParts
    (mantissa : Nat)
    (exponent : Int) : Interval :=
  let lowGap :=
    if mantissa = Nat.pow 2 52 && minExponent < exponent then 1
    else 2
  let (unit, den) := scaled 1 1 (exponent - 2)
  { low := (4 * mantissa - lowGap) * unit
    value := 4 * mantissa * unit
    high := (4 * mantissa + 2) * unit
    den := den
    closed := mantissa % 2 = 0 }

/- The decimal reads back as the number. -/
def holds
    (range : Interval)
    (decimal : Decimal) : Bool :=
  let (low, den) := inTens range.low range.den decimal.scale
  let (high, _) := inTens range.high range.den decimal.scale
  let point := decimal.digits * den
  if range.closed then
    low ≤ point && point ≤ high
  else
    low < point && point < high

/-
  The decimals next to the value below and above on the grid
  of a scale, in order of their distance.
-/
def neighbours
    (range : Interval)
    (scale : Int) : List Decimal :=
  let (num, den) := inTens range.value range.den scale
  let down := num / den
  let twice := 2 * (num % den)
  let below : Decimal := ⟨down, scale⟩
  let above : Decimal := ⟨down + 1, scale⟩
  if twice < den || (twice = den && down % 2 = 0) then
    [below, above]
  else
    [above, below]

/-
  The first decimal that reads back, on grids that become ten
  times finer at each of `count` steps.
-/
def search
    (range : Interval) :
    (count : Nat) → (scale : Int) → Option Decimal
| 0, _ => none
| count + 1, scale =>
    match (neighbours range scale).find? range.holds with
    | some decimal => some decimal
    | none => search range count (scale - 1)

end Interval

/-
  A scale above all digits of a positive finite number: its
  magnitude is below `10 ^ topScale`, for the binary logarithm
  of the number is below `Nat.log2 mantissa + 1 + exponent`
  and that of ten above `100000 / 30103`.
-/
def topScale (mantissa : Nat) (exponent : Int) : Int :=
  ((Nat.log2 mantissa : Int) + exponent) * 30103 / 100000 + 2

/-
  The shortest decimal of a positive finite number.
-/
def shortest
    (mantissa : Nat)
    (exponent : Int) : Decimal :=
  let range := Interval.ofParts mantissa exponent
  (range.search 22 (topScale mantissa exponent)).getD
    ⟨0, 0⟩

------------------------------------------------------------
-- Text
------------------------------------------------------------

/- The digits without the zeros at the end. -/
def dropZeros (digits : List Char) : List Char :=
  (digits.reverse.dropWhile (· = '0')).reverse

/- Zeros, `count` in number. -/
def zeros (count : Nat) : List Char :=
  List.replicate count '0'

/-
  The digits with the point after the first `point` of them.
  Numbers from `10 ^ -4` to below `10 ^ 16` are written
  with their point in place, others with an exponent of two
  digits or more.
-/
def placed
    (digits : List Char)
    (point : Int) : List Char :=
  let count : Int := digits.length
  if -4 < point && point ≤ 16 then
    if point ≤ 0 then
      '0' :: '.' :: zeros (-point).toNat ++ digits
    else if count ≤ point then
      digits ++ zeros (point - count).toNat ++ ['.', '0']
    else
      digits.take point.toNat ++
        '.' :: digits.drop point.toNat
  else
    let power := point - 1
    let mantissa :=
      match digits with
      | d :: [] => [d]
      | d :: more => d :: '.' :: more
      | [] => []
    let size := (toString power.natAbs).toList
    mantissa ++ 'e' :: (if power < 0 then '-' else '+') ::
      (zeros (2 - size.length) ++ size)

/- The text of a number. -/
def text (x : Double) : String :=
  match x.parts with
  | .notANumber => "nan"
  | .infinite negative => if negative then "-inf" else "inf"
  | .finite negative mantissa exponent =>
      let unsigned :=
        if mantissa = 0 then
          ['0', '.', '0']
        else
          let decimal := shortest mantissa exponent
          let all := (toString decimal.digits).toList
          placed (dropZeros all)
            (all.length + decimal.scale)
      String.ofList
        (if negative then '-' :: unsigned else unsigned)

end Double

end Number

end Keyspaces
