/-
  This file defines tables of code point ranges and runs of
  case mappings, the form in which the character classes of
  the text modules are written down.

  Main definitions:
    * `CodeRange.covers`
    * `CaseRun`
    * `CaseRun.target?`
-/

namespace Keyspaces

namespace Text

------------------------------------------------------------
-- Code Point Ranges
------------------------------------------------------------

namespace CodeRange

/- Some range of the table holds the code point. -/
def covers
    (table : List (Nat × Nat))
    (code : Nat) : Bool :=
  table.any fun range =>
    range.1 ≤ code && code ≤ range.2

end CodeRange

------------------------------------------------------------
-- Case Runs
------------------------------------------------------------

/-
  A run of letters whose partners of the other case lie at a
  constant distance. The letters of the run stand `step`
  apart.
-/
structure CaseRun where
  first : Nat
  last : Nat
  step : Nat
  shift : Int
deriving DecidableEq, Repr

namespace CaseRun

/- The run holds the code point. -/
def covers
    (run : CaseRun)
    (code : Nat) : Bool :=
  run.first ≤ code && code ≤ run.last &&
    (code - run.first) % run.step == 0

/-
  The partner of a code point in the first run that holds
  it.
-/
def target?
    (runs : List CaseRun)
    (code : Nat) : Option Nat :=
  (runs.find? fun run => run.covers code).map fun run =>
    ((code : Int) + run.shift).toNat

end CaseRun

end Text

end Keyspaces
