import Keyspaces.Number.Double

/-
  Quotients of integers that are not too large are numbers of
  the format: rounding does not fail on them.

  Main statements:
    * `Double.exists_ofRatio`
    * `Double.exists_ofIntRatio`
-/

namespace Keyspaces

namespace Number

namespace Double

/- A numerator of 64 bits needs a small exponent. -/
theorem exponentFor_le
    {num : Nat}
    (hNum : num < Nat.pow 2 64)
    (den : Nat) :
    exponentFor num den ≤ 12 := by
  have hLog : Nat.log2 num < 64 := by
    by_cases hZero : num = 0
    · subst num
      decide
    · exact (Nat.log2_lt hZero).mpr hNum
  unfold exponentFor minExponent
  dsimp only
  split <;> omega

/- A quotient with a numerator of 64 bits is a number. -/
theorem exists_ofRatio
    (negative : Bool)
    {num : Nat}
    (hNum : num < Nat.pow 2 64)
    (den : Nat) :
    ∃ x, ofRatio? negative num den = some x := by
  have hExponent := exponentFor_le hNum den
  unfold ofRatio?
  split
  · exact ⟨_, rfl⟩
  · dsimp only
    have hSmall : ∀ exponent : Int, exponent ≤ 13 →
        ¬ maxExponent < exponent := by
      intro exponent hLe
      unfold maxExponent
      omega
    split
    · rw [if_neg (hSmall _ (by dsimp only; omega))]
      exact ⟨_, rfl⟩
    · rw [if_neg (hSmall _ (by dsimp only; omega))]
      exact ⟨_, rfl⟩

/- An integer of 64 bits has a quotient. -/
theorem exists_ofIntRatio
    {n : Int}
    (hSize : n.natAbs < Nat.pow 2 64)
    (den : Nat) :
    ∃ x, ofIntRatio? n den = some x :=
  exists_ofRatio (decide (n < 0)) hSize den

end Double

end Number

end Keyspaces
