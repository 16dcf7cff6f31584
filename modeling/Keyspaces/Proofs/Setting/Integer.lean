import Keyspaces.Proofs.Number.Integer
import Keyspaces.Proofs.Setting
import Mathlib.Tactic.Linarith

/-
  The language of integer settings: which texts they accept,
  and as which integers.

  Main declarations:
    * `Setting.InRange`
    * `Setting.coerce_text_eq_ok_iff`
    * `Setting.IsExact`
    * `Setting.Speaks`
    * `Setting.speaks_integer`
-/

namespace Keyspaces

namespace Setting

open Number

------------------------------------------------------------
-- Accepted Texts
------------------------------------------------------------

/- The integer is one of two's complement with some bits. -/
def InRange (bits : Nat) (n : Int) : Prop :=
  -2 ^ (bits - 1) ≤ n ∧ n < 2 ^ (bits - 1)

/- An integer fits if it is in range. -/
theorem fits_iff (bits : Nat) (n : Int) :
    fits bits n = true ↔ InRange bits n := by
  have hBound :
      Int.ofNat (Nat.pow 2 (bits - 1)) =
        (2 : Int) ^ (bits - 1) := by
    change ((2 ^ (bits - 1) : Nat) : Int) = _
    push_cast
    rfl
  unfold fits InRange
  rw [hBound]
  simp only [Bool.and_eq_true, decide_eq_true_eq]
  exact And.comm

/- An integer in the range of at most 64 bits is not large. -/
theorem InRange.natAbs_lt
    {bits : Nat}
    {n : Int}
    (h : InRange bits n)
    (hBits : bits ≤ 64) : n.natAbs < 2 ^ 64 := by
  have hPower : (2 : Int) ^ (bits - 1) ≤ 2 ^ 63 :=
    pow_le_pow_right₀ (by decide) (by omega)
  rcases h with ⟨hLow, hHigh⟩
  omega

variable {bits : Nat}
variable {default : Value}
variable {key : String}

/-
  A text is accepted if it denotes an integer in range and is
  short, where one line end may follow.
-/
theorem coerce_text_eq_ok_iff
    (s : String)
    (value : Value) :
    (ofDomain (.integer bits) default).coerce (.text s) key =
        .ok value ↔
      ∃ n, (∃ body tail, s.toList = body ++ tail ∧
          Integer.IsEnd tail ∧ Integer.Denotes body n ∧
            Integer.IsShort body) ∧
        InRange bits n ∧ value = .int n := by
  simp only [← Integer.readStrict_eq_value_iff]
  rw [coerce_eq_ok_iff]
  unfold Domain.format
  dsimp only
  rw [Outcome.map_eq_ok_iff]
  unfold integerOfBits integerOf
  simp only [Outcome.bind_eq_ok_iff]
  constructor
  · rintro ⟨n, ⟨m, hRead, hFits⟩, rfl⟩
    split at hFits
    case isFalse => contradiction
    case isTrue hRange =>
      cases hFits
      split at hRead
      case h_1 found hFound =>
        cases hRead
        exact ⟨n, hFound, (fits_iff bits n).mp hRange, rfl⟩
      case h_2 => contradiction
      case h_3 => contradiction
  · rintro ⟨n, hRead, hRange, rfl⟩
    refine ⟨n, ⟨n, ?_, ?_⟩, rfl⟩
    · rw [hRead]
    · rw [if_pos ((fits_iff bits n).mpr hRange)]

/- A text that is not accepted is a fault in configuration. -/
theorem exists_error_of_not_ok
    {s : String}
    (hNot :
      ∀ coerced,
        (ofDomain (.integer bits) default).coerce (.text s)
            key ≠
          .ok coerced) :
    ∃ failure,
      (ofDomain (.integer bits) default).coerce (.text s)
            key =
          .error failure ∧
        failure.kind = .configuration := by
  have hFails :
      Outcome.FailsAs (· = .configuration)
        ((ofDomain (.integer bits) default).coerce (.text s)
          key) :=
    failsAs_coerce _ default rfl key
  cases hCoerce :
      (ofDomain (.integer bits) default).coerce (.text s)
        key with
  | ok coerced => exact absurd hCoerce (hNot coerced)
  | error failure => exact ⟨failure, rfl, hFails _ hCoerce⟩

------------------------------------------------------------
-- Exactness
------------------------------------------------------------

/-
  A setting treats a text exactly: it accepts it if it denotes
  an integer in range, as this integer, and refuses it as a
  fault in the configuration otherwise.
-/
def IsExact
    (bits : Nat)
    (default : Value)
    (key s : String) : Prop :=
  (∀ value,
      (ofDomain (.integer bits) default).coerce (.text s)
            key =
          .ok value ↔
        ∃ n, Integer.Denotes s.toList n ∧ InRange bits n ∧
          value = .int n) ∧
    ∀ failure,
      (ofDomain (.integer bits) default).coerce (.text s)
            key =
          .error failure →
        failure.kind = .configuration

/-
  A text that is treated otherwise: it denotes an integer in
  range but for a line end after the digits, or it has too
  many digits for one in range, which are leading zeros.
-/
inductive Departs (bits : Nat) (s : String) : Prop
| lineEnd
    {body : List Char}
    {n : Int}
    (hText : s.toList = body ++ ['\n'])
    (hDenotes : Integer.Denotes body n)
    (hShort : Integer.IsShort body)
    (hRange : InRange bits n)
| tooLong
    {n : Int}
    (hDenotes : Integer.Denotes s.toList n)
    (hLong : ¬ Integer.IsShort s.toList)
    (hRange : InRange bits n)

/- A setting treats every text exactly that does not depart. -/
theorem isExact_iff_not_departs (s : String) :
    IsExact bits default key s ↔ ¬ Departs bits s := by
  have hAccepted : ∀ value,
      (ofDomain (.integer bits) default).coerce (.text s)
          key = .ok value ↔ _ :=
    coerce_text_eq_ok_iff s
  constructor
  · rintro ⟨hExact, _⟩ hDeparts
    cases hDeparts with
    | @lineEnd body n hText hDenotes hShort hRange =>
        have hCoerced :=
          (hAccepted (.int n)).mpr
            ⟨n, ⟨body, _, hText, .inr rfl, hDenotes, hShort⟩,
              hRange, rfl⟩
        rcases (hExact (.int n)).mp hCoerced with
          ⟨m, hOther, _, _⟩
        apply hOther.lineEnd_not_mem
        simp [hText]
    | @tooLong n hDenotes hLong hRange =>
        have hCoerced :=
          (hExact (.int n)).mpr ⟨n, hDenotes, hRange, rfl⟩
        rcases (hAccepted (.int n)).mp hCoerced with
          ⟨m, ⟨body, tail, hText, hTail, _, hShort⟩, _, _⟩
        rcases hTail with rfl | rfl
        · rw [List.append_nil] at hText
          rw [hText] at hLong
          exact hLong hShort
        · apply hDenotes.lineEnd_not_mem
          simp [hText]
  · intro hNot
    refine ⟨?_, failsAs_coerce _ _ rfl _⟩
    intro value
    rw [hAccepted]
    constructor
    · rintro ⟨n, ⟨body, tail, hText, hTail, hDenotes, hShort⟩,
        hRange, rfl⟩
      rcases hTail with rfl | rfl
      · rw [List.append_nil] at hText
        rw [← hText] at hDenotes
        exact ⟨n, hDenotes, hRange, rfl⟩
      · exact
          absurd (.lineEnd hText hDenotes hShort hRange) hNot
    · rintro ⟨n, hDenotes, hRange, rfl⟩
      have hShort : Integer.IsShort s.toList := by
        by_contra hLong
        exact hNot (.tooLong hDenotes hLong hRange)
      exact
        ⟨n, ⟨s.toList, [], (List.append_nil _).symm, .inl rfl,
          hDenotes, hShort⟩, hRange, rfl⟩

------------------------------------------------------------
-- The Language
------------------------------------------------------------

/-
  The language of a setting of integers with some bits. What
  is accepted denotes an integer in range, is short, and may
  have one line end behind it, and all else is a fault in the
  configuration. So texts are treated exactly unless they
  depart, and the decimal text of an integer is accepted as
  this integer if it is in range and refused if it is not.
-/
structure Speaks
    (bits : Nat)
    (default : Value)
    (key : String) : Prop where
  accepted :
    ∀ s value,
      (ofDomain (.integer bits) default).coerce (.text s)
            key =
          .ok value ↔
        ∃ n, (∃ body tail, s.toList = body ++ tail ∧
            Integer.IsEnd tail ∧ Integer.Denotes body n ∧
              Integer.IsShort body) ∧
          InRange bits n ∧ value = .int n
  refused :
    ∀ s failure,
      (ofDomain (.integer bits) default).coerce (.text s)
            key =
          .error failure →
        failure.kind = .configuration
  exact_iff :
    ∀ s, IsExact bits default key s ↔ ¬ Departs bits s
  printed :
    ∀ n, InRange bits n →
      (ofDomain (.integer bits) default).coerce
          (.text (toString n)) key =
        .ok (.int n)
  outOfRange :
    ∀ n, ¬ InRange bits n →
      ∃ failure,
        (ofDomain (.integer bits) default).coerce
              (.text (toString n)) key =
            .error failure ∧
          failure.kind = .configuration

/- Settings of integers with at most 64 bits speak this. -/
theorem speaks_integer
    {bits : Nat}
    (hBits : bits ≤ 64)
    (default : Value)
    (key : String) : Speaks bits default key := by
  constructor
  case accepted => exact coerce_text_eq_ok_iff
  case refused =>
    intro s
    exact failsAs_coerce _ _ rfl _
  case exact_iff => exact isExact_iff_not_departs
  case printed =>
    intro n hRange
    rw [coerce_text_eq_ok_iff]
    have hShort :=
      Integer.isShort_toString (hRange.natAbs_lt hBits)
    exact
      ⟨n, ⟨_, [], (List.append_nil _).symm, .inl rfl,
        Integer.denotes_toString n, hShort⟩, hRange, rfl⟩
  case outOfRange =>
    intro n hRange
    apply exists_error_of_not_ok
    intro value hCoerced
    rcases (coerce_text_eq_ok_iff _ _).mp hCoerced with
      ⟨m, ⟨body, tail, hText, hTail, hDenotes, _⟩, hOther, _⟩
    have hPrinted := Integer.denotes_toString n
    rcases hTail with rfl | rfl
    · rw [List.append_nil] at hText
      rw [hText] at hPrinted
      cases hPrinted.unique hDenotes
      exact hRange hOther
    · apply hPrinted.lineEnd_not_mem
      rw [hText]
      simp

/- The least integer of 32 bits is accepted as a text. -/
theorem speaks_least :
    32 ≤ 64 ∧ InRange 32 (-2147483648) ∧
      (ofDomain (.integer 32) .null).coerce
          (.text "-2147483648") "maxActive" =
        .ok (.int (-2147483648)) := by
  have hRange : InRange 32 (-2147483648) := by
    unfold InRange
    decide
  exact
    ⟨by decide, hRange,
      (speaks_integer (by decide) .null "maxActive").printed
        (-2147483648) hRange⟩

/- A line end after a digit is overlooked. -/
theorem not_isExact_lineEnd :
    ¬ IsExact 32 .null "" "1\n" := by
  rw [isExact_iff_not_departs, not_not]
  have hDigit : Integer.IsNumeral ['1'] := by
    simp [Integer.IsNumeral, Text.isAsciiDigit]
  have hShort : Integer.IsShort ['1'] := by
    unfold Integer.IsShort
    decide
  have hRange : InRange 32 (Integer.magnitude ['1']) := by
    unfold InRange
    decide
  exact .lineEnd rfl (.unsigned hDigit) hShort hRange

end Setting

end Keyspaces
