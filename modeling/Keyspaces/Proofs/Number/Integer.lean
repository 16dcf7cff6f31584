import Keyspaces.Number.Integer
import Mathlib.Algebra.Group.Nat.Defs
import Mathlib.Data.List.TakeWhile

/-
  The texts that denote integers: a sign that may be missing
  and decimal digits. The strict reading takes them, with one
  line end after them or without, unless they are too long,
  and so does the liberal reading.

  Main declarations:
    * `Integer.Denotes`
    * `Integer.isStrict_iff`
    * `Integer.readStrict_eq_value_iff`
    * `Integer.Denotes.readLiberal`
    * `Integer.denotes_toString`
-/

------------------------------------------------------------
-- Numerals
------------------------------------------------------------

namespace Keyspaces

namespace Number

namespace Integer

/- A row of decimal digits, of which there is at least one. -/
def IsNumeral (digits : List Char) : Prop :=
  digits ≠ [] ∧ ∀ c ∈ digits, Text.isAsciiDigit c = true

/- The number that a row of digits has in base ten. -/
def magnitude (digits : List Char) : Nat :=
  Nat.ofDigitChars 10 digits 0

/-
  Characters denote an integer: there is a sign, or none, and
  decimal digits, and nothing else.
-/
inductive Denotes : List Char → Int → Prop
| unsigned
    {digits : List Char}
    (hDigits : IsNumeral digits) :
    Denotes digits (magnitude digits)
| positive
    {digits : List Char}
    (hDigits : IsNumeral digits) :
    Denotes ('+' :: digits) (magnitude digits)
| negative
    {digits : List Char}
    (hDigits : IsNumeral digits) :
    Denotes ('-' :: digits) (-(magnitude digits : Int))

/- The number of digits among the characters. -/
def digitCount (cs : List Char) : Nat :=
  cs.countP Text.isAsciiDigit

/- There are not too many digits for a text to be read. -/
def IsShort (cs : List Char) : Prop :=
  digitCount cs ≤ digitLimit

/- A row of digits has as many digits as characters. -/
theorem digitCount_of_isNumeral
    {digits : List Char}
    (hDigits : IsNumeral digits) :
    digitCount digits = digits.length :=
  List.countP_eq_length.mpr hDigits.2

/- The number of a row of digits is read from left to right. -/
theorem ofDigits_eq_magnitude (digits : List Char) :
    ofDigits digits = magnitude digits :=
  rfl

/- What denotes an integer is made of digits and signs. -/
theorem Denotes.not_mem
    {cs : List Char}
    {n : Int}
    (h : Denotes cs n)
    {c : Char}
    (hDigit : Text.isAsciiDigit c = false)
    (hSign : c ≠ '+' ∧ c ≠ '-') : c ∉ cs := by
  rcases hSign with ⟨hPlus, hMinus⟩
  have hNumeral : ∀ digits, IsNumeral digits →
      c ∉ digits := by
    intro digits hDigits hMember
    have hOwn := hDigits.2 c hMember
    rw [hDigit] at hOwn
    contradiction
  cases h with
  | unsigned hDigits => exact hNumeral cs hDigits
  | @positive digits hDigits =>
      simp [hNumeral digits hDigits, hPlus]
  | @negative digits hDigits =>
      simp [hNumeral digits hDigits, hMinus]

/- No line end is part of what denotes an integer. -/
theorem Denotes.lineEnd_not_mem
    {cs : List Char}
    {n : Int}
    (h : Denotes cs n) : '\n' ∉ cs :=
  h.not_mem rfl (by decide)

------------------------------------------------------------
-- Strict Reading
------------------------------------------------------------

/- What may follow the digits: nothing, or one line end. -/
def IsEnd (tail : List Char) : Prop :=
  tail = [] ∨ tail = ['\n']

variable {digits tail : List Char}

/- The digits are all that is taken from a row before its end. -/
theorem takeWhile_numeral
    (hDigits : IsNumeral digits)
    (hTail : IsEnd tail) :
    (digits ++ tail).takeWhile Text.isAsciiDigit =
      digits := by
  rw [List.takeWhile_append_of_pos hDigits.2]
  rcases hTail with rfl | rfl
  · simp
  · simp [Text.isAsciiDigit]

/- The end is what is left when the digits are taken. -/
theorem dropWhile_numeral
    (hDigits : IsNumeral digits)
    (hTail : IsEnd tail) :
    (digits ++ tail).dropWhile Text.isAsciiDigit = tail := by
  rw [List.dropWhile_append_of_pos hDigits.2]
  rcases hTail with rfl | rfl
  · simp
  · simp [Text.isAsciiDigit]

/- Digits are no sign. -/
theorem takeSign_numeral
    (hDigits : IsNumeral digits)
    (tail : List Char) :
    takeSign (digits ++ tail) = (false, digits ++ tail) := by
  rcases hDigits with ⟨hSome, hDecimal⟩
  cases digits with
  | nil => contradiction
  | cons c digits =>
      have hDigit := hDecimal c List.mem_cons_self
      rw [List.cons_append]
      unfold takeSign
      split
      case h_1 hSign =>
        rw [(List.cons.inj hSign).1] at hDigit
        contradiction
      case h_2 hSign =>
        rw [(List.cons.inj hSign).1] at hDigit
        contradiction
      case h_3 => rfl

/- Characters are a sign, or none, and what is left of them. -/
theorem takeSign_cases (cs : List Char) :
    takeSign cs = (false, cs) ∨
      (∃ rest, cs = '+' :: rest ∧
        takeSign cs = (false, rest)) ∨
        ∃ rest, cs = '-' :: rest ∧
          takeSign cs = (true, rest) := by
  unfold takeSign
  split
  case h_1 rest => exact Or.inr (Or.inr ⟨rest, rfl, rfl⟩)
  case h_2 rest => exact Or.inr (Or.inl ⟨rest, rfl, rfl⟩)
  case h_3 => exact Or.inl rfl

/-
  What denotes an integer is a sign, or none, that is taken
  off, and a row of digits.
-/
theorem Denotes.takeSign
    {cs : List Char}
    {n : Int}
    (h : Denotes cs n)
    (tail : List Char) :
    ∃ negative digits,
      Integer.takeSign (cs ++ tail) =
          (negative, digits ++ tail) ∧
        IsNumeral digits ∧
          digitCount cs = digits.length ∧
            n = signed negative (magnitude digits) := by
  cases h with
  | unsigned hDigits =>
      exact
        ⟨false, cs, takeSign_numeral hDigits tail, hDigits,
          digitCount_of_isNumeral hDigits, rfl⟩
  | @positive digits hDigits =>
      exact
        ⟨false, digits, rfl, hDigits,
          digitCount_of_isNumeral hDigits, rfl⟩
  | @negative digits hDigits =>
      exact
        ⟨true, digits, rfl, hDigits,
          digitCount_of_isNumeral hDigits, rfl⟩

/- Characters denote one integer only. -/
theorem Denotes.unique
    {cs : List Char}
    {n m : Int}
    (h : Denotes cs n)
    (hOther : Denotes cs m) : n = m := by
  rcases h.takeSign [] with
    ⟨negative, digits, hSign, _, _, rfl⟩
  rcases hOther.takeSign [] with
    ⟨found, others, hFound, _, _, rfl⟩
  rw [hSign] at hFound
  simp only [List.append_nil, Prod.mk.injEq] at hFound
  rw [hFound.1, hFound.2]

/-
  What denotes an integer is read as this integer if it is
  short, also with an end after it.
-/
theorem Denotes.readStrict
    {cs : List Char}
    {n : Int}
    (h : Denotes cs n)
    (hTail : IsEnd tail) :
    Integer.readStrict (String.ofList (cs ++ tail)) =
      if digitLimit < digitCount cs then
        .tooLong (digitCount cs)
      else
        .value n := by
  rcases h.takeSign tail with
    ⟨negative, digits, hSign, hDigits, hCount, rfl⟩
  have hStrict : isStrict (cs ++ tail) = true := by
    unfold isStrict
    simp only [hSign, takeWhile_numeral hDigits hTail,
      dropWhile_numeral hDigits hTail]
    rcases hTail with rfl | rfl
    · simp [hDigits.1]
    · simp [hDigits.1]
  unfold Integer.readStrict
  simp only [String.toList_ofList, hStrict, if_true, hSign,
    takeWhile_numeral hDigits hTail, hCount,
    ofDigits_eq_magnitude]

/- The strict form is that of an integer with its end. -/
theorem isStrict_iff (cs : List Char) :
    isStrict cs = true ↔
      ∃ body n tail, cs = body ++ tail ∧ IsEnd tail ∧
        Denotes body n := by
  constructor
  · intro hStrict
    unfold isStrict at hStrict
    simp only [Bool.and_eq_true, Bool.not_eq_true',
      Bool.or_eq_true, beq_iff_eq, List.isEmpty_iff,
      List.isEmpty_eq_false_iff] at hStrict
    rcases hStrict with ⟨hSome, hTail⟩
    have hSplit :=
      List.takeWhile_append_dropWhile
        (p := Text.isAsciiDigit) (l := (takeSign cs).2)
    generalize hDigits :
      (takeSign cs).2.takeWhile Text.isAsciiDigit = digits
        at *
    generalize hRest :
      (takeSign cs).2.dropWhile Text.isAsciiDigit = tail
        at *
    have hNumeral : IsNumeral digits := by
      refine ⟨hSome, ?_⟩
      intro c hMember
      rw [← hDigits] at hMember
      exact List.mem_takeWhile_imp hMember
    rcases takeSign_cases cs with
      hNone | ⟨rest, rfl, hSign⟩ | ⟨rest, rfl, hSign⟩
    · rw [hNone] at hSplit
      exact
        ⟨digits, _, tail, hSplit.symm, hTail,
          .unsigned hNumeral⟩
    · rw [hSign] at hSplit
      refine
        ⟨'+' :: digits, _, tail, ?_, hTail,
          .positive hNumeral⟩
      rw [List.cons_append, hSplit]
    · rw [hSign] at hSplit
      refine
        ⟨'-' :: digits, _, tail, ?_, hTail,
          .negative hNumeral⟩
      rw [List.cons_append, hSplit]
  · rintro ⟨body, n, tail, rfl, hTail, hDenotes⟩
    have hRead := hDenotes.readStrict hTail
    by_contra hNot
    unfold Integer.readStrict at hRead
    rw [String.toList_ofList, if_neg hNot] at hRead
    split at hRead <;> contradiction

/-
  A text is read as an integer if it denotes this integer and
  is short, where one line end may follow.
-/
theorem readStrict_eq_value_iff
    (s : String)
    (n : Int) :
    readStrict s = .value n ↔
      ∃ body tail, s.toList = body ++ tail ∧ IsEnd tail ∧
        Denotes body n ∧ IsShort body := by
  constructor
  · intro hRead
    have hStrict : isStrict s.toList = true := by
      by_contra hNot
      unfold readStrict at hRead
      rw [if_neg hNot] at hRead
      contradiction
    rcases (isStrict_iff s.toList).mp hStrict with
      ⟨body, m, tail, hSplit, hTail, hDenotes⟩
    have hText : s = String.ofList (body ++ tail) := by
      rw [← hSplit, String.ofList_toList]
    rw [hText, hDenotes.readStrict hTail] at hRead
    split at hRead
    case isTrue => contradiction
    case isFalse hShort =>
      cases hRead
      exact
        ⟨body, tail, hSplit, hTail, hDenotes,
          Nat.not_lt.mp hShort⟩
  · rintro ⟨body, tail, hSplit, hTail, hDenotes, hShort⟩
    have hText : s = String.ofList (body ++ tail) := by
      rw [← hSplit, String.ofList_toList]
    rw [hText, hDenotes.readStrict hTail,
      if_neg (Nat.not_lt.mpr hShort)]

------------------------------------------------------------
-- Liberal Reading
------------------------------------------------------------

/- A digit is an ASCII character that is no blank. -/
theorem toNat_of_isAsciiDigit
    {c : Char}
    (h : Text.isAsciiDigit c = true) :
    0x30 ≤ c.toNat ∧ c.toNat ≤ 0x39 := by
  unfold Text.isAsciiDigit at h
  rw [Bool.and_eq_true, decide_eq_true_eq,
    decide_eq_true_eq] at h
  exact h

/- No underscores are misplaced where there are none. -/
theorem underscoresInside_numeral
    {digits : List Char}
    (hDigits : IsNumeral digits) :
    underscoresInside digits = true := by
  have hGo : ∀ (cs : List Char) (previous : Char),
      previous ≠ '_' →
        (∀ c ∈ cs, Text.isAsciiDigit c = true) →
          underscoresInside.go previous cs = true := by
    intro cs
    induction cs with
    | nil =>
        intro previous hPrevious _
        simpa [underscoresInside.go] using hPrevious
    | cons c cs ih =>
        intro previous hPrevious hRest
        rw [List.forall_mem_cons] at hRest
        have hOther : c ≠ '_' := by
          rintro rfl
          exact absurd hRest.1 (by decide)
        simp [underscoresInside.go, hPrevious,
          ih c hOther hRest.2]
  obtain ⟨hSome, hDecimal⟩ := hDigits
  cases digits with
  | nil => contradiction
  | cons c rest =>
      rw [List.forall_mem_cons] at hDecimal
      have hOther : c ≠ '_' := by
        rintro rfl
        exact absurd hDecimal.1 (by decide)
      unfold underscoresInside
      split
      case h_1 => rfl
      case h_2 hSame =>
        exact absurd (List.cons.inj hSame).1 hOther
      case h_3 hSame =>
        cases hSame
        exact hGo rest c hOther hDecimal.2

/- The characters of what denotes an integer. -/
theorem Denotes.toNat_lt
    {cs : List Char}
    {n : Int}
    (h : Denotes cs n) :
    ∀ c ∈ cs, isSpace c = false ∧ c.toNat < 0x80 := by
  have hNumeral : ∀ digits, IsNumeral digits →
      ∀ c ∈ digits, isSpace c = false ∧ c.toNat < 0x80 := by
    intro digits hDigits c hMember
    have hRange :=
      toNat_of_isAsciiDigit (hDigits.2 c hMember)
    have hBlank : c ≠ ' ' := by
      rintro rfl
      exact absurd hRange.1 (by decide)
    refine ⟨?_, by omega⟩
    simp only [isSpace, hBlank, decide_false, Bool.false_or,
      Bool.and_eq_false_iff, decide_eq_false_iff_not]
    omega
  cases h with
  | unsigned hDigits => exact hNumeral cs hDigits
  | @positive digits hDigits =>
      rw [List.forall_mem_cons]
      exact ⟨by decide, hNumeral digits hDigits⟩
  | @negative digits hDigits =>
      rw [List.forall_mem_cons]
      exact ⟨by decide, hNumeral digits hDigits⟩

/- What denotes an integer is read as it if it is short. -/
theorem Denotes.readLiberal
    {cs : List Char}
    {n : Int}
    (h : Denotes cs n)
    (hShort : IsShort cs) :
    Integer.readLiberal (String.ofList cs) = .value n := by
  have hPlain := h.toNat_lt
  obtain ⟨negative, digits, hSign, hDigits, hCount, rfl⟩ :=
    h.takeSign []
  rw [List.append_nil, List.append_nil] at hSign
  have hAscii :
      (cs.all fun c => decide (c.toNat < 0x80)) = true := by
    rw [List.all_eq_true]
    intro c hMember
    exact decide_eq_true (hPlain c hMember).2
  have hFront : cs.dropWhile isSpace = cs := by
    cases cs with
    | nil => rfl
    | cons c rest =>
        have hFirst := (hPlain c List.mem_cons_self).1
        simp [hFirst]
  have hBody : ∀ c ∈ digits, isBody c = true := by
    intro c hMember
    simp [isBody, hDigits.2 c hMember]
  have hTaken : digits.takeWhile isBody = digits :=
    List.takeWhile_eq_self_iff.mpr hBody
  have hDropped : digits.dropWhile isBody = [] :=
    List.dropWhile_eq_nil_iff.mpr hBody
  have hKept :
      digits.filter Text.isAsciiDigit = digits :=
    List.filter_eq_self.mpr hDigits.2
  have hFits : ¬ digitLimit < digits.length := by
    unfold IsShort at hShort
    omega
  unfold Integer.readLiberal readAscii
  simp only [String.toList_ofList, hAscii, if_true, hFront,
    hSign, hTaken, hDropped, hKept,
    underscoresInside_numeral hDigits, Bool.not_true,
    Bool.or_false, List.isEmpty_iff, hDigits.1, if_false,
    hFits, List.dropWhile_nil, ofDigits_eq_magnitude]

------------------------------------------------------------
-- Printing
------------------------------------------------------------

/- The decimal digits of a number are a row of digits. -/
theorem isNumeral_toDigits (n : Nat) :
    IsNumeral (Nat.toDigits 10 n) := by
  refine ⟨Nat.toDigits_ne_nil, ?_⟩
  intro c hMember
  exact
    Nat.isDigit_of_mem_toDigits (by decide) (by decide)
      hMember

/- They are the digits of this number. -/
theorem magnitude_toDigits (n : Nat) :
    magnitude (Nat.toDigits 10 n) = n :=
  Nat.ofDigitChars_ten_toDigits

/- The decimal text of an integer is a sign and its digits. -/
theorem toList_toString (n : Int) :
    (toString n).toList =
      if n < 0 then '-' :: Nat.toDigits 10 n.natAbs
      else Nat.toDigits 10 n.natAbs := by
  cases n with
  | ofNat n =>
      change n.repr.toList = _
      simp [Nat.repr_eq_ofList_toDigits]
  | negSucc n =>
      change ("-" ++ (n + 1).repr).toList = _
      simp [Nat.repr_eq_ofList_toDigits,
        Int.negSucc_lt_zero]

/- The decimal text of an integer denotes it. -/
theorem denotes_toString (n : Int) :
    Denotes (toString n).toList n := by
  have hDigits := isNumeral_toDigits n.natAbs
  rw [toList_toString]
  split
  case isTrue hNegative =>
    have hDenotes := Denotes.negative hDigits
    rw [magnitude_toDigits] at hDenotes
    rwa [Int.ofNat_natAbs_of_nonpos (Int.le_of_lt hNegative),
      Int.neg_neg] at hDenotes
  case isFalse hNegative =>
    have hDenotes := Denotes.unsigned hDigits
    rw [magnitude_toDigits] at hDenotes
    rwa [Int.natAbs_of_nonneg (Int.not_lt.mp hNegative)]
      at hDenotes

/- Integers with the same decimal text are the same. -/
theorem eq_of_toString_eq
    {n m : Int}
    (h : toString n = toString m) : n = m := by
  have hDenotes := denotes_toString n
  rw [h] at hDenotes
  exact hDenotes.unique (denotes_toString m)

/- The decimal text of an integer of 64 bits is short. -/
theorem isShort_toString
    {n : Int}
    (hSize : n.natAbs < 2 ^ 64) :
    IsShort (toString n).toList := by
  have hCount :
      digitCount (toString n).toList =
        (Nat.toDigits 10 n.natAbs).length := by
    have hDigits :=
      digitCount_of_isNumeral (isNumeral_toDigits n.natAbs)
    rw [toList_toString]
    split
    · exact hDigits
    · exact hDigits
  have hLength : (Nat.toDigits 10 n.natAbs).length ≤ 20 := by
    rw [Nat.length_toDigits_le_iff (by decide) (by decide)]
    exact hSize.trans (by decide)
  unfold IsShort digitLimit
  omega

end Integer

end Number

end Keyspaces
