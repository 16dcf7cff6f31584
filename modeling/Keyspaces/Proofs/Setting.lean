import Keyspaces.Config
import Keyspaces.Proofs.Outcome

/-
  What the settings of a domain make of values, and how they
  refuse them. A value that is refused is shown, and if this
  cannot be done the failure to do so is what is reported.

  Main declarations:
    * `Setting.failsAs_coerce`
    * `Setting.coerce_of_unwritable`
    * `Setting.coerce_integer`
    * `Setting.coerce_flag`
    * `Config.Overlong`
    * `Config.failsAs_read`
    * `Config.read_of_overlong`
-/

------------------------------------------------------------
-- Faults in Values
------------------------------------------------------------

namespace Keyspaces

namespace Setting

open Number Outcome

/- The kind of a fault in a value itself. -/
def IsValueFault (kind : Failure.Kind) : Prop :=
  kind = .wrongValue

theorem failsAs_integerOf (value : Value) :
    FailsAs IsValueFault (integerOf value) := by
  unfold integerOf
  split
  case h_1 => exact .ok _
  case h_2 =>
    split
    · exact .ok _
    · exact .error rfl
    · exact .error rfl
  case h_3 => exact .error rfl

theorem failsAs_integerOfBits
    (bits : Nat)
    (value : Value) :
    FailsAs IsValueFault (integerOfBits bits value) := by
  unfold integerOfBits
  refine .bind (failsAs_integerOf value) ?_
  intro n _
  split
  · exact .ok n
  · exact .error rfl

theorem failsAs_toFlag (value : Value) :
    FailsAs IsValueFault value.toFlag := by
  unfold Value.toFlag
  split
  case h_1 => exact .ok _
  case h_2 =>
    split
    · exact .ok _
    · split
      · exact .ok _
      · exact .error rfl
  case h_3 => exact .error rfl

theorem failsAs_toItems (value : Value) :
    FailsAs IsValueFault value.toItems := by
  unfold Value.toItems
  split
  case h_7 => exact .error rfl
  all_goals exact .ok _

/- Every domain refuses values for what they are. -/
theorem failsAs_format
    (domain : Domain)
    (value : Value) :
    FailsAs IsValueFault (domain.format value) := by
  cases domain with
  | plain => exact .ok value
  | text =>
      unfold Domain.format
      dsimp only
      split
      · exact .ok _
      · exact .error rfl
  | flag => exact .map Value.bool (failsAs_toFlag value)
  | integer bits =>
      exact .map Value.int (failsAs_integerOfBits bits value)
  | items => exact .map Value.list (failsAs_toItems value)

/- A fault in a value is reported with the value. -/
theorem nameFault_of_isValueFault
    {fault : Failure}
    (hFault : IsValueFault fault.kind)
    (value : Value)
    (key : String) :
    nameFault value key fault =
      .showing value
        (.invalidValue value (keyName key) fault) := by
  rw [nameFault, hFault]
  rfl

/-
  A value that is refused is a fault in the configuration if
  it can be shown.
-/
theorem failsAs_coerce
    (domain : Domain)
    (default : Value)
    {value : Value}
    (hValue : value.isWritable = true)
    (key : String) :
    FailsAs (· = .configuration)
      ((ofDomain domain default).coerce value key) := by
  refine .mapError (failsAs_format domain value) ?_
  intro failure hFault
  rw [nameFault_of_isValueFault hFault,
    Failure.showing_of_writable hValue]
  rfl

/-
  A value that is refused and cannot be shown is not reported
  as a fault in the configuration.
-/
theorem coerce_of_unwritable
    (domain : Domain)
    (default : Value)
    {value : Value}
    {fault : Failure}
    (hValue : value.isWritable = false)
    (hFault : domain.format value = .error fault)
    (key : String) :
    (ofDomain domain default).coerce value key =
      .error .unwritableInteger := by
  have hKind := failsAs_format domain value fault hFault
  have hFormat :
      (ofDomain domain default).format value =
        .error fault :=
    hFault
  unfold coerce
  rw [hFormat]
  apply congrArg Except.error
  rw [nameFault_of_isValueFault hKind,
    Failure.showing_of_unwritable hValue]

/- A number has no more decimal digits than bits. -/
theorem two_pow_lt_ten_pow
    {bits digits : Nat}
    (hBits : bits ≤ digits)
    (hDigits : 0 < digits) :
    Nat.pow 2 (bits - 1) < Nat.pow 10 digits := by
  have hFewer : 2 ^ (bits - 1) ≤ 2 ^ digits :=
    Nat.pow_le_pow_right (by decide) (by omega)
  have hSmaller : 2 ^ digits < 10 ^ digits :=
    Nat.pow_lt_pow_left (by decide) (by omega)
  exact Nat.lt_of_le_of_lt hFewer hSmaller

/- An integer that fits in bits has a text. -/
theorem isWritable_of_fits
    {bits : Nat}
    (hBits : bits ≤ Integer.digitLimit)
    {n : Int}
    (hFits : fits bits n = true) :
    Integer.isWritable n = true := by
  have hLimit : 0 < Integer.digitLimit := by decide
  have hBound := two_pow_lt_ten_pow hBits hLimit
  simp only [fits, Int.ofNat_eq_natCast, Bool.and_eq_true,
    decide_eq_true_eq] at hFits
  have hShort : n.natAbs ≤ Nat.pow 2 (bits - 1) := by
    omega
  exact decide_eq_true (Nat.lt_of_le_of_lt hShort hBound)

/-
  An integer setting refuses values that cannot be shown, for
  an integer with so many digits does not fit in its bits.
-/
theorem exists_fault_of_unwritable
    {bits : Nat}
    (hBits : bits ≤ Integer.digitLimit)
    {value : Value}
    (hValue : value.isWritable = false) :
    ∃ fault,
      (Domain.integer bits).format value = .error fault := by
  cases value with
  | int n =>
      have hFits : fits bits n = false := by
        cases hSome : fits bits n with
        | false => rfl
        | true =>
            have hWritable := isWritable_of_fits hBits hSome
            unfold Value.isWritable at hValue
            rw [hWritable] at hValue
            exact absurd hValue (by decide)
      refine ⟨.outOfRange bits, ?_⟩
      unfold Domain.format integerOfBits integerOf
      simp only [bind, Except.bind, hFits]
      rfl
  | text s => contradiction
  | _ => exact ⟨.notInteger, rfl⟩

end Setting

end Keyspaces

------------------------------------------------------------
-- Accepted Values
------------------------------------------------------------

namespace Keyspaces

namespace Setting

/- A setting accepts what its domain does. -/
theorem coerce_eq_ok_iff
    (domain : Domain)
    (default value coerced : Value)
    (key : String) :
    (ofDomain domain default).coerce value key =
        .ok coerced ↔
      domain.format value = .ok coerced :=
  Outcome.mapError_eq_ok_iff _ _ _

/- An integer setting answers with integers that fit. -/
theorem coerce_integer
    {bits : Nat}
    {default value coerced : Value}
    {key : String}
    (h :
      (ofDomain (.integer bits) default).coerce value key =
        .ok coerced) :
    ∃ n, coerced = .int n ∧ fits bits n = true := by
  rw [coerce_eq_ok_iff] at h
  unfold Domain.format at h
  dsimp only at h
  rw [Outcome.map_eq_ok_iff] at h
  rcases h with ⟨n, hRead, hCoerced⟩
  rw [integerOfBits, Outcome.bind_eq_ok_iff] at hRead
  rcases hRead with ⟨m, _, hFits⟩
  split at hFits
  · cases hFits
    exact ⟨n, hCoerced.symm, by assumption⟩
  · contradiction

/- A flag setting answers with truth values. -/
theorem coerce_flag
    {default value coerced : Value}
    {key : String}
    (h :
      (ofDomain .flag default).coerce value key =
        .ok coerced) :
    ∃ b, coerced = .bool b := by
  rw [coerce_eq_ok_iff] at h
  unfold Domain.format at h
  dsimp only at h
  rw [Outcome.map_eq_ok_iff] at h
  rcases h with ⟨b, _, hCoerced⟩
  exact ⟨b, hCoerced.symm⟩

/- A text is true for a flag setting if it says so. -/
theorem coerce_flag_text_iff
    (default : Value)
    (s key : String)
    (b : Bool) :
    (ofDomain .flag default).coerce (.text s) key =
        .ok (.bool b) ↔
      s = if b then "true" else "false" := by
  rw [coerce_eq_ok_iff]
  unfold Domain.format
  dsimp only
  rw [Outcome.map_eq_ok_iff]
  unfold Value.toFlag
  dsimp only
  by_cases hTrue : s = "true"
  · subst s
    cases b <;> simp
  · by_cases hFalse : s = "false"
    · subst s
      cases b <;> simp
    · cases b <;> simp [hTrue, hFalse]

end Setting

end Keyspaces

------------------------------------------------------------
-- Reading Configurations
------------------------------------------------------------

namespace Keyspaces

namespace Config

open Outcome

/- What is read is the default, or what was coerced. -/
theorem read_cases
    (conf : Config)
    (named : Setting.Named) :
    conf.read named = .ok named.setting.default ∨
      ∃ value,
        conf.read named =
          named.setting.coerce value named.key := by
  unfold read resolve
  cases conf.value? named.key with
  | none => exact Or.inl rfl
  | some value => exact Or.inr ⟨value, rfl⟩

/-
  The value under a key cannot be shown, because there is an
  integer in it that has too many digits.
-/
def Overlong
    (conf : Config)
    (key : String) : Prop :=
  ∃ value, conf.value? key = some value ∧
    value.isWritable = false

/-
  A value that is refused is a fault in the configuration if
  it can be shown.
-/
theorem failsAs_read
    {conf : Config}
    {key : String}
    (hShown : ¬ conf.Overlong key)
    (domain : Setting.Domain)
    (default : Value) :
    FailsAs (· = .configuration)
      (conf.read ⟨key, Setting.ofDomain domain default⟩) := by
  unfold read resolve
  dsimp only
  cases hValue : conf.value? key with
  | none => exact .ok _
  | some value =>
      have hWritable : value.isWritable = true := by
        cases hNot : value.isWritable with
        | true => rfl
        | false => exact absurd ⟨value, hValue, hNot⟩ hShown
      exact Setting.failsAs_coerce domain default hWritable key

/- An integer setting does not show what it cannot show. -/
theorem read_of_overlong
    {conf : Config}
    {key : String}
    (hHidden : conf.Overlong key)
    {bits : Nat}
    (hBits : bits ≤ Number.Integer.digitLimit)
    (default : Value) :
    conf.read
        ⟨key, Setting.ofDomain (.integer bits) default⟩ =
      .error .unwritableInteger := by
  rcases hHidden with ⟨value, hValue, hUnwritable⟩
  rcases Setting.exists_fault_of_unwritable hBits hUnwritable
    with ⟨fault, hFault⟩
  unfold read resolve
  dsimp only
  rw [hValue]
  exact
    Setting.coerce_of_unwritable _ _ hUnwritable hFault _

namespace Sample

/- The least positive integer that cannot be shown. -/
def overlong : Value :=
  .int (Nat.pow 10 Number.Integer.digitLimit : Int)

theorem isWritable_overlong : overlong.isWritable = false := by
  unfold overlong Value.isWritable Number.Integer.isWritable
  rw [Int.natAbs_natCast]
  exact decide_eq_false (Nat.lt_irrefl _)

/- It is the default port of a configuration. -/
def obscuring : Config :=
  .ofList [(Setting.defaultPort.key, overlong)]

theorem overlong_obscuring :
    obscuring.Overlong Setting.defaultPort.key :=
  ⟨overlong, rfl, isWritable_overlong⟩

end Sample

/- The default port is read as an integer. -/
theorem read_defaultPort
    {conf : Config}
    {port : Value}
    (h : conf.read Setting.defaultPort = .ok port) :
    ∃ n, port = .int n := by
  rcases read_cases conf Setting.defaultPort with
    hDefault | ⟨value, hCoerced⟩
  · rw [hDefault] at h
    cases h
    exact ⟨9042, rfl⟩
  · rw [hCoerced] at h
    rcases Setting.coerce_integer h with ⟨n, hPort, _⟩
    exact ⟨n, hPort⟩

/- Whether to connect is read as a truth value. -/
theorem read_connectOnResolve
    {conf : Config}
    {connects : Value}
    (h :
      conf.read Setting.connectOnResolve = .ok connects) :
    ∃ b, connects = .bool b := by
  rcases read_cases conf Setting.connectOnResolve with
    hDefault | ⟨value, hCoerced⟩
  · rw [hDefault] at h
    cases h
    exact ⟨false, rfl⟩
  · rw [hCoerced] at h
    exact Setting.coerce_flag h

end Config

end Keyspaces
