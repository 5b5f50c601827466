import InverterBridge.Number.Decimal
import InverterBridge.Proofs.Number.Magnitude

/-!
# Rounding and scaling

A number that was rounded to decimal places is either not finite or well below the largest double
(`isAtMost_roundTo`), since it was divided by a power of ten at the end.  Reading a decimal number
fails only where scaling its digits exceeds the doubles (`isSome_scaled?`).
-/

namespace InverterBridge

open Float.Model (UnpackedFloat Format)

theorem IsAtMost.mono {small large : ℚ} {value : Float} (within : IsAtMost small value)
    (le : small ≤ large) : IsAtMost large value := by
  obtain ⟨mantissa, exponent, parts, bounded⟩ := within
  exact ⟨mantissa, exponent, parts, bounded.trans le⟩

theorem isFinite_eq_isSome (value : Float) :
    value.isFinite = (parts? value.toModel.unpack).isSome := by
  change value.toModel.unpack.isFinite = _
  cases value.toModel.unpack <;> rfl

theorem isFinite_eq_isSome_ofFloat? (value : Float) :
    value.isFinite = (BinaryFraction.ofFloat? value).isSome := by
  rw [isFinite_eq_isSome, parts?_eq_ofFloat?, Option.isSome_map]

theorem IsAtMost.isFinite {bound : ℚ} {value : Float} (within : IsAtMost bound value) :
    value.isFinite = true := by
  obtain ⟨mantissa, exponent, parts, -⟩ := within
  rw [isFinite_eq_isSome, parts]
  rfl

/-- Every finite double is below the end of the doubles. -/
theorem isAtMost_of_isFinite {value : Float} (finite : value.isFinite = true) :
    IsAtMost endOfDoubles value := by
  rw [isFinite_eq_isSome, Option.isSome_iff_exists] at finite
  obtain ⟨⟨mantissa, exponent⟩, parts⟩ := finite
  obtain ⟨mantissa_lt, -, exponent_le, -⟩ := isCanonical_of_parts? parts
  refine ⟨mantissa, exponent, parts, ?_⟩
  have digits : (mantissa : ℚ) ≤ 2 ^ 53 := by exact_mod_cast mantissa_lt.le
  have power : (2 : ℚ) ^ exponent ≤ 2 ^ (971 : Int) := zpow_le_zpow_right₀ one_le_two exponent_le
  calc (mantissa : ℚ) * 2 ^ exponent
      ≤ 2 ^ 53 * 2 ^ (971 : Int) := by gcongr
    _ = endOfDoubles := by
      rw [endOfDoubles, ← zpow_natCast, ← zpow_natCast, ← zpow_add₀ two_ne_zero]
      rfl

theorem parts?_pack_infinity (sign : UnpackedFloat.Sign) :
    parts? (Float.Model.pack (.infinity sign)).unpack = none := by
  cases sign <;> rfl

theorem parts?_pack_notANumber : parts? (Float.Model.pack .notANumber).unpack = none :=
  rfl

theorem isSome_parts?_of_div {first second : UnpackedFloat}
    (finite : (parts? (Float.Model.pack (first.div Format.binary64 second)).unpack).isSome = true)
    (divisor : (parts? second).isSome = true) : (parts? first).isSome = true := by
  cases first with
  | zero _ => rfl
  | finite _ _ _ _ => rfl
  | infinity sign =>
      cases second with
      | infinity _ => cases divisor
      | notANumber => cases divisor
      | _ =>
          rw [UnpackedFloat.div, parts?_pack_infinity] at finite
          cases finite
  | notANumber =>
      rw [UnpackedFloat.div, parts?_pack_notANumber] at finite
      cases finite

/-- A finite quotient has a finite dividend. -/
theorem isFinite_of_div {first second : Float} (finite : (first / second).isFinite = true)
    (divisor : second.isFinite = true) : first.isFinite = true := by
  rw [isFinite_eq_isSome] at finite divisor ⊢
  exact isSome_parts?_of_div finite divisor

/-! ## Rounded numbers -/

/-- The powers of ten by which documents are rounded. -/
theorem exists_parts?_powerOfTen {decimals : Int}
    (used : decimals = 1 ∨ decimals = 2 ∨ decimals = 3) :
    ∃ mantissa exponent, parts? (powerOfTen decimals).toModel.unpack = some (mantissa, exponent) ∧
      10 ≤ (mantissa : ℚ) * 2 ^ exponent ∧ (mantissa : ℚ) * 2 ^ exponent ≤ 1000 := by
  rcases used with rfl | rfl | rfl
  · exact ⟨5 * 2 ^ 50, -49, by decide +kernel, by norm_num, by norm_num⟩
  · exact ⟨25 * 2 ^ 48, -46, by decide +kernel, by norm_num, by norm_num⟩
  · exact ⟨125 * 2 ^ 46, -43, by decide +kernel, by norm_num, by norm_num⟩

/-- The largest rounded number is far below the end of the doubles. -/
def roundedBound : ℚ :=
  9 / 8 * (endOfDoubles / 10)

theorem isAtMost_zero {bound : ℚ} (nonneg : 0 ≤ bound) : IsAtMost bound 0.0 :=
  ⟨0, -1074, by decide +kernel, by simpa using nonneg⟩

theorem isAtMost_roundTo {value : Float} {decimals : Int}
    (used : decimals = 1 ∨ decimals = 2 ∨ decimals = 3)
    (finite : (roundTo value decimals).isFinite = true) :
    IsAtMost roundedBound (roundTo value decimals) := by
  obtain ⟨mantissa, exponent, parts, divisor_ge, divisor_le⟩ := exists_parts?_powerOfTen used
  have positive : 0 < mantissa := by
    by_contra! zero
    obtain rfl : mantissa = 0 := by omega
    norm_num at divisor_ge
  have large : (1000 : ℚ) ≤ endOfDoubles := by
    rw [endOfDoubles]
    calc (1000 : ℚ) ≤ 2 ^ 10 := by norm_num
      _ ≤ 2 ^ 1024 := pow_le_pow_right₀ one_le_two (by omega)
  have smaller : endOfDoubles / (mantissa * 2 ^ exponent) ≤ endOfDoubles / 10 := by
    gcongr
  have bounded : 9 / 8 * (endOfDoubles / (mantissa * 2 ^ exponent)) ≤ roundedBound := by
    rw [roundedBound]
    linarith
  unfold roundTo at finite ⊢
  split at finite
  · rename_i valueFinite
    rw [if_pos valueFinite]
    dsimp only at finite ⊢
    split at finite
    · rename_i zero
      rw [if_pos zero]
      exact isAtMost_zero (by rw [roundedBound]; linarith)
    · rename_i nonzero
      rw [if_neg nonzero]
      have divisor : (powerOfTen decimals).isFinite = true := by
        rw [isFinite_eq_isSome, parts]
        rfl
      have dividend := isAtMost_of_isFinite (isFinite_of_div finite divisor)
      refine (isAtMost_div dividend parts positive rfl ?_ ?_).mono bounded
      · rw [le_div_iff₀ (by linarith)]
        linarith
      · linarith
  · exact absurd finite (by assumption)

/-! ## Numbers that are read -/

theorem isAtMost_ofNat {value : Nat} (positive : 0 < value)
    (small : 81 / 64 * (value : ℚ) < endOfDoubles) :
    IsAtMost (81 / 64 * value) (Float.ofNat value) := by
  have alone : 81 / 64 * ((value : ℚ) * 10 ^ 0) < endOfDoubles := by simpa using small
  have read := isAtMost_ofScientific positive alone
  rwa [pow_zero, mul_one] at read

theorem exponent_le_of_power {exponent : Nat} (small : (10 : ℚ) ^ exponent < endOfDoubles) :
    exponent ≤ 308 := by
  by_contra! larger
  have : endOfDoubles ≤ 10 ^ 309 := by
    rw [endOfDoubles]
    exact_mod_cast (by decide +kernel : 2 ^ 1024 ≤ 10 ^ 309)
  exact (small.trans_le this).not_ge (pow_le_pow_right₀ (by norm_num) larger)

theorem digitsValue_eq (digits : List Char) :
    digitsValue digits = Nat.ofDigitChars 10 digits 0 := by
  simp only [digitsValue, Nat.ofDigitChars_eq_foldl, Nat.mul_comm 10]

namespace WrittenDecimal

/-- Digits that fit are gathered as a whole. -/
theorem gather_of_small {value : Nat} {digits : List Char}
    (small : Nat.ofDigitChars 10 digits value < significandBound) :
    gather value digits = (Nat.ofDigitChars 10 digits value, []) := by
  induction digits generalizing value with
  | nil => rfl
  | cons digit digits ih =>
      rw [Nat.ofDigitChars_cons, Nat.mul_comm 10] at small ⊢
      have next_le : value * 10 + (digit.toNat - '0'.toNat) < significandBound := by
        rw [Nat.ofDigitChars_eq_ofDigitChars_zero] at small
        have := Nat.le_mul_of_pos_left (value * 10 + (digit.toNat - '0'.toNat))
          (Nat.pow_pos (n := digits.length) (show 0 < 10 by omega))
        omega
      exact (if_pos next_le).trans (ih small)

/-- What is gathered is a first part of the number. -/
theorem gather_le (value : Nat) (digits : List Char) :
    (gather value digits).2.length ≤ digits.length ∧
      (gather value digits).1 * 10 ^ (gather value digits).2.length ≤
        Nat.ofDigitChars 10 digits value := by
  induction digits generalizing value with
  | nil => simp [gather]
  | cons digit digits ih =>
      simp only [gather]
      split
      · obtain ⟨shorter, le⟩ := ih (value * 10 + (digit.toNat - '0'.toNat))
        rw [Nat.ofDigitChars_cons, Nat.mul_comm 10]
        exact ⟨shorter.trans (Nat.le_succ _), le⟩
      · rw [Nat.ofDigitChars_eq_ofDigitChars_zero, Nat.mul_comm value]
        exact ⟨le_refl _, Nat.le_add_right _ _⟩

/-- A number that is not too large is scaled. -/
theorem isSome_scale? {value : Nat} {exponent : Int}
    (small : 3 * ((value : ℚ) * 10 ^ exponent) < endOfDoubles) :
    (scale? (Float.ofNat value) exponent).isSome = true := by
  unfold scale?
  split
  · rfl
  · rename_i nonzero
    cases exponent with
    | negSucc n =>
        dsimp only
        split
        · rfl
        · split <;> rfl
    | ofNat n =>
        have positive : 0 < value := by
          by_contra! zero
          obtain rfl : value = 0 := by omega
          exact nonzero (by decide +kernel)
        rw [Int.ofNat_eq_natCast, zpow_natCast] at small
        have one_le : (1 : ℚ) ≤ value := by exact_mod_cast positive
        have one_le_power : (1 : ℚ) ≤ 10 ^ n := one_le_pow₀ (by norm_num)
        have value_le : (value : ℚ) ≤ value * 10 ^ n :=
          le_mul_of_one_le_right (by linarith) one_le_power
        have power_le : (10 : ℚ) ^ n ≤ value * 10 ^ n :=
          le_mul_of_one_le_left (by linarith) one_le
        have digits := isAtMost_ofNat positive (by linarith)
        have bounded : 81 / 64 * (((1 : Nat) : ℚ) * 10 ^ n) < endOfDoubles := by
          push_cast
          linarith
        have power := isAtMost_ofScientific one_pos bounded
        have scaled := isAtMost_mul digits power (by push_cast; linarith) (by push_cast; linarith)
        have exponent_le := exponent_le_of_power (by linarith : (10 : ℚ) ^ n < endOfDoubles)
        simp only [exponent_le, ↓reduceIte, scaled.isFinite, Option.isSome_some]

/-- The exact value of a written number. -/
def magnitude (written : WrittenDecimal) : ℚ :=
  digitsValue (written.whole ++ written.fraction) *
    10 ^ (written.exponent - (written.fraction.length : Int))

/-- A written number that is not too large is read. -/
theorem isSome_scaled? {written : WrittenDecimal}
    (whole : digitsValue written.whole < significandBound)
    (small : 3 * written.magnitude < endOfDoubles) : written.scaled?.isSome = true := by
  have gathered : gather 0 written.whole = (digitsValue written.whole, []) := by
    rw [digitsValue_eq] at whole ⊢
    exact gather_of_small whole
  obtain ⟨shorter, le_digits⟩ := gather_le (digitsValue written.whole) written.fraction
  rw [scaled?, gathered]
  dsimp only
  generalize gather (digitsValue written.whole) written.fraction = fraction at shorter le_digits
  obtain ⟨value, rest⟩ := fraction
  dsimp only at shorter le_digits ⊢
  apply isSome_scale?
  refine lt_of_le_of_lt ?_ small
  have all : Nat.ofDigitChars 10 written.fraction (digitsValue written.whole) =
      digitsValue (written.whole ++ written.fraction) := by
    rw [digitsValue_eq, digitsValue_eq, Nat.ofDigitChars_append]
  have le_all : (value : ℚ) * 10 ^ rest.length ≤
      digitsValue (written.whole ++ written.fraction) := by
    rw [← all]
    exact_mod_cast le_digits
  have split :
      (10 : ℚ) ^ (written.exponent + ((0 : Nat) : Int) -
        ((written.fraction.length - rest.length : Nat) : Int)) =
      10 ^ rest.length * 10 ^ (written.exponent - (written.fraction.length : Int)) := by
    rw [← zpow_natCast, ← zpow_add₀ (by norm_num)]
    congr 1
    omega
  rw [magnitude, List.length_nil, split, ← mul_assoc (value : ℚ)]
  gcongr

end WrittenDecimal

end InverterBridge
