import InverterBridge.Proofs.Number.Scaling

/-!
# Shortest digits

The digits by which a double is written make a number in its rounding interval, hence one that is
not zero and at most twice as large.
-/

namespace InverterBridge

namespace BinaryFraction

/-- The exact value of a fraction without its sign. -/
def magnitude (fraction : BinaryFraction) : ℚ :=
  fraction.mantissa * 2 ^ fraction.exponent

theorem ratio_eq (fraction : BinaryFraction) :
    (fraction.ratio.1 : ℚ) = fraction.magnitude * fraction.ratio.2 := by
  obtain ⟨negative, mantissa, n | n⟩ := fraction
  · simp [ratio, magnitude]
  · simp only [ratio, magnitude, Nat.pow_eq, zpow_negSucc]
    push_cast
    rw [inv_mul_cancel_right₀ (by positivity)]

theorem ratio_num_pos {fraction : BinaryFraction} (positive : 0 < fraction.mantissa) :
    0 < fraction.ratio.1 := by
  unfold ratio
  split
  · exact Nat.mul_pos positive (Nat.pow_pos (by omega))
  · exact positive

end BinaryFraction

namespace RoundingInterval

theorem low_ofFraction_pos {fraction : BinaryFraction} (positive : 0 < fraction.mantissa) :
    0 < (ofFraction fraction).low := by
  apply BinaryFraction.ratio_num_pos
  dsimp only
  split <;> omega

/-- The end of the interval is half a unit of the last place above the fraction. -/
theorem high_ofFraction (fraction : BinaryFraction) :
    ((ofFraction fraction).high : ℚ) =
      (4 * fraction.mantissa + 2) * 2 ^ (fraction.exponent - 2) * (ofFraction fraction).unit := by
  let highest : BinaryFraction := ⟨false, 4 * fraction.mantissa + 2, fraction.exponent - 2⟩
  have unit_eq : (ofFraction fraction).unit = highest.ratio.2 := by
    simp only [ofFraction, highest, BinaryFraction.ratio]
    cases fraction.exponent - 2 <;> rfl
  have magnitude_eq : highest.magnitude =
      (4 * fraction.mantissa + 2) * 2 ^ (fraction.exponent - 2) := by
    simp [BinaryFraction.magnitude, highest]
  rw [unit_eq, ← magnitude_eq]
  exact highest.ratio_eq

theorem unit_ofFraction_pos (fraction : BinaryFraction) : 0 < (ofFraction fraction).unit :=
  BinaryFraction.ratio_den_pos _

/-- What a number in an interval is between. -/
theorem contains_bounds {interval : RoundingInterval} {numerator denominator : Nat}
    (inside : interval.contains numerator denominator = true) :
    interval.low * denominator ≤ numerator * interval.unit ∧
      numerator * interval.unit ≤ interval.high * denominator := by
  unfold contains at inside
  split at inside <;> simp at inside <;> omega

end RoundingInterval

namespace Decimal

/-- The exact value of a decimal number. -/
def magnitude (decimal : Decimal) : ℚ :=
  decimal.digits * 10 ^ decimal.exponent

theorem ratio_eq (decimal : Decimal) :
    (decimal.ratio.1 : ℚ) = decimal.magnitude * decimal.ratio.2 := by
  obtain ⟨digits, n | n⟩ := decimal
  · simp [ratio, magnitude]
  · simp only [ratio, magnitude, Nat.pow_eq, zpow_negSucc]
    push_cast
    rw [inv_mul_cancel_right₀ (by positivity)]

theorem ratio_den_pos (decimal : Decimal) : 0 < decimal.ratio.2 := by
  unfold ratio
  split
  · exact Nat.one_pos
  · exact Nat.pow_pos (by omega)

variable {fraction : BinaryFraction} {decimal : Decimal}

/-- A decimal number that reads back as a fraction is not zero. -/
theorem digits_pos_of_inInterval (positive : 0 < fraction.mantissa)
    (inside : inInterval (.ofFraction fraction) decimal = true) : 0 < decimal.digits := by
  have low_le := (RoundingInterval.contains_bounds inside).1
  have low_pos := RoundingInterval.low_ofFraction_pos positive
  have product_pos := Nat.mul_pos low_pos decimal.ratio_den_pos
  by_contra! zero
  have nothing : (decimal.ratio.1 : ℚ) = 0 := by
    rw [ratio_eq, magnitude, Nat.le_zero.mp zero, Nat.cast_zero, zero_mul, zero_mul]
  rw [Nat.cast_eq_zero.mp nothing, Nat.zero_mul] at low_le
  exact absurd product_pos low_le.not_gt

/-- A decimal number that reads back as a fraction is at most twice as large. -/
theorem magnitude_le_of_inInterval (positive : 0 < fraction.mantissa)
    (inside : inInterval (.ofFraction fraction) decimal = true) :
    decimal.magnitude ≤ 2 * fraction.magnitude := by
  set interval := RoundingInterval.ofFraction fraction with interval_def
  have unit_pos : (0 : ℚ) < interval.unit := by
    exact_mod_cast RoundingInterval.unit_ofFraction_pos fraction
  have den_pos : (0 : ℚ) < decimal.ratio.2 := by exact_mod_cast decimal.ratio_den_pos
  have high : (decimal.magnitude * decimal.ratio.2) * interval.unit ≤
      (4 * fraction.mantissa + 2) * 2 ^ (fraction.exponent - 2) * interval.unit *
        decimal.ratio.2 := by
    rw [← ratio_eq, interval_def, ← RoundingInterval.high_ofFraction, ← interval_def]
    exact_mod_cast (RoundingInterval.contains_bounds inside).2
  have one_le : (1 : ℚ) ≤ fraction.mantissa := by exact_mod_cast positive
  rw [mul_right_comm] at high
  calc decimal.magnitude
      ≤ (4 * fraction.mantissa + 2) * 2 ^ (fraction.exponent - 2) :=
        le_of_mul_le_mul_right (le_of_mul_le_mul_right high den_pos) unit_pos
    _ ≤ (8 * fraction.mantissa) * 2 ^ (fraction.exponent - 2) := by
        gcongr
        linarith
    _ = 2 * fraction.magnitude := by
        rw [BinaryFraction.magnitude, zpow_sub₀ two_ne_zero]
        norm_num
        ring

theorem trim_go_bounds (fuel : Nat) (digits : Nat) (exponent : Int) :
    (trim.go fuel digits exponent).magnitude = magnitude ⟨digits, exponent⟩ ∧
      (0 < digits → 0 < (trim.go fuel digits exponent).digits) := by
  induction fuel generalizing digits exponent with
  | zero => exact ⟨rfl, id⟩
  | succ fuel ih =>
      rw [trim.go]
      split
      · rename_i divisible
        obtain ⟨same, positive⟩ := ih (digits / 10) (exponent + 1)
        refine ⟨same.trans ?_, fun _ => positive (by omega)⟩
        have split : digits = digits / 10 * 10 := by omega
        rw [magnitude, magnitude, zpow_add₀ (by norm_num), zpow_one]
        conv_rhs => rw [split]
        push_cast
        ring
      · exact ⟨rfl, id⟩

/-- The shortest digits of a fraction make a number that is at most twice as large. -/
theorem shortest_bounds {fraction : BinaryFraction} (positive : 0 < fraction.mantissa) :
    (0 < (shortest fraction).digits ∨ shortest fraction = ⟨0, 0⟩) ∧
      (shortest fraction).magnitude ≤ 2 * fraction.magnitude := by
  unfold shortest
  dsimp only
  split
  · rename_i decimal found
    obtain ⟨exponent, -, onGrid⟩ := List.exists_of_findSome?_eq_some found
    have inside : inInterval (.ofFraction fraction) decimal = true := by
      unfold onGrid? at onGrid
      grind
    obtain ⟨same, kept⟩ := trim_go_bounds decimal.digits decimal.digits decimal.exponent
    exact ⟨.inl (kept (digits_pos_of_inInterval positive inside)),
      same.trans_le (magnitude_le_of_inInterval positive inside)⟩
  · refine ⟨.inr rfl, ?_⟩
    rw [magnitude, Nat.cast_zero, zero_mul, BinaryFraction.magnitude]
    positivity

end Decimal

end InverterBridge
