import InverterBridge.Number.Rounding
import Mathlib

/-!
# Magnitudes of doubles

Doubles are computed by the logical model of floating-point numbers: an operation is carried out
on mantissas and exponents, rounded and packed into bits.  This module bounds the results from
above.  Rounding adds less than one unit of the last place, so it lengthens a number of at least
one by less than an eighth (`isAtMost_roundWithAccuracy`); products, quotients and written
integers follow.  The bounds are far from tight, but enough to exclude an overflow, which is all
they are for.
-/

namespace InverterBridge

open Float.Model (UnpackedFloat Format totalExponent)
open Float.Model.UnpackedFloat

/-- A mantissa and an exponent as a finite double has them: all 53 bits are in use unless
the exponent is the lowest. -/
structure IsCanonical (mantissa : Nat) (exponent : Int) : Prop where
  mantissa_lt : mantissa < 2 ^ 53
  exponent_ge : -1074 ≤ exponent
  exponent_le : exponent ≤ 971
  normal : 2 ^ 52 ≤ mantissa ∨ exponent = -1074

/-- The mantissa and the exponent that the exponent bits and the fraction bits of a double stand
for. -/
def stored? (biased fraction : Nat) : Option (Nat × Int) :=
  if biased = 2047 then none
  else if biased = 0 then some (fraction, -1074)
  else some (2 ^ 52 + fraction, (biased : Int) - 1075)

theorem isCanonical_of_stored? {biased fraction mantissa : Nat} {exponent : Int}
    (biased_lt : biased < 2 ^ 11) (fraction_lt : fraction < 2 ^ 52)
    (parts : stored? biased fraction = some (mantissa, exponent)) :
    IsCanonical mantissa exponent := by
  unfold stored? at parts
  split at parts
  · cases parts
  · split at parts <;> cases parts <;> constructor <;> omega

theorem stored?_of_normal {mantissa : Nat} {exponent : Int}
    (canonical : IsCanonical mantissa exponent) (normal : 2 ^ 52 ≤ mantissa) :
    stored? (exponent + 1075).toNat (mantissa % 2 ^ 52) = some (mantissa, exponent) := by
  obtain ⟨small, lower, upper, -⟩ := canonical
  rw [stored?, if_neg (by omega), if_neg (by omega)]
  simp only [Option.some.injEq, Prod.mk.injEq]
  omega

/-- The mantissa and the exponent of a finite double. -/
def parts? : UnpackedFloat → Option (Nat × Int)
  | .zero _ => some (0, -1074)
  | .finite _ mantissa exponent _ => some (mantissa, exponent)
  | _ => none

theorem toNat_one_append (mantissa : BitVec 52) :
    (1#1 ++ mantissa).toNat = 2 ^ 52 + mantissa.toNat := by
  rw [BitVec.toNat_append, ← Nat.shiftLeft_add_eq_or_of_lt mantissa.isLt]
  rfl

theorem parts?_unpack (bits : BitVec Format.binary64.numBits) :
    parts? (unpack Format.binary64 bits) =
      stored? (unpackExponent bits).toNat (unpackMantissa bits).toNat := by
  unfold stored?
  fun_cases unpack with
  | case1 mantissa exponent sign signed last zero | case2 mantissa exponent last nonzero =>
      have full : (unpackExponent bits).toNat = 2047 := congrArg BitVec.toNat last
      rw [if_pos full]
      rfl
  | case3 mantissa exponent sign signed notLast first zero =>
      have unused : (unpackExponent bits).toNat = 0 := congrArg BitVec.toNat first
      have nothing : (unpackMantissa bits).toNat = 0 := congrArg BitVec.toNat zero
      simp [unused, nothing, parts?]
  | case4 mantissa exponent whole sign signed notLast first nonzero =>
      have unused : (unpackExponent bits).toNat = 0 := congrArg BitVec.toNat first
      simp +zetaDelta [unused, parts?, Format.exponentBias]
  | case5 mantissa exponent whole sign signed notLast notFirst =>
      have notFull : (unpackExponent bits).toNat ≠ 2047 := fun full =>
        notLast (BitVec.eq_of_toNat_eq full)
      have used : (unpackExponent bits).toNat ≠ 0 := fun unused =>
        notFirst (BitVec.eq_of_toNat_eq unused)
      rw [if_neg notFull, if_neg used]
      simp [parts?, toNat_one_append, whole, Format.exponentBias, mantissa, exponent]

/-- Reading a double by its bits agrees with unpacking it. -/
theorem parts?_eq_ofFloat? (value : Float) :
    parts? value.toModel.unpack = (BinaryFraction.ofFloat? value).map fun fraction =>
      (fraction.mantissa, fraction.exponent) := by
  let bits : BitVec Format.binary64.numBits := value.toModel.toBits.toBitVec
  have fraction_eq : (unpackMantissa bits).toNat = value.toBits.toNat % 2 ^ 52 := by
    simp [unpackMantissa, Float.toBits, bits]
  have biased_eq : (unpackExponent bits).toNat = value.toBits.toNat / 2 ^ 52 % 2 ^ 11 := by
    simp [unpackExponent, Nat.shiftRight_eq_div_pow, Float.toBits, bits]
  rw [Float.Model.unpack, parts?_unpack bits, fraction_eq, biased_eq]
  simp only [stored?, BinaryFraction.ofFloat?, Nat.pow_eq]
  split
  · rfl
  · split <;> rfl

theorem isCanonical_of_parts? {value : Float} {mantissa : Nat} {exponent : Int}
    (parts : parts? value.toModel.unpack = some (mantissa, exponent)) :
    IsCanonical mantissa exponent := by
  rw [Float.Model.unpack, parts?_unpack] at parts
  exact isCanonical_of_stored? (BitVec.isLt _) (BitVec.isLt _) parts

theorem parts?_pack_zero (sign : Sign) :
    parts? (Float.Model.pack (.zero sign)).unpack = some (0, -1074) := by
  cases sign <;> rfl

/-- A double of the format is not changed by packing. -/
theorem parts?_pack {mantissa : Nat} {exponent : Int} (canonical : IsCanonical mantissa exponent)
    (sign : Sign) (positive : 0 < mantissa) :
    parts? (Float.Model.pack (.finite sign mantissa exponent positive)).unpack =
      some (mantissa, exponent) := by
  obtain ⟨small, lower, upper, normal⟩ := id canonical
  have inRange : ¬ 2047 ≤ (exponent + 1023 + 52).toNat := by omega
  rw [Float.Model.unpack, parts?_unpack]
  by_cases whole : 2 ^ 52 ≤ mantissa
  · have used : mantissa.log2 = 52 := (Nat.log2_eq_iff (by omega)).mpr ⟨whole, by omega⟩
    rw [← stored?_of_normal canonical whole]
    simp [Float.Model.pack, UnpackedFloat.pack, Format.exponentBias, Format.mantissaBits, inRange,
      used]
    congr 1
    omega
  · have unused : mantissa.log2 < 52 := (Nat.log2_lt (by omega)).mpr (by omega)
    have lowest : exponent = -1074 := by omega
    subst lowest
    simp [Float.Model.pack, UnpackedFloat.pack, Format.exponentBias, Format.mantissaBits,
      unused.ne, stored?]
    omega

/-! ## Rounding -/

theorem magnitude_nonneg (mantissa : Nat) (exponent : Int) : (0 : ℚ) ≤ mantissa * 2 ^ exponent := by
  positivity

/-- Every finite double is below this number. -/
@[irreducible]
def endOfDoubles : ℚ :=
  2 ^ 1024

/-- Finite, and at most this large. -/
def IsAtMost (bound : ℚ) (value : Float) : Prop :=
  ∃ mantissa exponent, parts? value.toModel.unpack = some (mantissa, exponent) ∧
    (mantissa : ℚ) * 2 ^ exponent ≤ bound

theorem mantissa_shiftRight (extended : ExtendedMantissa) (places : Nat) :
    (extended >>> places).mantissa = extended.mantissa / 2 ^ places := by
  induction places with
  | zero => simp [HShiftRight.hShiftRight, Nat.repeat]
  | succ places ih =>
      change (extended >>> places).mantissa / 2 = _
      rw [ih, Nat.div_div_eq_div_mul, Nat.pow_succ]

theorem mantissa_ofMantissaAndAccuracy (mantissa : Nat) (accuracy : Accuracy) :
    (ExtendedMantissa.ofMantissaAndAccuracy mantissa accuracy).mantissa = mantissa := by
  rcases accuracy with _ | _ | _ | _ <;> rfl

theorem roundedMantissa_le (extended : ExtendedMantissa) :
    extended.mantissa ≤ extended.roundedMantissa ∧
      extended.roundedMantissa ≤ extended.mantissa + 1 := by
  rcases extended with ⟨mantissa, _ | _, _ | _⟩ <;>
    simp [ExtendedMantissa.roundedMantissa, ExtendedMantissa.accuracy,
      Accuracy.roundToNearestEven]
  omega

/-- The exponent that a mantissa and an exponent get in the format. -/
theorem targetExponent_eq (mantissa : Nat) (exponent : Int) :
    Format.binary64.targetExponent (totalExponent mantissa exponent) =
      max ((mantissa.log2 : Int) + exponent - 52) (-1074) := by
  simp only [Format.targetExponent, totalExponent, Format.mantissaBits, Format.minExponent]
  norm_num
  omega

/-- The mantissa is shifted by the places that are missing to the exponent of the format. -/
theorem shiftToTargetExponent_eq (mantissa : Nat) (exponent : Int) (accuracy : Accuracy) :
    ∃ places : Nat,
      places = (max ((mantissa.log2 : Int) + exponent - 52) (-1074) - exponent).toNat ∧
      (shiftToTargetExponent Format.binary64 mantissa exponent accuracy).1.mantissa =
        mantissa / 2 ^ places ∧
      (shiftToTargetExponent Format.binary64 mantissa exponent accuracy).2 = exponent + places := by
  refine ⟨_, rfl, ?_, ?_⟩ <;>
    simp only [shiftToTargetExponent, shiftToExponent, targetExponent_eq, mantissa_shiftRight,
      mantissa_ofMantissaAndAccuracy]

/-- A mantissa and an exponent have a place in the format, but for its upper end, and are at most a
value. -/
structure IsPlaced (value : ℚ) (mantissa : Nat) (exponent : Int) : Prop where
  mantissa_lt : mantissa < 2 ^ 53
  exponent_ge : -1074 ≤ exponent
  normal : 2 ^ 52 ≤ mantissa ∨ exponent = -1074
  le_value : (mantissa : ℚ) * 2 ^ exponent ≤ value

/-- A mantissa that is long enough or has a low exponent gets a place. -/
theorem isPlaced_of_long {mantissa : Nat} {exponent : Int} (accuracy : Accuracy)
    (long : 52 ≤ mantissa.log2 ∨ exponent ≤ -1074) :
    IsPlaced (mantissa * 2 ^ exponent)
      (shiftToTargetExponent Format.binary64 mantissa exponent accuracy).1.mantissa
      (shiftToTargetExponent Format.binary64 mantissa exponent accuracy).2 := by
  obtain ⟨places, places_eq, mantissa_eq, exponent_eq⟩ :=
    shiftToTargetExponent_eq mantissa exponent accuracy
  have power : 0 < 2 ^ places := Nat.two_pow_pos places
  rw [mantissa_eq, exponent_eq]
  refine ⟨?_, by omega, ?_, ?_⟩
  · apply (Nat.div_lt_iff_lt_mul power).mpr
    rw [← Nat.pow_add]
    exact Nat.lt_log2_self.trans_le (Nat.pow_le_pow_right (by omega) (by omega))
  · rw [or_iff_not_imp_right]
    intro higher
    have used : mantissa.log2 = 52 + places := by omega
    have nonzero : mantissa ≠ 0 := by
      rintro rfl
      rw [Nat.log2_zero] at used
      omega
    apply (Nat.le_div_iff_mul_le power).mpr
    rw [← Nat.pow_add, ← used]
    exact Nat.log2_self_le nonzero
  · have floor : ((mantissa / 2 ^ places : Nat) : ℚ) * 2 ^ places ≤ mantissa := by
      exact_mod_cast Nat.div_mul_le_self mantissa (2 ^ places)
    rw [zpow_add₀ (by norm_num), zpow_natCast, mul_comm (2 ^ exponent), ← mul_assoc]
    exact mul_le_mul_of_nonneg_right floor (by positivity)

/-- A mantissa of at most 53 bits or a power of two beyond them is only brought into the format. -/
theorem isPlaced_of_small {mantissa : Nat} {exponent : Int} (lower : -1074 ≤ exponent)
    (small : mantissa ≤ 2 ^ 53) (normal : 2 ^ 52 ≤ mantissa ∨ exponent = -1074) :
    IsPlaced (mantissa * 2 ^ exponent)
      (shiftToTargetExponent Format.binary64 mantissa exponent .exact).1.mantissa
      (shiftToTargetExponent Format.binary64 mantissa exponent .exact).2 := by
  by_cases carry : mantissa = 2 ^ 53
  · apply isPlaced_of_long
    left
    rw [carry, Nat.log2_two_pow]
    omega
  · obtain ⟨places, places_eq, mantissa_eq, exponent_eq⟩ :=
      shiftToTargetExponent_eq mantissa exponent .exact
    have log_le : mantissa.log2 ≤ 52 := by
      by_cases zero : mantissa = 0
      · simp [zero]
      · exact Nat.le_of_lt_succ ((Nat.log2_lt zero).mpr (by omega))
    obtain rfl : places = 0 := by omega
    rw [mantissa_eq, exponent_eq, Nat.pow_zero, Nat.div_one, Int.natCast_zero, add_zero]
    exact ⟨by omega, lower, normal, le_refl _⟩

/-- One unit of the last place is at most an eighth of a bound that is one at least. -/
theorem IsPlaced.unit_le {value bound : ℚ} {mantissa : Nat} {exponent : Int}
    (placed : IsPlaced value mantissa exponent) (within : value ≤ bound) (one_le : 1 ≤ bound) :
    (2 : ℚ) ^ exponent ≤ bound / 8 := by
  rcases placed.normal with whole | rfl
  · have many : (2 : ℚ) ^ 52 ≤ mantissa := by exact_mod_cast whole
    have product : (2 : ℚ) ^ 52 * 2 ^ exponent ≤ bound :=
      calc (2 : ℚ) ^ 52 * 2 ^ exponent
          ≤ mantissa * 2 ^ exponent := by gcongr
        _ ≤ bound := placed.le_value.trans within
    have unit_pos : (0 : ℚ) < 2 ^ exponent := by positivity
    linarith
  · calc (2 : ℚ) ^ (-1074 : Int)
        ≤ 2 ^ (-3 : Int) := zpow_le_zpow_right₀ one_le_two (by decide)
      _ = 1 / 8 := by norm_num
      _ ≤ bound / 8 := by linarith

/-- Below the end of the doubles the upper end of the format is not reached. -/
theorem IsPlaced.isCanonical {value : ℚ} {mantissa : Nat} {exponent : Int}
    (placed : IsPlaced value mantissa exponent) (small : value < endOfDoubles) :
    IsCanonical mantissa exponent := by
  refine ⟨placed.mantissa_lt, placed.exponent_ge, ?_, placed.normal⟩
  by_contra! higher
  have whole : (2 : ℚ) ^ 52 ≤ mantissa := by
    exact_mod_cast placed.normal.resolve_right (by omega)
  have power : (2 : ℚ) ^ (972 : Int) ≤ 2 ^ exponent := zpow_le_zpow_right₀ one_le_two (by omega)
  have beyond : endOfDoubles ≤ mantissa * 2 ^ exponent :=
    calc endOfDoubles
        = 2 ^ 52 * 2 ^ (972 : Int) := by
          rw [endOfDoubles, ← zpow_natCast, ← zpow_natCast, ← zpow_add₀ two_ne_zero]
          rfl
      _ ≤ (mantissa : ℚ) * 2 ^ exponent := by gcongr
  exact (beyond.trans placed.le_value).not_gt small

/-- Rounding adds at most an eighth to a bound that is one at least. -/
theorem isAtMost_roundWithAccuracy {mantissa : Nat} {exponent : Int} {bound : ℚ} (sign : Sign)
    (accuracy : Accuracy) (long : 52 ≤ mantissa.log2 ∨ exponent ≤ -1074) (one_le : 1 ≤ bound)
    (small : 9 / 8 * bound < endOfDoubles) (within : (mantissa : ℚ) * 2 ^ exponent ≤ bound) :
    IsAtMost (9 / 8 * bound)
      (.ofModel (.pack (roundWithAccuracy Format.binary64 sign mantissa exponent accuracy))) := by
  have placed := isPlaced_of_long accuracy long
  unfold roundWithAccuracy
  generalize shiftToTargetExponent Format.binary64 mantissa exponent accuracy = shifted at placed
  obtain ⟨extended, place⟩ := shifted
  dsimp only at placed ⊢
  obtain ⟨rounded_ge, rounded_le⟩ := roundedMantissa_le extended
  have unit_le := placed.unit_le within one_le
  have floor := placed.le_value
  have rounded : (extended.roundedMantissa : ℚ) * 2 ^ place ≤ 9 / 8 * bound := by
    have next : (extended.roundedMantissa : ℚ) ≤ extended.mantissa + 1 := by
      exact_mod_cast rounded_le
    calc (extended.roundedMantissa : ℚ) * 2 ^ place
        ≤ (extended.mantissa + 1) * 2 ^ place := by gcongr
      _ = extended.mantissa * 2 ^ place + 2 ^ place := by ring
      _ ≤ 9 / 8 * bound := by linarith
  -- Rounding up may carry into a 54th bit, which a second shift removes.
  have short : extended.roundedMantissa ≤ 2 ^ 53 := rounded_le.trans placed.mantissa_lt
  have carried := isPlaced_of_small placed.exponent_ge short
    (placed.normal.imp_left rounded_ge.trans')
  generalize shiftToTargetExponent Format.binary64 extended.roundedMantissa place .exact =
    shifted at carried
  obtain ⟨final, last⟩ := shifted
  dsimp only at carried ⊢
  split
  · exact ⟨0, -1074, parts?_pack_zero sign, by simp; positivity⟩
  · exact ⟨final.mantissa, last, parts?_pack (carried.isCanonical (rounded.trans_lt small)) _ _,
      carried.le_value.trans rounded⟩

/-! ## Products and quotients -/

theorem isAtMost_pack_zero {bound : ℚ} (sign : Sign) (nonneg : 0 ≤ bound) :
    IsAtMost bound (.ofModel (.pack (.zero sign))) :=
  ⟨0, -1074, parts?_pack_zero sign, by simpa using nonneg⟩

theorem isAtMost_pack_mul {first second : UnpackedFloat} {mantissa₁ mantissa₂ : Nat}
    {exponent₁ exponent₂ : Int} {bound : ℚ} (parts₁ : parts? first = some (mantissa₁, exponent₁))
    (parts₂ : parts? second = some (mantissa₂, exponent₂))
    (long : mantissa₁ * mantissa₂ = 0 ∨ 2 ^ 52 ≤ mantissa₁ * mantissa₂ ∨
      exponent₁ + exponent₂ ≤ -1074)
    (one_le : 1 ≤ bound) (small : 9 / 8 * bound < endOfDoubles)
    (within : (mantissa₁ : ℚ) * 2 ^ exponent₁ * (mantissa₂ * 2 ^ exponent₂) ≤ bound) :
    IsAtMost (9 / 8 * bound) (.ofModel (.pack (mul Format.binary64 first second))) := by
  have nonneg : 0 ≤ 9 / 8 * bound := by linarith
  cases first with
  | infinity _ => cases parts₁
  | notANumber => cases parts₁
  | zero sign₁ =>
      cases second with
      | infinity _ => cases parts₂
      | notANumber => cases parts₂
      | zero sign₂ => exact isAtMost_pack_zero _ nonneg
      | finite sign₂ _ _ _ => exact isAtMost_pack_zero _ nonneg
  | finite sign₁ _ _ positive₁ =>
      cases parts₁
      cases second with
      | infinity _ => cases parts₂
      | notANumber => cases parts₂
      | zero sign₂ => exact isAtMost_pack_zero _ nonneg
      | finite sign₂ _ _ positive₂ =>
          cases parts₂
          have positive := Nat.mul_pos positive₁ positive₂
          refine isAtMost_roundWithAccuracy _ _ ?_ one_le small ?_
          · rcases long with zero | whole | low
            · omega
            · exact .inl ((Nat.le_log2 positive.ne').mpr whole)
            · exact .inr low
          · calc ((mantissa₁ * mantissa₂ : Nat) : ℚ) * 2 ^ (exponent₁ + exponent₂)
                = mantissa₁ * 2 ^ exponent₁ * (mantissa₂ * 2 ^ exponent₂) := by
                  rw [zpow_add₀ two_ne_zero]
                  push_cast
                  ring
              _ ≤ bound := within

theorem isAtMost_mul {first second : Float} {bound₁ bound₂ : ℚ} (within₁ : IsAtMost bound₁ first)
    (within₂ : IsAtMost bound₂ second) (one_le : 1 ≤ bound₁ * bound₂)
    (small : 9 / 8 * (bound₁ * bound₂) < endOfDoubles) :
    IsAtMost (9 / 8 * (bound₁ * bound₂)) (first * second) := by
  obtain ⟨mantissa₁, exponent₁, parts₁, le₁⟩ := within₁
  obtain ⟨mantissa₂, exponent₂, parts₂, le₂⟩ := within₂
  obtain ⟨-, lower₁, -, normal₁⟩ := isCanonical_of_parts? parts₁
  obtain ⟨-, lower₂, -, normal₂⟩ := isCanonical_of_parts? parts₂
  refine isAtMost_pack_mul parts₁ parts₂ ?_ one_le small ?_
  · by_cases zero : mantissa₁ * mantissa₂ = 0
    · exact .inl zero
    · obtain ⟨positive₁, positive₂⟩ := Nat.mul_ne_zero_iff.mp zero
      rcases normal₁ with whole | rfl
      · exact .inr (.inl (by nlinarith [Nat.pos_of_ne_zero positive₂]))
      · rcases normal₂ with whole | rfl
        · exact .inr (.inl (by nlinarith [Nat.pos_of_ne_zero positive₁]))
        · exact .inr (.inr (by omega))
  · exact mul_le_mul le₁ le₂ (magnitude_nonneg _ _) ((magnitude_nonneg _ _).trans le₁)

/-- The quotient that is rounded is long enough, and not more than the exact one. -/
theorem divCore_bounds {mantissa₁ mantissa₂ : Nat} (exponent₁ exponent₂ : Int)
    (positive₁ : 0 < mantissa₁) (positive₂ : 0 < mantissa₂) :
    let core := divCore Format.binary64 mantissa₁ exponent₁ mantissa₂ exponent₂
    (52 ≤ core.1.log2 ∨ core.2.1 ≤ -1074) ∧
      (core.1 : ℚ) * 2 ^ core.2.1 ≤ mantissa₁ * 2 ^ exponent₁ / (mantissa₂ * 2 ^ exponent₂) := by
  have target_eq : Format.binary64.targetExponent
      (totalExponent mantissa₁ exponent₁ - totalExponent mantissa₂ exponent₂) =
        max ((mantissa₁.log2 : Int) + exponent₁ - (mantissa₂.log2 + exponent₂) - 53) (-1074) := by
    simp only [Format.targetExponent, totalExponent, Format.mantissaBits, Format.minExponent]
    norm_num
    omega
  simp only [divCore, target_eq]
  set target := min (exponent₁ - exponent₂)
    (max ((mantissa₁.log2 : Int) + exponent₁ - (mantissa₂.log2 + exponent₂) - 53) (-1074))
    with target_def
  obtain ⟨places, places_eq⟩ : ∃ places : Nat, exponent₁ - exponent₂ - target = places :=
    ⟨(exponent₁ - exponent₂ - target).toNat, by omega⟩
  rw [places_eq, Int.toNat_natCast, Nat.shiftLeft_eq]
  constructor
  · rw [or_iff_not_imp_right]
    intro higher
    have used : mantissa₂.log2 + 53 ≤ mantissa₁.log2 + places := by omega
    have long : 2 ^ 52 ≤ mantissa₁ * 2 ^ places / mantissa₂ := by
      apply (Nat.le_div_iff_mul_le positive₂).mpr
      calc 2 ^ 52 * mantissa₂
          ≤ 2 ^ 52 * 2 ^ (mantissa₂.log2 + 1) := Nat.mul_le_mul_left _ Nat.lt_log2_self.le
        _ ≤ 2 ^ mantissa₁.log2 * 2 ^ places := by
          rw [← Nat.pow_add, ← Nat.pow_add]
          exact Nat.pow_le_pow_right (by omega) (by omega)
        _ ≤ mantissa₁ * 2 ^ places := Nat.mul_le_mul_right _ (Nat.log2_self_le positive₁.ne')
    exact (Nat.le_log2 (by omega)).mpr long
  · have floor : ((mantissa₁ * 2 ^ places / mantissa₂ : Nat) : ℚ) ≤
        mantissa₁ * 2 ^ places / mantissa₂ := by
      exact_mod_cast Nat.cast_div_le (α := ℚ) (m := mantissa₁ * 2 ^ places) (n := mantissa₂)
    calc ((mantissa₁ * 2 ^ places / mantissa₂ : Nat) : ℚ) * 2 ^ target
        ≤ mantissa₁ * 2 ^ places / mantissa₂ * 2 ^ target := by gcongr
      _ = mantissa₁ * 2 ^ exponent₁ / (mantissa₂ * 2 ^ exponent₂) := by
        rw [show exponent₁ = exponent₂ + (places + target) by omega, zpow_add₀ two_ne_zero,
          zpow_add₀ two_ne_zero, zpow_natCast]
        field_simp

/-- Dividing by a number that is not zero. -/
theorem isAtMost_div {first second : Float} {bound₁ divisor : ℚ} {mantissa : Nat} {exponent : Int}
    (within : IsAtMost bound₁ first)
    (parts : parts? second.toModel.unpack = some (mantissa, exponent)) (positive : 0 < mantissa)
    (divisor_eq : (mantissa : ℚ) * 2 ^ exponent = divisor) (one_le : 1 ≤ bound₁ / divisor)
    (small : 9 / 8 * (bound₁ / divisor) < endOfDoubles) :
    IsAtMost (9 / 8 * (bound₁ / divisor)) (first / second) := by
  obtain ⟨mantissa₁, exponent₁, parts₁, le₁⟩ := within
  have nonneg : 0 ≤ 9 / 8 * (bound₁ / divisor) := by linarith
  have quotient : first / second = .ofModel (.pack (div Format.binary64 first.toModel.unpack
    second.toModel.unpack)) := rfl
  rw [quotient]
  subst divisor_eq
  cases unpacked₂ : second.toModel.unpack with
  | infinity _ => rw [unpacked₂] at parts; cases parts
  | notANumber => rw [unpacked₂] at parts; cases parts
  | zero _ => rw [unpacked₂] at parts; cases parts; omega
  | finite sign₂ _ _ positive₂ =>
      rw [unpacked₂] at parts
      cases parts
      cases unpacked₁ : first.toModel.unpack with
      | infinity _ => rw [unpacked₁] at parts₁; cases parts₁
      | notANumber => rw [unpacked₁] at parts₁; cases parts₁
      | zero sign₁ => exact isAtMost_pack_zero _ nonneg
      | finite sign₁ _ _ positive₁ =>
          rw [unpacked₁] at parts₁
          cases parts₁
          obtain ⟨long, le_quotient⟩ := divCore_bounds exponent₁ exponent positive₁ positive₂
          refine isAtMost_roundWithAccuracy _ _ long one_le small (le_quotient.trans ?_)
          gcongr

/-! ## Written numbers -/

/-- Rounding a positive integer. -/
theorem isAtMost_pack_ofNat {value : Nat} (positive : 0 < value)
    (small : 9 / 8 * (value : ℚ) < endOfDoubles) :
    IsAtMost (9 / 8 * value) (.ofModel (.pack (UnpackedFloat.ofNat Format.binary64 value))) := by
  have one_le : (1 : ℚ) ≤ value := by exact_mod_cast positive
  have ordering : compare (value : Int) 0 = .gt := Int.compare_eq_gt.mpr (by omega)
  rw [UnpackedFloat.ofNat, ofInt, UnpackedFloat.normalize, ordering]
  simp only [UnpackedFloat.round, decreaseExponent, targetExponent_eq, Int.toNat_natCast]
  set target := max ((value.log2 : Int) + 0 - 52) (-1074) with target_def
  obtain ⟨places, places_eq⟩ : ∃ places : Nat, places = (0 - target).toNat := ⟨_, rfl⟩
  rw [← places_eq, Nat.shiftLeft_eq]
  refine isAtMost_roundWithAccuracy _ _ (.inl ?_) one_le small (le_of_eq ?_)
  · apply (Nat.le_log2 (Nat.mul_ne_zero positive.ne' (Nat.two_pow_pos _).ne')).mpr
    calc 2 ^ 52
        ≤ 2 ^ value.log2 * 2 ^ places := by
          rw [← Nat.pow_add]
          exact Nat.pow_le_pow_right (by omega) (by omega)
      _ ≤ value * 2 ^ places := Nat.mul_le_mul_right _ (Nat.log2_self_le positive.ne')
  · rw [zero_sub, zpow_neg, zpow_natCast]
    push_cast
    field_simp

/-- A table entry is a power of ten. -/
theorem isAtMost_table {exponent : Nat} (small : exponent < 23) :
    IsAtMost (10 ^ exponent) Float.exactlyRepresentablePowersOfTen[exponent] := by
  have exact : ∀ entry : Fin 23,
      ((parts? Float.exactlyRepresentablePowersOfTen[entry].toModel.unpack).any
        fun (mantissa, exponent) => -52 ≤ exponent ∧
          mantissa * 2 ^ (exponent + 52).toNat ≤ 10 ^ (entry : Nat) * 2 ^ 52) = true := by
    decide +kernel
  obtain ⟨⟨mantissa, place⟩, parts, bounds⟩ := (Option.any_eq_true _ _).mp (exact ⟨exponent, small⟩)
  obtain ⟨place_ge, le_power⟩ := of_decide_eq_true bounds
  refine ⟨mantissa, place, parts, ?_⟩
  have le_scaled : (mantissa : ℚ) * 2 ^ (place + 52) ≤ 10 ^ exponent * 2 ^ 52 := by
    rw [← Int.toNat_of_nonneg (show 0 ≤ place + 52 by omega), zpow_natCast]
    exact_mod_cast le_power
  rw [zpow_add₀ two_ne_zero, ← mul_assoc] at le_scaled
  exact le_of_mul_le_mul_right le_scaled (by norm_num)

theorem exponent_lt_of_power {exponent : Nat} (small : (10 : ℚ) ^ exponent < endOfDoubles) :
    exponent < 1024 := by
  have : (2 : ℚ) ^ exponent < 2 ^ 1024 :=
    by
    rw [endOfDoubles] at small
    exact (pow_le_pow_left₀ (by norm_num) (by norm_num) exponent).trans_lt small
  exact (pow_lt_pow_iff_right₀ one_lt_two).mp this

/-- An integer with zeros after it. -/
theorem isAtMost_ofScientific {value exponent : Nat} (positive : 0 < value)
    (small : 81 / 64 * ((value : ℚ) * 10 ^ exponent) < endOfDoubles) :
    IsAtMost (81 / 64 * (value * 10 ^ exponent)) (Float.ofScientific value false exponent) := by
  have one_le : (1 : ℚ) ≤ value := by exact_mod_cast positive
  have one_le_power : (1 : ℚ) ≤ 10 ^ exponent := one_le_pow₀ (by norm_num)
  have value_le : (value : ℚ) ≤ value * 10 ^ exponent :=
    le_mul_of_one_le_right (by linarith) one_le_power
  have power_le : (10 : ℚ) ^ exponent ≤ value * 10 ^ exponent :=
    le_mul_of_one_le_left (by linarith) one_le
  unfold Float.ofScientific
  split
  case isTrue inTable =>
    have word : value.toUInt64.toNat = value := by
      simp
      omega
    have digits : IsAtMost (9 / 8 * value) value.toUInt64.toFloat := by
      change IsAtMost _ (.ofModel (.pack (UnpackedFloat.ofNat _ value.toUInt64.toNat)))
      rw [word]
      exact isAtMost_pack_ofNat positive (by linarith)
    have product := isAtMost_mul digits (isAtMost_table (by omega : exponent < 23))
      (by linarith) (by linarith)
    rw [← mul_assoc, ← mul_assoc] at product
    rw [← mul_assoc, show (81 / 64 : ℚ) = 9 / 8 * (9 / 8) by norm_num]
    exact product
  case isFalse beyond =>
    have bounded : exponent < 1024 := exponent_lt_of_power (by linarith)
    have product : IsAtMost (9 / 8 * (value * 10 ^ exponent))
        (.ofModel (Float.Model.ofScientific value exponent)) := by
      have exponents : (2 : Int) ^ Format.binary64.exponentBits = 2048 := rfl
      rw [Float.Model.ofScientific, UnpackedFloat.ofScientific, dif_neg positive.ne',
        if_neg (by omega), if_neg (by omega), if_pos (by omega)]
      refine isAtMost_pack_mul rfl rfl (.inr (.inl ?_)) (by linarith) (by linarith) (le_of_eq ?_)
      · rw [Nat.shiftLeft_eq, Nat.mul_right_comm]
        exact (Nat.pow_le_pow_right two_pos (by decide)).trans
          (Nat.le_mul_of_pos_left _ (Nat.mul_pos positive (Nat.pow_pos (by omega))))
      · rw [Nat.shiftLeft_eq, Int.toNat_natCast]
        push_cast
        rw [zpow_neg, zpow_natCast, mul_one, mul_assoc (value : ℚ),
          mul_inv_cancel₀ (by positivity), mul_one]
    obtain ⟨mantissa, place, parts, le_product⟩ := product
    exact ⟨mantissa, place, parts, by linarith⟩

end InverterBridge
