import InverterBridge.Proofs.Number.Magnitude

/-!
# Widening is exact

Every single is a double, but `widenSingle` has to find it: a normal number by moving its bits, a
subnormal one by a division.  Neither rounds, since a mantissa that has a place in the format stays
as it is (`roundWithAccuracy_of_canonical`).  The double that comes out is the number that the bits
stand for in the binary32 format, sign, infinities and NaN included (`sameNumber_widenSingle`).
-/

namespace InverterBridge

open Float.Model (UnpackedFloat Format totalExponent)
open Float.Model.UnpackedFloat

/-- The same number of the same sign, whatever mantissa and exponent it is written with. -/
inductive SameNumber : UnpackedFloat → UnpackedFloat → Prop
  | notANumber : SameNumber .notANumber .notANumber
  | infinity (sign : Sign) : SameNumber (.infinity sign) (.infinity sign)
  | zero (sign : Sign) : SameNumber (.zero sign) (.zero sign)
  | finite (sign : Sign) {mantissa₁ mantissa₂ : Nat} {exponent₁ exponent₂ : Int}
      (positive₁ : 0 < mantissa₁) (positive₂ : 0 < mantissa₂)
      (same : (mantissa₁ : ℚ) * 2 ^ exponent₁ = mantissa₂ * 2 ^ exponent₂) :
      SameNumber (.finite sign mantissa₁ exponent₁ positive₁)
        (.finite sign mantissa₂ exponent₂ positive₂)

/-! ## Packing -/

theorem ofBitVec_toBitVec (sign : Sign) : Sign.ofBitVec sign.toBitVec = sign := by
  cases sign <;> rfl

theorem unpackSign_packComponents {spec : Format} (sign : Sign)
    (exponent : BitVec spec.exponentBits) (mantissa : BitVec spec.mantissaBitsWithoutImplicit) :
    unpackSign (packComponents spec sign exponent mantissa) = sign.toBitVec := by
  ext i first
  obtain rfl : i = 0 := by omega
  simp [unpackSign, packComponents, BitVec.getLsbD_append, BitVec.getElem_append]

theorem unpackSign_pack_finite (spec : Format) (sign : Sign) (mantissa : Nat) (exponent : Int)
    (positive : 0 < mantissa) :
    unpackSign (UnpackedFloat.pack spec (.finite sign mantissa exponent positive)) =
      sign.toBitVec := by
  simp only [UnpackedFloat.pack, packedInfinity]
  split
  · exact unpackSign_packComponents ..
  · split <;> exact unpackSign_packComponents ..

theorem sign_of_unpack {spec : Format} {bits : BitVec spec.numBits} {sign : Sign}
    {mantissa : Nat} {exponent : Int} {positive : 0 < mantissa}
    (unpacked : unpack spec bits = .finite sign mantissa exponent positive) :
    Sign.ofBitVec (unpackSign bits) = sign := by
  simp only [unpack] at unpacked
  split at unpacked
  · split at unpacked <;> cases unpacked
  · split at unpacked
    · split at unpacked
      · cases unpacked
      · exact (UnpackedFloat.finite.inj unpacked).1
    · exact (UnpackedFloat.finite.inj unpacked).1

/-- A finite number is known by its parts and its sign bit. -/
theorem unpack_of_parts {bits : BitVec Format.binary64.numBits} {mantissa : Nat} {exponent : Int}
    (parts : parts? (unpack Format.binary64 bits) = some (mantissa, exponent))
    (positive : 0 < mantissa) :
    unpack Format.binary64 bits =
      .finite (Sign.ofBitVec (unpackSign bits)) mantissa exponent positive := by
  cases unpacked : unpack Format.binary64 bits with
  | infinity _ => rw [unpacked] at parts; cases parts
  | notANumber => rw [unpacked] at parts; cases parts
  | zero _ => rw [unpacked] at parts; cases parts; omega
  | finite sign _ _ _ =>
      rw [unpacked] at parts
      cases parts
      rw [sign_of_unpack unpacked]

/-- A double of the format comes back from its bits. -/
theorem unpack_pack {mantissa : Nat} {exponent : Int} (canonical : IsCanonical mantissa exponent)
    (sign : Sign) (positive : 0 < mantissa) :
    (Float.Model.pack (.finite sign mantissa exponent positive)).unpack =
      .finite sign mantissa exponent positive := by
  have sign_kept := unpackSign_pack_finite Format.binary64 sign mantissa exponent positive
  rw [Float.Model.unpack, unpack_of_parts (parts?_pack canonical sign positive) positive]
  exact congrArg (UnpackedFloat.finite · mantissa exponent positive)
    ((congrArg Sign.ofBitVec sign_kept).trans (ofBitVec_toBitVec sign))

/-! ## Rounding what needs no rounding -/

theorem shiftRight_of_exact (mantissa places : Nat) :
    (⟨mantissa * 2 ^ places, false, false⟩ : ExtendedMantissa) >>> places =
      ⟨mantissa, false, false⟩ := by
  induction places generalizing mantissa with
  | zero => simp [HShiftRight.hShiftRight, Nat.repeat]
  | succ places ih =>
      have shifted : (⟨mantissa * 2 ^ (places + 1), false, false⟩ : ExtendedMantissa) >>> places =
          ⟨mantissa * 2, false, false⟩ := by
        rw [Nat.pow_succ, Nat.mul_comm (2 ^ places), ← Nat.mul_assoc]
        exact ih (mantissa * 2)
      change ExtendedMantissa.shiftRightOne
        ((⟨mantissa * 2 ^ (places + 1), false, false⟩ : ExtendedMantissa) >>> places) = _
      rw [shifted]
      simp [ExtendedMantissa.shiftRightOne]

theorem log2_mul_two_pow {mantissa : Nat} (positive : 0 < mantissa) (places : Nat) :
    (mantissa * 2 ^ places).log2 = mantissa.log2 + places := by
  have nonzero := positive.ne'
  rw [Nat.log2_eq_iff (by positivity), Nat.pow_add, Nat.add_right_comm, Nat.pow_add _ (_ + 1)]
  have power := Nat.two_pow_pos places
  exact ⟨Nat.mul_le_mul_right _ (Nat.log2_self_le nonzero),
    Nat.mul_lt_mul_of_pos_right Nat.lt_log2_self power⟩

/-- A number of the format that is written with further zeros is shifted to its place. -/
theorem shiftToTargetExponent_of_canonical {mantissa : Nat} {exponent : Int}
    (canonical : IsCanonical mantissa exponent) (positive : 0 < mantissa) (places : Nat) :
    shiftToTargetExponent Format.binary64 (mantissa * 2 ^ places) (exponent - places) .exact =
      (⟨mantissa, false, false⟩, exponent) := by
  obtain ⟨small, lower, -, normal⟩ := canonical
  have log_lt : mantissa.log2 < 53 := (Nat.log2_lt positive.ne').mpr small
  have target : max ((mantissa.log2 : Int) + exponent - 52) (-1074) = exponent := by
    rcases normal with whole | lowest
    · have := (Nat.le_log2 positive.ne').mpr whole
      omega
    · omega
  have amount : (max (((mantissa.log2 + places : Nat) : Int) + (exponent - places) - 52) (-1074) -
      (exponent - places)).toNat = places := by omega
  simp only [shiftToTargetExponent, shiftToExponent, targetExponent_eq,
    log2_mul_two_pow positive, amount, ExtendedMantissa.ofMantissaAndAccuracy,
    shiftRight_of_exact, Int.sub_add_cancel]

/-- A number of the format is not rounded. -/
theorem roundWithAccuracy_of_canonical {mantissa : Nat} {exponent : Int}
    (canonical : IsCanonical mantissa exponent) (sign : Sign) (positive : 0 < mantissa)
    (places : Nat) :
    roundWithAccuracy Format.binary64 sign (mantissa * 2 ^ places) (exponent - places) .exact =
      .finite sign mantissa exponent positive := by
  have again := shiftToTargetExponent_of_canonical canonical positive 0
  rw [Nat.pow_zero, Nat.mul_one, Int.natCast_zero, sub_zero] at again
  simp only [roundWithAccuracy, shiftToTargetExponent_of_canonical canonical positive,
    ExtendedMantissa.roundedMantissa, ExtendedMantissa.accuracy, Accuracy.roundToNearestEven,
    again, positive.ne', ↓reduceDIte]

/-! ## Integers -/

/-- Zeros after a mantissa of at most 53 bits fill it up. -/
theorem isCanonical_of_filled {value : Nat} (positive : 0 < value) (small : value < 2 ^ 53)
    {exponent : Int} (lower : -1074 ≤ exponent) (upper : exponent ≤ 971) :
    IsCanonical (value * 2 ^ (52 - value.log2)) exponent := by
  have log_lt : value.log2 < 53 := (Nat.log2_lt positive.ne').mpr small
  have filled : (value * 2 ^ (52 - value.log2)).log2 = 52 := by
    rw [log2_mul_two_pow positive]
    omega
  obtain ⟨whole, short⟩ := (Nat.log2_eq_iff (by positivity)).mp filled
  exact ⟨short, lower, upper, .inl whole⟩

theorem ofNat_of_small {value : Nat} (positive : 0 < value) (small : value < 2 ^ 53) :
    UnpackedFloat.ofNat Format.binary64 value =
      .finite .positive (value * 2 ^ (52 - value.log2)) (-((52 - value.log2 : Nat) : Int))
        (Nat.mul_pos positive (Nat.two_pow_pos _)) := by
  have log_lt : value.log2 < 53 := (Nat.log2_lt positive.ne').mpr small
  have ordering : compare (value : Int) 0 = .gt := Int.compare_eq_gt.mpr (by omega)
  have amount : (0 - max ((value.log2 : Int) + 0 - 52) (-1074)).toNat = 52 - value.log2 := by
    omega
  have filled := isCanonical_of_filled positive small
    (show -1074 ≤ -((52 - value.log2 : Nat) : Int) by omega) (by omega)
  have kept := roundWithAccuracy_of_canonical filled .positive
    (Nat.mul_pos positive (Nat.two_pow_pos _)) 0
  rw [Nat.pow_zero, Nat.mul_one, Int.natCast_zero, sub_zero] at kept
  simp only [UnpackedFloat.ofNat, ofInt, UnpackedFloat.normalize, ordering, UnpackedFloat.round,
    decreaseExponent, targetExponent_eq, Int.toNat_natCast, amount, Nat.shiftLeft_eq]
  rw [zero_sub, kept]

/-- An integer of at most 53 bits is a double. -/
theorem unpack_ofNat {value : Nat} (positive : 0 < value) (small : value < 2 ^ 53) :
    (Float.ofNat value).toModel.unpack =
      .finite .positive (value * 2 ^ (52 - value.log2)) (-((52 - value.log2 : Nat) : Int))
        (Nat.mul_pos positive (Nat.two_pow_pos _)) := by
  have log_lt : value.log2 < 53 := (Nat.log2_lt positive.ne').mpr small
  have integral := ofNat_of_small positive small
  set places := 52 - value.log2 with places_def
  have filled := isCanonical_of_filled positive small
    (show -1074 ≤ -(places : Int) by omega) (by omega)
  rw [← places_def] at filled
  have mantissa_pos := Nat.mul_pos positive (Nat.two_pow_pos places)
  have word : value.toUInt64.toNat = value := by
    simp
    omega
  have digits : value.toUInt64.toFloat.toModel.unpack =
      .finite .positive (value * 2 ^ places) (-(places : Int)) mantissa_pos := by
    change (Float.Model.pack (UnpackedFloat.ofNat _ value.toUInt64.toNat)).unpack = _
    rw [word, integral, unpack_pack filled]
  have one : Float.exactlyRepresentablePowersOfTen[0].toModel.unpack =
      .finite .positive (2 ^ 52) (-52) (by decide) := rfl
  have product : Float.ofNat value =
      value.toUInt64.toFloat * Float.exactlyRepresentablePowersOfTen[0] :=
    dif_pos ⟨small, by decide⟩
  rw [product]
  change (Float.Model.pack (mul Format.binary64 value.toUInt64.toFloat.toModel.unpack
    Float.exactlyRepresentablePowersOfTen[0].toModel.unpack)).unpack = _
  rw [digits, one]
  exact (congrArg (fun number => (Float.Model.pack number).unpack)
    (roundWithAccuracy_of_canonical filled .positive mantissa_pos 52)).trans
      (unpack_pack filled .positive mantissa_pos)

/-! ## Small numbers -/

/-- A double is known by its bits. -/
theorem unpack_eq_of_toBits {value : Float} (bits : UInt64) (known : value.toModel.toBits = bits) :
    value.toModel.unpack = unpack Format.binary64 bits.toBitVec := by
  rw [← known]
  rfl

/-- The divisor of a subnormal single. -/
theorem unpack_ofNat_two_pow_149 :
    (Float.ofNat (Nat.pow 2 149)).toModel.unpack = .finite .positive (2 ^ 52) 97 (by decide) :=
  unpack_eq_of_toBits 0x4940000000000000 (by decide +kernel)

theorem unpack_zero_div_two_pow_149 :
    (Float.ofNat 0 / Float.ofNat (Nat.pow 2 149)).toModel.unpack = .zero .positive :=
  unpack_eq_of_toBits 0 (by decide +kernel)

/-- The quotient is the mantissa of the integer with a lower exponent. -/
theorem unpack_div_two_pow_149 {value : Nat} (positive : 0 < value) (small : value < 2 ^ 53) :
    (Float.ofNat value / Float.ofNat (Nat.pow 2 149)).toModel.unpack =
      .finite .positive (value * 2 ^ (52 - value.log2)) (-149 - ((52 - value.log2 : Nat) : Int))
        (Nat.mul_pos positive (Nat.two_pow_pos _)) := by
  have log_lt : value.log2 < 53 := (Nat.log2_lt positive.ne').mpr small
  have dividend := unpack_ofNat positive small
  set places := 52 - value.log2 with places_def
  have filled := isCanonical_of_filled positive small
    (show -1074 ≤ -149 - (places : Int) by omega) (by omega)
  rw [← places_def] at filled
  have mantissa_pos := Nat.mul_pos positive (Nat.two_pow_pos places)
  have core : divCore Format.binary64 (value * 2 ^ places) (-(places : Int)) (2 ^ 52) 97 =
      (value * 2 ^ places * 2 ^ 1, -149 - (places : Int) - (1 : Nat), .exact) := by
    have used : (value * 2 ^ places).log2 = 52 :=
      (Nat.log2_eq_iff mantissa_pos.ne').mpr ⟨filled.normal.resolve_right (by omega),
        filled.mantissa_lt⟩
    have target : min (-(places : Int) - 97) (Format.binary64.targetExponent
        (totalExponent (value * 2 ^ places) (-(places : Int)) - totalExponent (2 ^ 52) 97)) =
        -149 - (places : Int) - (1 : Nat) := by
      simp only [Format.targetExponent, totalExponent, used, Nat.log2_two_pow, Format.mantissaBits,
        Format.minExponent]
      norm_num
      omega
    have amount : (-(places : Int) - 97 - (-149 - (places : Int) - (1 : Nat))).toNat = 53 := by
      omega
    have shifted : value * 2 ^ places * 2 ^ 53 = value * 2 ^ places * 2 ^ 1 * 2 ^ 52 := by ring
    simp only [divCore, target, amount, Nat.shiftLeft_eq, shifted, accuracyOfFraction,
      Nat.mul_mod_left, Nat.mul_div_cancel _ (Nat.two_pow_pos 52), ↓reduceIte]
  change (Float.Model.pack (div Format.binary64 (Float.ofNat value).toModel.unpack
    (Float.ofNat (Nat.pow 2 149)).toModel.unpack)).unpack = _
  rw [dividend, unpack_ofNat_two_pow_149]
  simp only [div, core]
  rw [roundWithAccuracy_of_canonical filled]
  exact unpack_pack filled .positive mantissa_pos

/-! ## Singles -/

/-- The sign of a single. -/
def singleSign (bits : UInt32) : Sign :=
  if 2 ^ 31 ≤ bits.toNat then .negative else .positive

theorem unpackSign_single (bits : UInt32) :
    Sign.ofBitVec (@unpackSign Format.binary32 bits.toBitVec) = singleSign bits := by
  have sign_eq : (@unpackSign Format.binary32 bits.toBitVec).toNat =
      bits.toNat / 2 ^ 31 := by
    have below := bits.toNat_lt
    simp [unpackSign, Nat.shiftRight_eq_div_pow]
    omega
  have positive_iff : @unpackSign Format.binary32 bits.toBitVec = 0#1 ↔
      ¬ 2 ^ 31 ≤ bits.toNat := by
    rw [← BitVec.toNat_inj, sign_eq, BitVec.toNat_ofNat]
    omega
  simp only [singleSign, Sign.ofBitVec, positive_iff, ite_not]

/-- What the exponent bits and the fraction bits of a single stand for. -/
def single (sign : Sign) (biased fraction : Nat) : UnpackedFloat :=
  if biased = 255 then
    if fraction = 0 then .infinity sign else .notANumber
  else if biased = 0 then
    if zero : fraction = 0 then .zero sign
    else .finite sign fraction (-149) (Nat.pos_of_ne_zero zero)
  else
    .finite sign (2 ^ 23 + fraction) ((biased : Int) - 150) (by positivity)

theorem unpack_single (bits : UInt32) :
    unpack Format.binary32 bits.toBitVec =
      single (singleSign bits) (bits.toNat / 2 ^ 23 % 2 ^ 8) (bits.toNat % 2 ^ 23) := by
  have fraction_eq : (@unpackMantissa Format.binary32 bits.toBitVec).toNat =
      bits.toNat % 2 ^ 23 := by
    simp [unpackMantissa]
  have biased_eq : (@unpackExponent Format.binary32 bits.toBitVec).toNat =
      bits.toNat / 2 ^ 23 % 2 ^ 8 := by
    simp [unpackExponent, Nat.shiftRight_eq_div_pow]
  have last_iff : @unpackExponent Format.binary32 bits.toBitVec = -1#8 ↔
      bits.toNat / 2 ^ 23 % 2 ^ 8 = 255 := by
    rw [← BitVec.toNat_inj, biased_eq]
    rfl
  have first_iff : @unpackExponent Format.binary32 bits.toBitVec = 0#8 ↔
      bits.toNat / 2 ^ 23 % 2 ^ 8 = 0 := by
    rw [← BitVec.toNat_inj, biased_eq]
    rfl
  have zero_iff : @unpackMantissa Format.binary32 bits.toBitVec = 0#23 ↔
      bits.toNat % 2 ^ 23 = 0 := by
    rw [← BitVec.toNat_inj, fraction_eq]
    rfl
  have whole : (1#1 ++ @unpackMantissa Format.binary32 bits.toBitVec).toNat =
      2 ^ 23 + bits.toNat % 2 ^ 23 := by
    rw [BitVec.toNat_append, ← Nat.shiftLeft_add_eq_or_of_lt (BitVec.isLt _), fraction_eq]
    rfl
  simp only [unpack, single, last_iff, first_iff, zero_iff, fraction_eq, biased_eq, whole,
    unpackSign_single, Format.exponentBias]
  split
  · rfl
  · split
    · rename_i lowest
      simp only [lowest]
      rfl
    · norm_num

theorem isSingleNaN_iff (bits : UInt32) :
    isSingleNaN bits = true ↔ unpack Format.binary32 bits.toBitVec = .notANumber := by
  rw [unpack_single, single]
  simp only [isSingleNaN, Nat.pow_eq, Bool.and_eq_true, beq_iff_eq, bne_iff_ne]
  split
  · split <;> simp_all
  · split
    · split <;> simp_all
    · simp_all

/-- A double with the sign of a single. -/
theorem unpack_signed {value : Float} (number : Sign → UnpackedFloat) (bits : UInt32)
    (unpacked : value.toModel.unpack = number .positive)
    (opposite : (number .positive).neg = number .negative)
    (stored : (Float.Model.pack (number .negative)).unpack = number .negative) :
    (signed (decide (2 ^ 31 ≤ bits.toNat)) value).toModel.unpack =
      number (singleSign bits) := by
  unfold singleSign
  by_cases negative : 2 ^ 31 ≤ bits.toNat
  · rw [if_pos negative, decide_eq_true negative, ← stored, ← opposite, ← unpacked]
    rfl
  · rw [if_neg negative, decide_eq_false negative, ← unpacked]
    rfl

/-- A positive double as its bits are read. -/
theorem unpack_ofBits {bits : UInt64} {mantissa : Nat} {exponent : Int}
    (unsigned : bits.toNat < 2 ^ 63)
    (parts : stored? (bits.toNat / 2 ^ 52 % 2 ^ 11) (bits.toNat % 2 ^ 52) =
      some (mantissa, exponent))
    (positive : 0 < mantissa) :
    (Float.ofBits bits).toModel.unpack = .finite .positive mantissa exponent positive := by
  have fraction_eq : (@unpackMantissa Format.binary64 bits.toBitVec).toNat =
      bits.toNat % 2 ^ 52 := by
    simp [unpackMantissa]
  have biased_eq : (@unpackExponent Format.binary64 bits.toBitVec).toNat =
      bits.toNat / 2 ^ 52 % 2 ^ 11 := by
    simp [unpackExponent, Nat.shiftRight_eq_div_pow]
  have sign_eq : @unpackSign Format.binary64 bits.toBitVec = 0#1 := by
    apply BitVec.eq_of_toNat_eq
    simp [unpackSign, Nat.shiftRight_eq_div_pow]
    omega
  have canonical := isCanonical_of_stored? (Nat.mod_lt _ (Nat.two_pow_pos _))
    (Nat.mod_lt _ (Nat.two_pow_pos _)) parts
  rw [← fraction_eq, ← biased_eq, ← parts?_unpack] at parts
  have unpacked := unpack_of_parts parts positive
  rw [sign_eq] at unpacked
  have read : (Float.ofBits bits).toModel =
      Float.Model.pack (unpack Format.binary64 bits.toBitVec) := rfl
  rw [read, unpacked]
  exact unpack_pack canonical .positive positive

/-- The bits of a normal single, moved to the places they have in a double. -/
theorem unpack_normal {biased fraction : Nat} (biased_pos : 0 < biased) (biased_lt : biased < 255)
    (fraction_lt : fraction < 2 ^ 23) (positive : 0 < 2 ^ 52 + fraction * 2 ^ 29) :
    (Float.ofBits (UInt64.ofNat
      ((biased + 896) * Nat.pow 2 52 + fraction * Nat.pow 2 29))).toModel.unpack =
        .finite .positive (2 ^ 52 + fraction * 2 ^ 29) ((biased : Int) - 179) positive := by
  have word : (UInt64.ofNat ((biased + 896) * Nat.pow 2 52 + fraction * Nat.pow 2 29)).toNat =
      (biased + 896) * 2 ^ 52 + fraction * 2 ^ 29 := by
    simp
    omega
  have biased_eq : ((biased + 896) * 2 ^ 52 + fraction * 2 ^ 29) / 2 ^ 52 % 2 ^ 11 =
      biased + 896 := by omega
  have fraction_eq : ((biased + 896) * 2 ^ 52 + fraction * 2 ^ 29) % 2 ^ 52 =
      fraction * 2 ^ 29 := by omega
  apply unpack_ofBits
  · omega
  · rw [word, biased_eq, fraction_eq, stored?, if_neg (by omega), if_neg (by omega)]
    simp only [Option.some.injEq, Prod.mk.injEq, true_and]
    omega

theorem unpack_one_div_zero : (1.0 / 0.0 : Float).toModel.unpack = .infinity .positive :=
  unpack_eq_of_toBits 0x7FF0000000000000 (by decide +kernel)

theorem unpack_zero_div_zero : (0.0 / 0.0 : Float).toModel.unpack = .notANumber :=
  unpack_eq_of_toBits 0x7FF8000000000000 (by decide +kernel)

/-- A subnormal single is divided into place. -/
theorem sameNumber_of_subnormal (bits : UInt32) {fraction : Nat} (positive : 0 < fraction)
    (small : fraction < 2 ^ 23) :
    SameNumber (.finite (singleSign bits) fraction (-149) positive)
      (signed (decide (2 ^ 31 ≤ bits.toNat))
        (Float.ofNat fraction / Float.ofNat (Nat.pow 2 149))).toModel.unpack := by
  have log_lt : fraction.log2 < 53 := (Nat.log2_lt positive.ne').mpr (by omega)
  have mantissa_pos := Nat.mul_pos positive (Nat.two_pow_pos (52 - fraction.log2))
  have quotient := unpack_div_two_pow_149 positive (by omega)
  have canonical := isCanonical_of_filled positive (by omega)
    (show -1074 ≤ -149 - ((52 - fraction.log2 : Nat) : Int) by omega) (by omega)
  rw [unpack_signed (.finite · _ _ mantissa_pos) bits quotient rfl
    (unpack_pack canonical .negative mantissa_pos)]
  apply SameNumber.finite
  rw [zpow_sub₀ two_ne_zero, zpow_natCast]
  push_cast
  field_simp

/-- A normal single keeps its bits. -/
theorem sameNumber_of_normal (bits : UInt32) {biased fraction : Nat} (biased_pos : 0 < biased)
    (biased_lt : biased < 255) (fraction_lt : fraction < 2 ^ 23)
    (positive : 0 < 2 ^ 23 + fraction) :
    SameNumber (.finite (singleSign bits) (2 ^ 23 + fraction) ((biased : Int) - 150) positive)
      (signed (decide (2 ^ 31 ≤ bits.toNat)) (Float.ofBits (UInt64.ofNat
        ((biased + 896) * Nat.pow 2 52 + fraction * Nat.pow 2 29)))).toModel.unpack := by
  have mantissa_pos : 0 < 2 ^ 52 + fraction * 2 ^ 29 := by omega
  have moved := unpack_normal biased_pos biased_lt fraction_lt mantissa_pos
  have canonical : IsCanonical (2 ^ 52 + fraction * 2 ^ 29) ((biased : Int) - 179) := by
    constructor <;> omega
  rw [unpack_signed (.finite · _ _ mantissa_pos) bits moved rfl
    (unpack_pack canonical .negative mantissa_pos)]
  apply SameNumber.finite
  rw [show (biased : Int) - 150 = 29 + (biased - 179) by ring, zpow_add₀ two_ne_zero]
  push_cast
  ring

/-- A single is widened to the double that is the same number. -/
theorem sameNumber_widenSingle (bits : UInt32) :
    SameNumber (unpack Format.binary32 bits.toBitVec) (widenSingle bits).toModel.unpack := by
  have fraction_lt : bits.toNat % 2 ^ 23 < 2 ^ 23 := Nat.mod_lt _ (Nat.two_pow_pos _)
  have biased_lt : bits.toNat / 2 ^ 23 % 2 ^ 8 < 2 ^ 8 := Nat.mod_lt _ (Nat.two_pow_pos _)
  rw [unpack_single]
  simp only [single, widenSingle, Nat.pow_eq]
  by_cases last : bits.toNat / 2 ^ 23 % 2 ^ 8 = 255
  · rw [if_pos last, if_pos last]
    by_cases zero : bits.toNat % 2 ^ 23 = 0
    · rw [if_pos zero, if_pos zero, unpack_signed .infinity bits unpack_one_div_zero rfl rfl]
      exact .infinity _
    · rw [if_neg zero, if_neg zero, unpack_zero_div_zero]
      exact .notANumber
  · rw [if_neg last, if_neg last]
    by_cases first : bits.toNat / 2 ^ 23 % 2 ^ 8 = 0
    · rw [if_pos first, if_pos first]
      by_cases zero : bits.toNat % 2 ^ 23 = 0
      · rw [dif_pos zero, zero]
        rw [unpack_signed .zero bits unpack_zero_div_two_pow_149 rfl rfl]
        exact .zero _
      · rw [dif_neg zero]
        exact sameNumber_of_subnormal bits (Nat.pos_of_ne_zero zero) fraction_lt
    · rw [if_neg first, if_neg first]
      exact sameNumber_of_normal bits (by omega) (by omega) fraction_lt (by positivity)

end InverterBridge
