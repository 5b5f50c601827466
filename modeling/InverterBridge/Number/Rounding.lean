import InverterBridge.Number.Binary
import InverterBridge.Number.PowerOfTen

/-!
# Rounding to decimal places

Published readings are rounded to a fixed number of decimal places.  The value
is scaled by a power of ten, rounded to the nearest integer with halves going
away from zero, and scaled back; the three steps round in double precision.
-/

namespace InverterBridge

/-- The nearest integer to `numerator / denominator`, halves going up. -/
def nearestNat (numerator denominator : Nat) : Nat :=
  (2 * numerator + denominator) / (2 * denominator)

/-- The nearest integral double, halves going away from zero.

A double of magnitude `2^52` or more is integral already, and the sign is kept
also where the magnitude rounds to zero. -/
def roundHalfAway (value : Float) : Float :=
  match BinaryFraction.ofFloat? value with
  | none => value
  | some fraction =>
      match fraction.exponent with
      | .ofNat _ => value
      | .negSucc n =>
          signed fraction.negative (Float.ofNat (nearestNat fraction.mantissa (Nat.pow 2 (n + 1))))

/-- `value` rounded to `decimals` decimal places.

Values that are not finite are returned as they are, and a result that is zero
is the positive zero. -/
def roundTo (value : Float) (decimals : Int) : Float :=
  if value.isFinite then
    let factor := powerOfTen decimals
    let rounded := roundHalfAway (value * factor) / factor
    if rounded == 0.0 then 0.0 else rounded
  else
    value

end InverterBridge
