/-!
# Doubles as binary fractions

A finite double is `(-1)^negative * mantissa * 2^exponent` for exactly one
mantissa and exponent of the binary64 format.  The exact rules of this library
(rounding to an integer, shortest decimal digits, widening from single
precision) are stated on that triple and not on floating-point operations.
-/

namespace InverterBridge

/-- An exact binary fraction `(-1)^negative * mantissa * 2^exponent`. -/
structure BinaryFraction where
  negative : Bool
  mantissa : Nat
  exponent : Int
  deriving DecidableEq, Repr

namespace BinaryFraction

/-- The exact value of a finite double; NaN and the infinities have none.

The eleven exponent bits are zero for subnormal numbers, which have no hidden
leading one, and all ones for the values that are not finite. -/
def ofFloat? (value : Float) : Option BinaryFraction :=
  let bits : Nat := value.toBits.toNat
  let negative := decide (Nat.pow 2 63 ≤ bits)
  let biased : Nat := bits / Nat.pow 2 52 % Nat.pow 2 11
  let fraction : Nat := bits % Nat.pow 2 52
  if biased = 2047 then
    none
  else if biased = 0 then
    some ⟨negative, fraction, -1074⟩
  else
    some ⟨negative, Nat.pow 2 52 + fraction, (biased : Int) - 1075⟩

/-- Whether the fraction is zero, of either sign. -/
def isZero (fraction : BinaryFraction) : Bool :=
  fraction.mantissa == 0

/-- Numerator and denominator of the magnitude. -/
def ratio (fraction : BinaryFraction) : Nat × Nat :=
  match fraction.exponent with
  | .ofNat n => (fraction.mantissa * Nat.pow 2 n, 1)
  | .negSucc n => (fraction.mantissa, Nat.pow 2 (n + 1))

theorem ratio_den_pos (fraction : BinaryFraction) : 0 < fraction.ratio.2 := by
  unfold ratio
  split
  · exact Nat.one_pos
  · exact Nat.two_pow_pos _

end BinaryFraction

/-- A double of the given sign and magnitude. -/
def signed (negative : Bool) (magnitude : Float) : Float :=
  if negative then -magnitude else magnitude

/-- The value of a single-precision bit pattern as a double.

Every single is a double, so the widening is exact: a normal number keeps its
fraction, a subnormal one becomes normal, and a NaN stays a NaN. -/
def widenSingle (bits : UInt32) : Float :=
  let word : Nat := bits.toNat
  let negative := decide (Nat.pow 2 31 ≤ word)
  let biased : Nat := word / Nat.pow 2 23 % Nat.pow 2 8
  let fraction : Nat := word % Nat.pow 2 23
  if biased = 255 then
    if fraction = 0 then signed negative (1.0 / 0.0) else 0.0 / 0.0
  else if biased = 0 then
    signed negative (Float.ofNat fraction / Float.ofNat (Nat.pow 2 149))
  else
    signed negative
      (Float.ofBits (UInt64.ofNat ((biased + 896) * Nat.pow 2 52 + fraction * Nat.pow 2 29)))

/-- Whether a single-precision bit pattern is a NaN. -/
def isSingleNaN (bits : UInt32) : Bool :=
  bits.toNat / Nat.pow 2 23 % Nat.pow 2 8 == 255 && bits.toNat % Nat.pow 2 23 != 0

end InverterBridge
