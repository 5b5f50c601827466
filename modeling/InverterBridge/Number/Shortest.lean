import InverterBridge.Number.Binary

/-!
# Shortest decimal digits

`Decimal.shortest` gives the decimal number with the fewest digits that reads
back as a given positive double, and of several such numbers the one nearest to
the double.  The reals that read back as `m * 2^q` lie within half a unit of
the last binary place (a quarter below a power of two), ends included exactly
when `m` is even.  A decimal grid meets that interval exactly when one of the
two grid points around the double lies in it, so two candidates are tried for
each number of digits; seventeen digits always suffice.
-/

namespace InverterBridge

/-- The decimal number `digits * 10^exponent`. -/
structure Decimal where
  digits : Nat
  exponent : Int
  deriving DecidableEq, Repr

/-- The reals that read back as one double: `low / unit` to `high / unit`
around `middle / unit`, ends included when `closed`. -/
structure RoundingInterval where
  low : Nat
  middle : Nat
  high : Nat
  unit : Nat
  closed : Bool
  deriving Repr

namespace RoundingInterval

/-- The interval of a nonzero binary fraction in quarters of its last place. -/
def ofFraction (fraction : BinaryFraction) : RoundingInterval :=
  let quarters := 4 * fraction.mantissa
  let below :=
    if fraction.mantissa = Nat.pow 2 52 ∧ fraction.exponent ≠ -1074 then 1 else 2
  let scale := fun quarter : Nat =>
    (BinaryFraction.mk false quarter (fraction.exponent - 2)).ratio
  { low := (scale (quarters - below)).1
    middle := (scale quarters).1
    high := (scale (quarters + 2)).1
    unit := (scale quarters).2
    closed := fraction.mantissa % 2 == 0 }

/-- Whether `numerator / denominator` lies in the interval. -/
def contains (interval : RoundingInterval) (numerator denominator : Nat) : Bool :=
  let scaled := numerator * interval.unit
  if interval.closed then
    interval.low * denominator ≤ scaled && scaled ≤ interval.high * denominator
  else
    interval.low * denominator < scaled && scaled < interval.high * denominator

end RoundingInterval

/-- Number of decimal digits of a natural number; zero has one. -/
def digitCount (n : Nat) : Nat :=
  (Nat.toDigits 10 n).length

namespace Decimal

/-- Numerator and denominator of `digits * 10^exponent`. -/
def ratio (decimal : Decimal) : Nat × Nat :=
  match decimal.exponent with
  | .ofNat n => (decimal.digits * Nat.pow 10 n, 1)
  | .negSucc n => (decimal.digits, Nat.pow 10 (n + 1))

/-- The exponent of the first decimal digit of `numerator / denominator > 0`. -/
def leadingExponent (numerator denominator : Nat) : Int :=
  if denominator ≤ numerator then
    (digitCount (numerator / denominator) : Int) - 1
  else
    -(digitCount ((denominator + numerator - 1) / numerator - 1) : Int)

/-- The multiple of `10^exponent` at or below the middle of the interval. -/
def below (interval : RoundingInterval) (exponent : Int) : Nat :=
  match exponent with
  | .ofNat n => interval.middle / (interval.unit * Nat.pow 10 n)
  | .negSucc n => interval.middle * Nat.pow 10 (n + 1) / interval.unit

/-- Whether a decimal number lies in the interval. -/
def inInterval (interval : RoundingInterval) (decimal : Decimal) : Bool :=
  interval.contains decimal.ratio.1 decimal.ratio.2

/-- Whether the grid point above the middle is nearer to it than the one below;
a tie goes to the even one. -/
def upperNearer (interval : RoundingInterval) (digits : Nat) (exponent : Int) : Bool :=
  let halfway := Decimal.ratio ⟨2 * digits + 1, exponent⟩
  let ordering := compare (2 * interval.middle * halfway.2) (halfway.1 * interval.unit)
  ordering == .gt || ordering == .eq && digits % 2 == 1

/-- The grid point of spacing `10^exponent` that reads back, if there is one. -/
def onGrid? (interval : RoundingInterval) (exponent : Int) : Option Decimal :=
  let digits := below interval exponent
  let lower : Decimal := ⟨digits, exponent⟩
  let upper : Decimal := ⟨digits + 1, exponent⟩
  match inInterval interval lower, inInterval interval upper with
  | true, true => some (if upperNearer interval digits exponent then upper else lower)
  | true, false => some lower
  | false, true => some upper
  | false, false => none

/-- The same number without trailing zero digits. -/
def trim (decimal : Decimal) : Decimal :=
  go decimal.digits decimal.digits decimal.exponent
where
  go : Nat → Nat → Int → Decimal
    | 0, digits, exponent => ⟨digits, exponent⟩
    | fuel + 1, digits, exponent =>
        if digits ≠ 0 ∧ digits % 10 = 0 then
          go fuel (digits / 10) (exponent + 1)
        else
          ⟨digits, exponent⟩

/-- The shortest decimal number that reads back as a nonzero binary fraction. -/
def shortest (fraction : BinaryFraction) : Decimal :=
  let interval := RoundingInterval.ofFraction fraction
  let leading := leadingExponent interval.middle interval.unit
  let grids := (List.range 17).map fun places : Nat => leading - (places : Int)
  match grids.findSome? (onGrid? interval) with
  | some decimal => decimal.trim
  | none => ⟨0, 0⟩

end Decimal

end InverterBridge
