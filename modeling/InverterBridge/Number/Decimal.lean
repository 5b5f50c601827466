import InverterBridge.Number.Shortest

/-!
# Decimal text of doubles

Doubles are written by their shortest digits.  A `DecimalLayout` says for which
exponents the digits are placed positionally; all other numbers are written
with a signed exponent.  Reading goes the other way: a decimal number is the
double nearest to it, or, for the strict document format, the double obtained
from its first digits by one scaling.
-/

namespace InverterBridge

/-- Decimal digits of a natural number as text. -/
def natText (n : Nat) : String :=
  String.ofList (Nat.toDigits 10 n)

/-- Decimal digits of an integer as text, with a minus sign if negative. -/
def intText : Int → String
  | .ofNat n => natText n
  | .negSucc n => "-" ++ natText (n + 1)

/-- Where a written number is positional.

A number whose first digit has an exponent from `lowest` to `highest` is
written with a decimal point and at least one fraction digit. -/
structure DecimalLayout where
  lowest : Int
  highest : Int
  deriving DecidableEq, Repr

namespace DecimalLayout

/-- Documents place the digits positionally from `10^-5` to below `10^16`. -/
def document : DecimalLayout := ⟨-5, 15⟩

/-- Messages never use an exponent; no double has its first digit beyond
`10^400` in either direction. -/
def message : DecimalLayout := ⟨-400, 400⟩

/-- Digits placed around the decimal point; `exponent` is that of the first. -/
def positional (digits : List Char) (exponent : Int) : List Char :=
  match exponent with
  | .ofNat n =>
      let whole := digits.take (n + 1) ++ List.replicate (n + 1 - digits.length) '0'
      let fraction := digits.drop (n + 1)
      whole ++ '.' :: (if fraction.isEmpty then ['0'] else fraction)
  | .negSucc n => '0' :: '.' :: (List.replicate n '0' ++ digits)

/-- Digits with a signed exponent; a single digit carries no decimal point. -/
def scientific (digits : List Char) (exponent : Int) : List Char :=
  let power :=
    match exponent with
    | .ofNat n => '+' :: Nat.toDigits 10 n
    | .negSucc n => '-' :: Nat.toDigits 10 (n + 1)
  match digits with
  | [] => 'e' :: power
  | [digit] => digit :: 'e' :: power
  | digit :: rest => digit :: '.' :: (rest ++ 'e' :: power)

/-- The text of a positive decimal number. -/
def decimalText (layout : DecimalLayout) (decimal : Decimal) : List Char :=
  let digits := Nat.toDigits 10 decimal.digits
  let exponent := decimal.exponent + (digits.length : Int) - 1
  if layout.lowest ≤ exponent ∧ exponent ≤ layout.highest then
    positional digits exponent
  else
    scientific digits exponent

/-- The text of a finite double; the sign of zero is written. -/
def fractionText (layout : DecimalLayout) (fraction : BinaryFraction) : List Char :=
  let magnitude :=
    if fraction.isZero then ['0', '.', '0']
    else layout.decimalText (Decimal.shortest fraction)
  if fraction.negative then '-' :: magnitude else magnitude

/-- The text of a double, none for NaN and the infinities. -/
def text? (layout : DecimalLayout) (value : Float) : Option String :=
  (BinaryFraction.ofFloat? value).map fun fraction =>
    String.ofList (layout.fractionText fraction)

/-- A double as it appears in messages. -/
def shownNumber (layout : DecimalLayout) (value : Float) : String :=
  match layout.text? value with
  | some text => text
  | none => if value.isNaN then "NaN" else if value < 0.0 then "-inf" else "inf"

end DecimalLayout

/-- The natural number written by decimal digits. -/
def digitsValue (digits : List Char) : Nat :=
  digits.foldl (fun value digit => value * 10 + (digit.toNat - '0'.toNat)) 0

/-- An unsigned decimal number as it was written: the digits before and after
the point, and the exponent. -/
structure WrittenDecimal where
  whole : List Char
  fraction : List Char
  exponent : Int
  deriving DecidableEq, Repr

namespace WrittenDecimal

/-- The double nearest to the written number, infinity beyond the range.

Numbers whose first digit is far outside the range of doubles are settled by
their size alone, so the length of the exponent costs nothing. -/
def nearest (written : WrittenDecimal) : Float :=
  let digits := written.whole ++ written.fraction
  let value := digitsValue digits
  let exponent := written.exponent - (written.fraction.length : Int)
  if value = 0 then
    0.0
  else
    let size := (digitCount value : Int) + exponent
    if 400 < size then 1.0 / 0.0
    else if size < -400 then 0.0
    else
      match exponent with
      | .ofNat n => Float.ofScientific value false n
      | .negSucc n => Float.ofScientific value true (n + 1)

/-- The largest integer of 64 bits. -/
def significandBound : Nat := UInt64.size

/-- Digits gathered into at most 64 bits: the value, and the digits left over
from the first one that does not fit. -/
def gather (value : Nat) : List Char → Nat × List Char
  | [] => (value, [])
  | digit :: rest =>
      let next := value * 10 + (digit.toNat - '0'.toNat)
      if next < significandBound then gather next rest else (value, digit :: rest)

/-- `value * 10^exponent` by one multiplication or division, none beyond the
range of doubles.  A power below the range is divided out in two parts. -/
def scale? (value : Float) (exponent : Int) : Option Float :=
  if value == 0.0 then
    some value
  else
    match exponent with
    | .ofNat n =>
        if n ≤ 308 then
          let scaled := value * Float.ofScientific 1 false n
          if scaled.isFinite then some scaled else none
        else
          none
    | .negSucc n =>
        let places := n + 1
        if places ≤ 308 then
          some (value / Float.ofScientific 1 false places)
        else
          let reduced := value / Float.ofScientific 1 false 308
          if places ≤ 616 then
            some (reduced / Float.ofScientific 1 false (places - 308))
          else
            some 0.0

/-- The double read from the first digits that fit 64 bits, scaled once; none
where the number is too large.

Whole digits left over count as powers of ten, and fraction digits left over
are dropped. -/
def scaled? (written : WrittenDecimal) : Option Float :=
  let (whole, wholeRest) := gather 0 written.whole
  let (value, fractionRest) := gather whole written.fraction
  let places := written.fraction.length - fractionRest.length
  scale? (Float.ofNat value) (written.exponent + (wholeRest.length : Int) - (places : Int))

end WrittenDecimal

end InverterBridge
