import InverterBridge.Number.Decimal
import InverterBridge.Number.Hexadecimal

/-!
# Exact text of doubles

Where no digit may be lost a double is written by its bits: `0x` and sixteen
hexadecimal digits.  Decimal text is read as well, to the nearest double.
-/

namespace InverterBridge

/-- A double by its bits; the values that are not finite by their names. -/
def exactText (value : Float) : String :=
  if value.isNaN then "NaN"
  else if value.isInf then (if value < 0.0 then "-inf" else "inf")
  else String.ofList ('0' :: 'x' :: hexDigits 16 value.toBits.toNat)

/-- The exponent of a number, after the letter. -/
def exponentValue : List Char → Int
  | '-' :: digits => -(digitsValue digits : Int)
  | '+' :: digits => digitsValue digits
  | digits => digitsValue digits

/-- A decimal number without a sign. -/
def writtenDecimal (text : List Char) : WrittenDecimal :=
  let whole := text.takeWhile Char.isDigit
  let rest := text.drop whole.length
  let fraction :=
    match rest with
    | '.' :: after => after.takeWhile Char.isDigit
    | _ => []
  let exponent := (text.dropWhile fun character => character != 'e' && character != 'E').drop 1
  ⟨whole, fraction, exponentValue exponent⟩

/-- The double of an unsigned text. -/
def unsignedExact (text : List Char) : Float :=
  if text = "NaN".toList then 0.0 / 0.0
  else if text = "inf".toList then 1.0 / 0.0
  else
    match text with
    | '0' :: 'x' :: digits => Float.ofBits (UInt64.ofNat ((hexNumber? digits).getD 0))
    | _ => (writtenDecimal text).nearest

/-- The double of a text: its bits, its name or its decimal digits. -/
def ofExactText (text : String) : Float :=
  match text.toList with
  | '-' :: rest => -(unsignedExact rest)
  | '+' :: rest => unsignedExact rest
  | rest => unsignedExact rest

end InverterBridge
