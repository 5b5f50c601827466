/-!
# Hexadecimal digits

Digits are written in lower case and read in either case.
-/

namespace InverterBridge

/-- A lower-case hexadecimal digit. -/
def hexDigit (value : Nat) : Char :=
  if value < 10 then Char.ofNat (48 + value) else Char.ofNat (87 + value)

/-- The lowest digits of a number, with leading zeros. -/
def hexDigits : Nat → Nat → List Char
  | 0, _ => []
  | places + 1, value => hexDigits places (value / 16) ++ [hexDigit (value % 16)]

/-- The value of a hexadecimal digit. -/
def hexValue? (digit : Char) : Option Nat :=
  if '0' ≤ digit ∧ digit ≤ '9' then some (digit.toNat - '0'.toNat)
  else if 'a' ≤ digit ∧ digit ≤ 'f' then some (digit.toNat - 'a'.toNat + 10)
  else if 'A' ≤ digit ∧ digit ≤ 'F' then some (digit.toNat - 'A'.toNat + 10)
  else none

/-- Whether a character is a hexadecimal digit. -/
def isHexDigit (character : Char) : Bool :=
  (hexValue? character).isSome

/-- The number written by hexadecimal digits, none for other characters. -/
def hexNumber? (digits : List Char) : Option Nat :=
  digits.foldlM (fun value digit => (hexValue? digit).map (value * 16 + ·)) 0

end InverterBridge
