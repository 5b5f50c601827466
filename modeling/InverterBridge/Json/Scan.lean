import InverterBridge.Number.Decimal

/-!
# Scanning signs and digits

Both JSON dialects scan runs of characters and signed exponents.  A scan never
lengthens the text, which is what makes the tokenizers end.
-/

namespace InverterBridge

theorem dropWhile_length_le (holds : Char → Bool) (text : List Char) :
    (text.dropWhile holds).length ≤ text.length := by
  induction text with
  | nil => simp
  | cons character text ih =>
      rw [List.dropWhile_cons]
      split
      · simp only [List.length_cons]
        omega
      · simp

/-- Take a leading sign: whether it is a minus, and the text after it. -/
def takeSign : List Char → Bool × List Char
  | '-' :: rest => (true, rest)
  | '+' :: rest => (false, rest)
  | text => (false, text)

theorem takeSign_length (text : List Char) : (takeSign text).2.length ≤ text.length := by
  unfold takeSign
  split <;> simp

/-- The integer of a sign and digits. -/
def signedDigits (negative : Bool) (digits : List Char) : Int :=
  if negative then -(digitsValue digits : Int) else digitsValue digits

end InverterBridge
