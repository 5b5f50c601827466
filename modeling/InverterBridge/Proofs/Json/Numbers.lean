import InverterBridge.Json.Printer
import InverterBridge.Json.Strict
import InverterBridge.Proofs.Number.Shortest

/-!
# Written numbers are scanned

A number that is written digit by digit is scanned again up to the character after it.  The text
of a decimal number gives back its value (`exists_writes`), wherever the layout of documents puts
the point.
-/

namespace InverterBridge.Strict

/-! ## Scanning numbers -/

/-- A text in front of which a number ends. -/
def EndsNumber (rest : List Char) : Prop :=
  ∀ character ∈ rest.head?, character.isDigit = false ∧ character ≠ '.' ∧ character ≠ 'e' ∧
    character ≠ 'E'

/-- Digits without a zero in front of others. -/
structure IsWhole (digits : List Char) : Prop where
  isDigit : ∀ digit ∈ digits, digit.isDigit = true
  ne_nil : digits ≠ []
  zero_alone : digits.head? = some '0' → digits = ['0']

theorem scanDigits_append {digits rest : List Char}
    (isDigit : ∀ digit ∈ digits, digit.isDigit = true) (ne_nil : digits ≠ [])
    (ends : ∀ character ∈ rest.head?, character.isDigit = false) :
    scanDigits (digits ++ rest) = .found digits rest := by
  have taken : (digits ++ rest).takeWhile Char.isDigit = digits := by
    rw [List.takeWhile_append_of_pos isDigit]
    cases rest with
    | nil => simp
    | cons character rest => simp [ends character rfl]
  have dropped : (digits ++ rest).dropWhile Char.isDigit = rest := by
    rw [List.dropWhile_append_of_pos isDigit]
    cases rest with
    | nil => simp
    | cons character rest => simp [ends character rfl]
  cases digits with
  | nil => exact absurd rfl ne_nil
  | cons digit digits =>
      rw [List.cons_append] at taken dropped ⊢
      simp only [scanDigits, isDigit digit List.mem_cons_self, ↓reduceIte, taken, dropped]

theorem scanWhole_append {digits rest : List Char} (whole : IsWhole digits)
    (ends : ∀ character ∈ rest.head?, character.isDigit = false) :
    scanWhole (digits ++ rest) = .found digits rest := by
  obtain ⟨isDigit, ne_nil, zero_alone⟩ := whole
  by_cases zero : digits.head? = some '0'
  · rw [zero_alone zero]
    cases rest with
    | nil => rfl
    | cons character rest =>
        simp [scanWhole, ends character rfl]
  · cases digits with
    | nil => exact absurd rfl ne_nil
    | cons digit digits =>
        have other : digit ≠ '0' := fun same => zero (congrArg some same)
        have found := scanDigits_append isDigit ne_nil ends
        rw [List.cons_append] at found ⊢
        rw [← found]
        unfold scanWhole
        split <;> simp_all

theorem scanTail_of_ends {rest : List Char} (ends : EndsNumber rest) (negative : Bool)
    (whole fraction : List Char) (pointless : Bool) :
    scanTail negative whole fraction pointless rest =
      .found ⟨negative, ⟨whole, fraction, 0⟩, pointless⟩ rest := by
  unfold scanTail
  split
  · exact absurd rfl (ends 'e' rfl).2.2.1
  · exact absurd rfl (ends 'E' rfl).2.2.2
  · rfl

section

variable {whole fraction rest : List Char}

theorem scanUnsigned_plain (digits : IsWhole whole) (ends : EndsNumber rest) (negative : Bool) :
    scanUnsigned negative (whole ++ rest) = .found ⟨negative, ⟨whole, [], 0⟩, true⟩ rest := by
  rw [scanUnsigned, scanWhole_append digits fun character found => (ends character found).1]
  dsimp only
  split
  · exact absurd rfl (ends '.' rfl).2.1
  · exact scanTail_of_ends ends ..

theorem scanUnsigned_point (digits : IsWhole whole)
    (isDigit : ∀ digit ∈ fraction, digit.isDigit = true) (ne_nil : fraction ≠ [])
    (after : ∀ character ∈ rest.head?, character.isDigit = false) (negative : Bool) :
    scanUnsigned negative (whole ++ '.' :: (fraction ++ rest)) =
      scanTail negative whole fraction false rest := by
  rw [scanUnsigned, scanWhole_append digits (by simp)]
  simp only [scanDigits_append isDigit ne_nil after]

theorem scanUnsigned_letter (digits : IsWhole whole) (negative : Bool) :
    scanUnsigned negative (whole ++ 'e' :: rest) =
      scanTail negative whole [] true ('e' :: rest) := by
  rw [scanUnsigned, scanWhole_append digits (by simp)]
  rfl

end

theorem isDigit_toDigits (value : Nat) :
    ∀ digit ∈ Nat.toDigits 10 value, digit.isDigit = true :=
  fun _ => Nat.isDigit_of_mem_toDigits (by omega) (by omega)

theorem digitsValue_toDigits (value : Nat) : digitsValue (Nat.toDigits 10 value) = value := by
  rw [digitsValue_eq, Nat.ofDigitChars_ten_toDigits]

theorem head?_toDigits {value : Nat} (positive : 0 < value) :
    (Nat.toDigits 10 value).head? ≠ some '0' := by
  induction value using Nat.strongRecOn with
  | ind value ih =>
      rw [Nat.toDigits_eq_if (by omega)]
      split
      · rename_i small
        have nonzero : ∀ digit : Fin 10, 0 < digit.val → Nat.digitChar digit ≠ '0' := by decide
        simpa using nonzero ⟨value, small⟩ positive
      · rw [List.head?_append_of_ne_nil _ Nat.toDigits_ne_nil]
        exact ih _ (by omega) (by omega)

theorem isWhole_toDigits (value : Nat) : IsWhole (Nat.toDigits 10 value) where
  isDigit := isDigit_toDigits value
  ne_nil := Nat.toDigits_ne_nil
  zero_alone := by
    intro zero
    by_cases positive : 0 < value
    · exact absurd zero (head?_toDigits positive)
    · rw [Nat.eq_zero_of_not_pos positive, Nat.toDigits_zero]

/-- A signed exponent. -/
def signedPower : Int → List Char
  | .ofNat n => '+' :: Nat.toDigits 10 n
  | .negSucc n => '-' :: Nat.toDigits 10 (n + 1)

theorem scanExponent_signedPower {rest : List Char} (exponent : Int) (ends : EndsNumber rest) :
    scanExponent (signedPower exponent ++ rest) = .found exponent rest := by
  have scanned (value : Nat) := scanDigits_append (isDigit_toDigits value) Nat.toDigits_ne_nil
    fun character found => (ends character found).1
  cases exponent with
  | ofNat n =>
      simp [scanExponent, signedPower, takeSign, scanned, signedDigits, digitsValue_toDigits]
  | negSucc n =>
      simp [scanExponent, signedPower, takeSign, scanned, signedDigits, digitsValue_toDigits]
      omega

theorem scanTail_signedPower {rest : List Char} (ends : EndsNumber rest) (negative : Bool)
    (whole fraction : List Char) (pointless : Bool) (exponent : Int) :
    scanTail negative whole fraction pointless ('e' :: (signedPower exponent ++ rest)) =
      .found ⟨negative, ⟨whole, fraction, exponent⟩, false⟩ rest := by
  simp [scanTail, scanExponent_signedPower exponent ends]

/-! ## The digits of a double -/

theorem digitsValue_lt {digits : List Char} (isDigit : ∀ digit ∈ digits, digit.isDigit = true) :
    digitsValue digits < 10 ^ digits.length := by
  induction digits with
  | nil => simp [digitsValue]
  | cons digit digits ih =>
      have small : digit.toNat - '0'.toNat ≤ 9 := by
        have := isDigit digit List.mem_cons_self
        simp [Char.isDigit, UInt32.le_iff_toNat_le] at this
        simp
        omega
      have rest := ih fun other found => isDigit other (List.mem_cons_of_mem _ found)
      rw [digitsValue_eq] at rest ⊢
      rw [Nat.ofDigitChars_cons, Nat.ofDigitChars_eq_ofDigitChars_zero, Nat.mul_zero, Nat.zero_add,
        List.length_cons, Nat.pow_succ]
      calc 10 ^ digits.length * (digit.toNat - '0'.toNat) + Nat.ofDigitChars 10 digits 0
          < 10 ^ digits.length * 9 + 10 ^ digits.length :=
            Nat.add_lt_add_of_le_of_lt (Nat.mul_le_mul_left _ small) rest
        _ = 10 ^ digits.length * 10 := by ring

/-- A text is scanned as a number with a point or an exponent, which is not too long and has the
value of a decimal number. -/
structure Writes (text : List Char) (decimal : Decimal) (written : WrittenDecimal) : Prop where
  whole_lt : digitsValue written.whole < WrittenDecimal.significandBound
  magnitude_eq : written.magnitude = decimal.magnitude
  scanned : ∀ negative rest, EndsNumber rest →
    scanUnsigned negative (text ++ rest) = .found ⟨negative, written, false⟩ rest

theorem bound_of_length {digits : List Char} (isDigit : ∀ digit ∈ digits, digit.isDigit = true)
    (short : digits.length ≤ 16) : digitsValue digits < WrittenDecimal.significandBound :=
  calc digitsValue digits
      < 10 ^ digits.length := digitsValue_lt isDigit
    _ ≤ 10 ^ 16 := Nat.pow_le_pow_right (by omega) short
    _ ≤ WrittenDecimal.significandBound := by decide

theorem isDigit_zeros (places : Nat) :
    ∀ digit ∈ List.replicate places '0', digit.isDigit = true := by
  intro digit found
  rw [List.eq_of_mem_replicate found]
  rfl

theorem digitsValue_zeros_append (places : Nat) (digits : List Char) :
    digitsValue (List.replicate places '0' ++ digits) = digitsValue digits := by
  rw [digitsValue_eq, digitsValue_eq, Nat.ofDigitChars_append, Nat.ofDigitChars_replicate_zero,
    Nat.mul_zero]

theorem digitsValue_append_zeros (digits : List Char) (places : Nat) :
    digitsValue (digits ++ List.replicate places '0') = digitsValue digits * 10 ^ places := by
  rw [digitsValue_eq, digitsValue_eq, Nat.ofDigitChars_append, Nat.ofDigitChars_replicate_zero,
    Nat.mul_comm]

section

variable {decimal : Decimal} {digits : List Char} {n : Nat} (whole : IsWhole digits)
  (value_eq : digitsValue digits = decimal.digits)

include whole value_eq

/-- An integer, filled up with zeros. -/
theorem exists_writes_filled (exponent : decimal.exponent + (digits.length : Int) - 1 = n)
    (n_le : n ≤ 15) (short : digits.length ≤ n + 1) (nonzero : 0 < decimal.digits ∨ n = 0) :
    ∃ written, Writes (digits ++ List.replicate (n + 1 - digits.length) '0' ++ ['.', '0']) decimal
      written := by
  have filled : IsWhole (digits ++ List.replicate (n + 1 - digits.length) '0') := by
    refine ⟨?_, by simp [whole.ne_nil], fun zero => ?_⟩
    · simp only [List.mem_append]
      rintro digit (found | zero)
      · exact whole.isDigit digit found
      · exact isDigit_zeros _ digit zero
    · rw [List.head?_append_of_ne_nil _ whole.ne_nil] at zero
      obtain rfl := whole.zero_alone zero
      obtain rfl := nonzero.resolve_left (by rw [← value_eq]; decide)
      rfl
  have short_enough : (digits ++ List.replicate (n + 1 - digits.length) '0').length ≤ 16 := by
    simp only [List.length_append, List.length_replicate]
    omega
  refine ⟨⟨_, ['0'], 0⟩, bound_of_length filled.isDigit short_enough, ?_, ?_⟩
  · rw [WrittenDecimal.magnitude, Decimal.magnitude]
    dsimp only
    rw [show ['0'] = List.replicate 1 '0' from rfl, digitsValue_append_zeros,
      digitsValue_append_zeros, value_eq, List.length_replicate]
    rw [Nat.cast_mul, Nat.cast_mul, Nat.cast_pow, Nat.cast_pow, Nat.cast_ofNat, mul_assoc,
      mul_assoc, ← zpow_natCast, ← zpow_natCast, ← zpow_add₀ (by norm_num),
      ← zpow_add₀ (by norm_num)]
    congr 2
    omega
  · intro negative rest ends
    have scanned := scanUnsigned_point filled (isDigit_zeros 1) (by simp)
      (fun character found => (ends character found).1) negative
    rw [scanTail_of_ends ends] at scanned
    simpa using scanned

/-- A number with digits on both sides of the point. -/
theorem exists_writes_split (exponent : decimal.exponent + (digits.length : Int) - 1 = n)
    (n_le : n ≤ 15) (long : n + 1 < digits.length) :
    ∃ written, Writes (digits.take (n + 1) ++ '.' :: digits.drop (n + 1)) decimal written := by
  have first : IsWhole (digits.take (n + 1)) := by
    refine ⟨fun digit found => whole.isDigit digit (List.mem_of_mem_take found), ?_, ?_⟩
    · simp [whole.ne_nil]
    · intro zero
      rw [List.head?_take, if_neg (by omega)] at zero
      rw [whole.zero_alone zero] at long
      simp at long
  refine ⟨⟨digits.take (n + 1), digits.drop (n + 1), 0⟩, bound_of_length first.isDigit ?_, ?_, ?_⟩
  · simp only [List.length_take]
    omega
  · rw [WrittenDecimal.magnitude, Decimal.magnitude]
    dsimp only
    rw [List.take_append_drop, value_eq]
    congr 2
    simp only [List.length_drop]
    omega
  · intro negative rest ends
    have scanned := scanUnsigned_point first
      (fun digit found => whole.isDigit digit (List.mem_of_mem_drop found))
      (by simp; omega) (fun character found => (ends character found).1) negative
    rw [scanTail_of_ends ends] at scanned
    simpa using scanned

/-- A number from one upwards whose digits stand around the point. -/
theorem exists_writes_positional (exponent : decimal.exponent + (digits.length : Int) - 1 = n)
    (n_le : n ≤ 15) (nonzero : 0 < decimal.digits ∨ n = 0) :
    ∃ written, Writes (DecimalLayout.positional digits (.ofNat n)) decimal written := by
  by_cases short : digits.length ≤ n + 1
  · obtain ⟨written, writes⟩ := exists_writes_filled whole value_eq exponent n_le short nonzero
    exact ⟨written, by simpa [DecimalLayout.positional, List.take_of_length_le short,
      List.drop_of_length_le short] using writes⟩
  · obtain ⟨written, writes⟩ := exists_writes_split whole value_eq exponent n_le (by omega)
    have filled : n + 1 - digits.length = 0 := by omega
    exact ⟨written, by simpa [DecimalLayout.positional, filled, short] using writes⟩

/-- A number below one. -/
theorem exists_writes_fraction
    (exponent : decimal.exponent + (digits.length : Int) - 1 = .negSucc n) :
    ∃ written, Writes (DecimalLayout.positional digits (.negSucc n)) decimal written := by
  have isDigit : ∀ digit ∈ List.replicate n '0' ++ digits, digit.isDigit = true := by
    simp only [List.mem_append]
    rintro digit (zero | found)
    · exact isDigit_zeros n digit zero
    · exact whole.isDigit digit found
  refine ⟨⟨['0'], List.replicate n '0' ++ digits, 0⟩,
    bound_of_length (isDigit_zeros 1) (by simp), ?_, ?_⟩
  · rw [WrittenDecimal.magnitude, Decimal.magnitude]
    dsimp only
    rw [show ['0'] = List.replicate 1 '0' from rfl, digitsValue_zeros_append,
      digitsValue_zeros_append, value_eq, List.length_append, List.length_replicate]
    congr 2
    rw [Int.negSucc_eq] at exponent
    push_cast
    omega
  · intro negative rest ends
    have scanned := scanUnsigned_point (isWhole_toDigits 0) isDigit (by simp [whole.ne_nil])
      (fun character found => (ends character found).1) negative
    rw [scanTail_of_ends ends] at scanned
    exact scanned

/-- A number with an exponent. -/
theorem exists_writes_scientific (exponent : Int)
    (exponent_eq : decimal.exponent + (digits.length : Int) - 1 = exponent) :
    ∃ written, Writes (DecimalLayout.scientific digits exponent) decimal written := by
  obtain ⟨digit, fraction, rfl⟩ := List.exists_cons_of_ne_nil whole.ne_nil
  have first : IsWhole [digit] :=
    ⟨fun other found => whole.isDigit other (by simp_all), by simp, fun zero => by simp_all⟩
  refine ⟨⟨[digit], fraction, exponent⟩, bound_of_length first.isDigit (by simp), ?_, ?_⟩
  · rw [WrittenDecimal.magnitude, Decimal.magnitude]
    dsimp only
    rw [List.singleton_append, value_eq]
    congr 2
    rw [List.length_cons] at exponent_eq
    omega
  · intro negative rest ends
    have power : DecimalLayout.scientific (digit :: fraction) exponent =
        if fraction = [] then digit :: 'e' :: signedPower exponent
        else digit :: '.' :: (fraction ++ 'e' :: signedPower exponent) := by
      cases fraction <;> rfl
    rw [power]
    split
    · rename_i single
      have scanned : scanUnsigned negative ([digit] ++ 'e' :: (signedPower exponent ++ rest)) = _ :=
        scanUnsigned_letter first negative
      rw [scanTail_signedPower ends] at scanned
      simpa [single] using scanned
    · rename_i several
      have scanned : scanUnsigned negative
          ([digit] ++ '.' :: (fraction ++ 'e' :: (signedPower exponent ++ rest))) = _ :=
        scanUnsigned_point first
          (fun other found => whole.isDigit other (List.mem_cons_of_mem _ found))
          several (by simp) negative
      rw [scanTail_signedPower ends] at scanned
      simpa using scanned

end

theorem exists_writes {decimal : Decimal} (shortest : 0 < decimal.digits ∨ decimal = ⟨0, 0⟩) :
    ∃ written, Writes (DecimalLayout.document.decimalText decimal) decimal written := by
  have whole := isWhole_toDigits decimal.digits
  have value_eq := digitsValue_toDigits decimal.digits
  unfold DecimalLayout.decimalText
  dsimp only
  split
  · rename_i inLayout
    obtain ⟨lower, upper⟩ := inLayout
    generalize exponent_eq :
      decimal.exponent + ((Nat.toDigits 10 decimal.digits).length : Int) - 1 = exponent at *
    cases exponent with
    | negSucc n => exact exists_writes_fraction whole value_eq exponent_eq
    | ofNat n =>
        refine exists_writes_positional whole value_eq exponent_eq ?_ ?_
        · simp [DecimalLayout.document] at upper
          omega
        · rcases shortest with positive | rfl
          · exact .inl positive
          · right
            simpa using exponent_eq.symm
  · exact exists_writes_scientific whole value_eq _ rfl

end InverterBridge.Strict
