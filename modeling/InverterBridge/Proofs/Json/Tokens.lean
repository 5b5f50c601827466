import InverterBridge.Proofs.Json.Numbers

/-!
# Written values are tokens

The text of a string, a word or a number is one token, whatever follows it, as long as a number is
followed by something that ends it.
-/

namespace InverterBridge.Strict

/-! ## Strings -/

theorem hexNumber?_control : ∀ value : Fin 32,
    isHexDigit (hexDigit (value / 16)) = true ∧ isHexDigit (hexDigit (value % 16)) = true ∧
      hexNumber? ['0', '0', hexDigit (value / 16), hexDigit (value % 16)] = some value.val := by
  decide

/-- A piece stands for a character. -/
structure IsPiece (character : Char) (piece : Piece) : Prop where
  scanned : ∀ rest,
    scanPieces (Quoted.escape character ++ rest) = scanPieces.prepend piece (scanPieces rest)
  joined : ∀ pieces,
    Piece.joinStrict (piece :: pieces) = (Piece.joinStrict pieces).map (character :: ·)

/-- The characters with a short escape, and its letter. -/
theorem isPiece_escaped {character letter : Char} (short : Quoted.escape character = ['\\', letter])
    (known : isEscapeLetter letter = true) (meaning : Piece.letterMeaning letter = character) :
    IsPiece character (.escaped letter) where
  scanned rest := by
    rw [short]
    have other : letter ≠ 'u' := by rintro rfl; cases known
    rw [List.cons_append, List.singleton_append, scanPieces]
    · exact if_pos known
    all_goals simp [other]
  joined pieces := by simp [Piece.joinStrict, meaning]

theorem isPiece_control {character : Char} (control : character.toNat < 0x20)
    (long : Quoted.escape character = ['\\', 'u', '0', '0', hexDigit (character.toNat / 16),
      hexDigit (character.toNat % 16)]) :
    IsPiece character (.unitEscape
      ['0', '0', hexDigit (character.toNat / 16), hexDigit (character.toNat % 16)]) := by
  obtain ⟨high, low, value⟩ := hexNumber?_control ⟨character.toNat, control⟩
  dsimp only at high low value
  have notTrail : isTrail character.toNat = false := by simp [isTrail]; omega
  have notLead : isLead character.toNat = false := by simp [isLead]; omega
  constructor
  · intro rest
    have zero : isHexDigit '0' = true := by decide
    simp [long, scanPieces, zero, high, low]
  · intro pieces
    simp [Piece.joinStrict, value, notTrail, notLead]

theorem isPiece_plain {character : Char} (printable : ¬ character.toNat < 0x20)
    (notQuote : character ≠ '"') (notBackslash : character ≠ '\\')
    (same : Quoted.escape character = [character]) : IsPiece character (.plain character) where
  scanned rest := by
    rw [same, List.singleton_append, scanPieces]
    · exact if_neg printable
    all_goals simp [notQuote, notBackslash]
  joined pieces := Piece.joinStrict_plain character pieces

/-- Every character is scanned as one piece. -/
theorem exists_isPiece (character : Char) : ∃ piece, IsPiece character piece := by
  by_cases short : character ∈ ['"', '\\', '\x08', '\x0c', '\n', '\r', '\t']
  · simp only [List.mem_cons, List.not_mem_nil, or_false] at short
    rcases short with rfl | rfl | rfl | rfl | rfl | rfl | rfl
    all_goals exact ⟨_, isPiece_escaped rfl rfl rfl⟩
  · simp only [List.mem_cons, List.not_mem_nil, or_false, not_or] at short
    by_cases control : character.toNat < 0x20
    · exact ⟨_, isPiece_control control (by simp [Quoted.escape, short, control])⟩
    · exact ⟨_, isPiece_plain control short.1 short.2.1 (by simp [Quoted.escape, short, control])⟩

/-- A string is scanned up to its closing quote, and read as it was. -/
theorem exists_scanString (text : List Char) :
    ∃ pieces, Piece.joinStrict pieces = .ok text ∧
      ∀ rest, scanString (Quoted.body text ++ '"' :: rest) = .found pieces rest := by
  suffices pieced : ∃ pieces, Piece.joinStrict pieces = .ok text ∧
      ∀ rest, scanPieces (Quoted.body text ++ '"' :: rest) = (pieces, .ok rest) by
    obtain ⟨pieces, joined, scanned⟩ := pieced
    exact ⟨pieces, joined, fun rest => by rw [scanString, scanned]⟩
  induction text with
  | nil => exact ⟨[], Piece.joinStrict_nil, fun rest => by simp [scanPieces]⟩
  | cons character text ih =>
      obtain ⟨pieces, joined, scanned⟩ := ih
      obtain ⟨piece, isPiece⟩ := exists_isPiece character
      refine ⟨piece :: pieces, by rw [isPiece.joined, joined]; rfl, fun rest => ?_⟩
      rw [Quoted.body_cons, List.append_assoc, isPiece.scanned, scanned]
      rfl

/-! ## Tokens -/

theorem tokens_cons {character : Char} (shown : isJsonBlank character = false)
    (rest : List Char) :
    tokens (character :: rest) =
      (tokenAt character rest).1 :: tokens (tokenAt character rest).2 := by
  have kept : (character :: rest).dropWhile isJsonBlank = character :: rest := by
    simp [shown]
  rw [tokens]
  split
  · simp_all
  · simp_all

theorem tokens_nil : tokens [] = [] := by
  rw [tokens]
  rfl

/-- A character that is a token of its own. -/
theorem tokens_mark {character : Char} (mark : character ∈ ['[', ']', '\x7b', '\x7d', ',', ':'])
    (rest : List Char) : tokens (character :: rest) = .mark character :: tokens rest := by
  simp only [List.mem_cons, List.not_mem_nil, or_false] at mark
  rcases mark with rfl | rfl | rfl | rfl | rfl | rfl <;> exact tokens_cons rfl rest

theorem tokens_text (text : String) (rest : List Char) :
    tokens (Quoted.encode text.toList ++ rest) =
      .leaf (some (.text (.ok text))) (some (.ok text)) :: tokens rest := by
  obtain ⟨pieces, joined, scanned⟩ := exists_scanString text.toList
  have encoded : Quoted.encode text.toList ++ rest =
      '"' :: (Quoted.body text.toList ++ '"' :: rest) := by
    simp [Quoted.encode]
  rw [encoded, tokens_cons rfl]
  simp only [tokenAt, scanned, leafToken, pieceText, joined]
  simp [Except.map]

theorem tokens_null (rest : List Char) :
    tokens ("null".toList ++ rest) = .leaf (some .null) none :: tokens rest := by
  change tokens ('n' :: ("ull".toList ++ rest)) = _
  rw [tokens_cons rfl]
  rfl

theorem tokens_true (rest : List Char) :
    tokens ("true".toList ++ rest) = .leaf (some (.bool true)) none :: tokens rest := by
  change tokens ('t' :: ("rue".toList ++ rest)) = _
  rw [tokens_cons rfl]
  rfl

theorem tokens_false (rest : List Char) :
    tokens ("false".toList ++ rest) = .leaf (some (.bool false)) none :: tokens rest := by
  change tokens ('f' :: ("alse".toList ++ rest)) = _
  rw [tokens_cons rfl]
  rfl

/-- A digit begins a number. -/
theorem tokenAt_digit {character : Char} (digit : character.isDigit = true) (rest : List Char) :
    tokenAt character rest = leafToken .other Literal.node (fun _ => none)
      (scanUnsigned false (character :: rest)) := by
  unfold tokenAt
  split <;> first
    | cases digit
    | exact if_pos digit

/-- A number is one token if its digits are scanned. -/
theorem tokens_number {text rest : List Char} {literal : Literal} (negative : Bool)
    (digits : ∃ first others, text = first :: others ∧ first.isDigit = true)
    (scanned : scanUnsigned negative (text ++ rest) = .found literal rest) :
    tokens ((if negative then '-' :: text else text) ++ rest) =
      .leaf (some literal.node) none :: tokens rest := by
  cases negative with
  | true =>
      change tokens ('-' :: (text ++ rest)) = _
      rw [tokens_cons rfl]
      simp only [tokenAt, scanned, leafToken]
  | false =>
      obtain ⟨first, others, rfl, digit⟩ := digits
      change tokens (first :: (others ++ rest)) = _
      have shown : isJsonBlank first = false := by
        simp only [isJsonBlank, Bool.or_eq_false_iff, beq_eq_false_iff_ne]
        refine ⟨⟨⟨?_, ?_⟩, ?_⟩, ?_⟩ <;> rintro rfl <;> cases digit
      rw [tokens_cons shown, tokenAt_digit digit, ← List.cons_append, scanned]
      rfl

/-! ## Numbers as nodes -/

/-- The value that begins a text. -/
def firstNode (text : List Char) : Node :=
  match tokens text with
  | .leaf (some node) _ :: _ => node
  | _ => .null

theorem endsNumber_nil : EndsNumber [] :=
  fun _ found => absurd found (Option.not_mem_none _)

/-- A text is one token, wherever a number may end. -/
def IsLeaf (text : List Char) (node : Node) : Prop :=
  ∀ rest, EndsNumber rest → tokens (text ++ rest) = .leaf (some node) none :: tokens rest

theorem IsLeaf.firstNode_eq {text : List Char} {node : Node} (leaf : IsLeaf text node) :
    firstNode text = node := by
  have alone := leaf [] endsNumber_nil
  rw [List.append_nil] at alone
  rw [firstNode, alone]

theorem exists_first_toDigits (value : Nat) :
    ∃ first others, Nat.toDigits 10 value = first :: others ∧ first.isDigit = true := by
  obtain ⟨first, others, split⟩ := List.exists_cons_of_ne_nil
    (Nat.toDigits_ne_nil (b := 10) (n := value))
  exact ⟨first, others, split, isDigit_toDigits value first (by simp [split])⟩

/-- The literal of an integer. -/
def Literal.ofInt (value : Int) : Literal :=
  ⟨decide (value < 0), ⟨Nat.toDigits 10 value.natAbs, [], 0⟩, true⟩

theorem intText_toList (value : Int) :
    (intText value).toList =
      if decide (value < 0) then '-' :: Nat.toDigits 10 value.natAbs
      else Nat.toDigits 10 value.natAbs := by
  cases value with
  | ofNat n => simp [intText, natText]
  | negSucc n => simp [intText, natText]

theorem isLeaf_intText (value : Int) :
    IsLeaf (intText value).toList (Literal.ofInt value).node := by
  intro rest ends
  rw [intText_toList]
  exact tokens_number _ (exists_first_toDigits _)
    (scanUnsigned_plain (isWhole_toDigits value.natAbs) ends _)

/-- An integer of 64 bits, with or without a sign, is read as it is. -/
theorem number_ofInt {value : Int} (lower : -2 ^ 63 ≤ value) (upper : value < 2 ^ 64) :
    (Literal.ofInt value).number = .ok (.integer value) := by
  have digits : digitsValue (Nat.toDigits 10 value.natAbs) = value.natAbs :=
    digitsValue_toDigits _
  have size : UInt64.size = 2 ^ 64 := rfl
  have lowest : Int64.minValue.toInt = -2 ^ 63 := by decide
  simp only [Literal.number, Literal.ofInt, digits, size, lowest, Bool.true_and]
  by_cases negative : value < 0
  · have same : -(value.natAbs : Int) = value := by omega
    have inRange : 0 < value.natAbs ∧ -2 ^ 63 ≤ value := by omega
    rw [if_neg (by simp [negative]), same, if_pos (by simpa [negative] using inRange)]
  · have same : (value.natAbs : Int) = value := by omega
    have inRange : value.natAbs < 2 ^ 64 := by omega
    rw [if_pos (by simpa [negative] using inRange), same]

/-! ### Doubles -/

/-- The decimal number by which a double is written. -/
def decimalOf (fraction : BinaryFraction) : Decimal :=
  if fraction.isZero then ⟨0, 0⟩ else .shortest fraction

theorem fractionText_eq (fraction : BinaryFraction) :
    DecimalLayout.document.fractionText fraction =
      if fraction.negative then '-' :: DecimalLayout.document.decimalText (decimalOf fraction)
      else DecimalLayout.document.decimalText (decimalOf fraction) := by
  have zero : DecimalLayout.document.decimalText ⟨0, 0⟩ = ['0', '.', '0'] := by decide +kernel
  unfold DecimalLayout.fractionText decimalOf
  dsimp only
  cases fraction.isZero with
  | true => rw [if_pos rfl, if_pos rfl, zero]
  | false => rfl

theorem decimalOf_bounds (fraction : BinaryFraction) :
    (0 < (decimalOf fraction).digits ∨ decimalOf fraction = ⟨0, 0⟩) ∧
      (decimalOf fraction).magnitude ≤ 2 * fraction.magnitude := by
  unfold decimalOf
  split
  · refine ⟨.inr rfl, ?_⟩
    rw [Decimal.magnitude, Nat.cast_zero, zero_mul, BinaryFraction.magnitude]
    positivity
  · rename_i nonzero
    apply Decimal.shortest_bounds
    simp [BinaryFraction.isZero] at nonzero
    omega

theorem exists_first_of_scanned {negative : Bool} {text rest : List Char} {literal : Literal}
    (scanned : scanUnsigned negative text = .found literal rest) :
    ∃ first others, text = first :: others ∧ first.isDigit = true := by
  cases text with
  | nil => cases scanned
  | cons first others =>
      refine ⟨first, others, rfl, ?_⟩
      by_contra notDigit
      have other : first ≠ '0' := by
        rintro rfl
        exact notDigit rfl
      have whole : scanWhole (first :: others) = .fault Fault.malformed.plain := by
        unfold scanWhole
        split <;> simp_all [scanDigits]
      rw [scanUnsigned, whole] at scanned
      cases scanned

/-- The text of a double that is finite is a leaf, and its literal has the value of the decimal
number. -/
theorem exists_isLeaf_fractionText (fraction : BinaryFraction) :
    ∃ written, Writes (DecimalLayout.document.decimalText (decimalOf fraction))
        (decimalOf fraction) written ∧
      IsLeaf (DecimalLayout.document.fractionText fraction)
        (Literal.mk fraction.negative written false).node := by
  obtain ⟨written, writes⟩ := exists_writes (decimalOf_bounds fraction).1
  refine ⟨written, writes, fun rest ends => ?_⟩
  have alone := writes.scanned false [] endsNumber_nil
  rw [List.append_nil] at alone
  rw [fractionText_eq]
  exact tokens_number _ (exists_first_of_scanned alone) (writes.scanned fraction.negative rest ends)

theorem floatText_of_none {value : Float} (none_found : BinaryFraction.ofFloat? value = none) :
    Json.floatText value = "null".toList := by
  simp [Json.floatText, DecimalLayout.text?, none_found]

theorem floatText_of_some {value : Float} {fraction : BinaryFraction}
    (found : BinaryFraction.ofFloat? value = some fraction) :
    Json.floatText value = DecimalLayout.document.fractionText fraction := by
  simp [Json.floatText, DecimalLayout.text?, found]

/-- The text of a double is a leaf. -/
theorem isLeaf_floatText (value : Float) :
    IsLeaf (Json.floatText value) (firstNode (Json.floatText value)) := by
  suffices exists_node : ∃ node, IsLeaf (Json.floatText value) node by
    obtain ⟨node, leaf⟩ := exists_node
    rwa [leaf.firstNode_eq]
  cases found : BinaryFraction.ofFloat? value with
  | none =>
      rw [floatText_of_none found]
      exact ⟨.null, fun rest _ => tokens_null rest⟩
  | some fraction =>
      rw [floatText_of_some found]
      obtain ⟨written, -, leaf⟩ := exists_isLeaf_fractionText fraction
      exact ⟨_, leaf⟩

/-- A number that is not finite is written as null. -/
theorem firstNode_of_not_finite {value : Float} (notFinite : value.isFinite = false) :
    firstNode (Json.floatText value) = .null := by
  rw [isFinite_eq_isSome_ofFloat?, Option.isSome_eq_false_iff, Option.isNone_iff_eq_none]
    at notFinite
  rw [floatText_of_none notFinite]
  exact IsLeaf.firstNode_eq fun rest _ => tokens_null rest

/-- A number that has been rounded and is finite is read as a number. -/
theorem firstNode_of_isAtMost {value : Float} (within : IsAtMost roundedBound value) :
    ∃ read, firstNode (Json.floatText value) = .number (.ok (.float read)) (.ok read) := by
  obtain ⟨mantissa, exponent, parts, bounded⟩ := within
  rw [parts?_eq_ofFloat?, Option.map_eq_some_iff] at parts
  obtain ⟨fraction, found, same⟩ := parts
  cases same
  obtain ⟨written, writes, leaf⟩ := exists_isLeaf_fractionText fraction
  have small : 3 * written.magnitude < endOfDoubles := by
    have positive : 0 < endOfDoubles := by
      rw [endOfDoubles]
      positivity
    have le_twice := (decimalOf_bounds fraction).2
    have le_bound : fraction.magnitude ≤ roundedBound := bounded
    rw [writes.magnitude_eq]
    rw [roundedBound] at le_bound
    linarith
  obtain ⟨magnitude, scaled⟩ := Option.isSome_iff_exists.mp
    (WrittenDecimal.isSome_scaled? writes.whole_lt small)
  refine ⟨signed fraction.negative magnitude, ?_⟩
  rw [floatText_of_some found, leaf.firstNode_eq]
  simp [Literal.node, Literal.number, Literal.float, scaled, Except.map, Number.toFloat]

end InverterBridge.Strict
