import InverterBridge.Json.Piece
import InverterBridge.Json.Scan
import InverterBridge.Json.Tree
import InverterBridge.Text.Letter

/-!
# Relaxed JSON texts

Configuration files use the relaxed dialect of JSON that people write by hand:
comments, commas before a closing bracket, keys without quotes, single quotes,
hexadecimal numbers, a leading or trailing decimal point, a plus sign,
infinity and NaN.

A text is checked against the grammar as a whole before anything is decoded.
Literals that the grammar admits but that have no value (an integer that is
too long, a surrogate without its partner) are reported where they are read.
-/

namespace InverterBridge.Relaxed

/-- Whether a character ends a line. -/
def isLineEnd (character : Char) : Bool :=
  character == '\n' || character == '\r' || character == '\u2028' || character == '\u2029'

/-- Whether a character is a blank: a space of any width, a tab, a line end or
the byte order mark. -/
def isRelaxedBlank (character : Char) : Bool :=
  let code := character.toNat
  code == 0x09 || code == 0x0B || code == 0x0C || code == 0x20 || code == 0xA0 ||
    code == 0xFEFF || code == 0x1680 || (0x2000 ≤ code && code ≤ 0x200A) ||
    code == 0x202F || code == 0x205F || code == 0x3000 || isLineEnd character

/-- The text after the end of a block comment, none if it does not end. -/
def afterBlockComment? : List Char → Option (List Char)
  | [] => none
  | '*' :: '/' :: rest => some rest
  | _ :: rest => afterBlockComment? rest

theorem afterBlockComment?_length {text rest : List Char}
    (ended : afterBlockComment? text = some rest) : rest.length ≤ text.length := by
  fun_induction afterBlockComment? text with
  | case1 => simp at ended
  | case2 tail =>
      simp only [Option.some.injEq] at ended
      subst ended
      simp only [List.length_cons]
      omega
  | case3 _ tail _ ih =>
      have := ih ended
      simp only [List.length_cons]
      omega

/-- The text after leading blanks and comments. -/
def skipBlanks (text : List Char) : List Char :=
  match text with
  | '/' :: '/' :: rest => skipBlanks (rest.dropWhile fun character => !isLineEnd character)
  | '/' :: '*' :: rest =>
      match _comment : afterBlockComment? rest with
      | some after => skipBlanks after
      | none => text
  | character :: rest => if isRelaxedBlank character then skipBlanks rest else text
  | [] => []
termination_by text.length
decreasing_by
  · have := dropWhile_length_le (fun character => !isLineEnd character) rest
    simp only [List.length_cons]
    omega
  · have := afterBlockComment?_length _comment
    simp only [List.length_cons]
    omega
  · simp

theorem skipBlanks_length (text : List Char) : (skipBlanks text).length ≤ text.length := by
  fun_induction skipBlanks text with
  | case1 rest ih =>
      have := dropWhile_length_le (fun character => !isLineEnd character) rest
      simp only [List.length_cons]
      omega
  | case2 rest after ended ih =>
      have := afterBlockComment?_length ended
      simp only [List.length_cons]
      omega
  | case3 => simp
  | case4 _ rest _ _ _ ih =>
      simp only [List.length_cons]
      omega
  | case5 => simp
  | case6 => simp

/-! ## Strings and identifiers -/

/-- Whether a backslash and this character are a one-letter escape.

Digits introduce other escapes, or none. -/
def isEscapeLetter (character : Char) : Bool :=
  character == '0' ||
    !(character.isDigit || character == 'x' || character == 'u' || isLineEnd character)

/-- Scan a string up to the given quote: its pieces and the text after it. -/
def scanString? (quote : Char) : List Char → Option (List Piece × List Char)
  | [] => none
  | '\\' :: '\r' :: '\n' :: rest => scanString? quote rest
  | '\\' :: 'x' :: a :: b :: rest =>
      if isHexDigit a && isHexDigit b then
        (scanString? quote rest).map fun scanned => (.byteEscape [a, b] :: scanned.1, scanned.2)
      else
        none
  | '\\' :: 'u' :: a :: b :: c :: d :: rest =>
      if isHexDigit a && isHexDigit b && isHexDigit c && isHexDigit d then
        (scanString? quote rest).map fun scanned =>
          (.unitEscape [a, b, c, d] :: scanned.1, scanned.2)
      else
        none
  | '\\' :: letter :: rest =>
      if isLineEnd letter then
        scanString? quote rest
      else if isEscapeLetter letter then
        (scanString? quote rest).map fun scanned => (.escaped letter :: scanned.1, scanned.2)
      else
        none
  | character :: rest =>
      if character == quote then some ([], rest)
      else if character == '\\' || isLineEnd character then none
      else (scanString? quote rest).map fun scanned => (.plain character :: scanned.1, scanned.2)

theorem scanString?_length {quote : Char} {text : List Char} {scanned : List Piece × List Char}
    (found : scanString? quote text = some scanned) : scanned.2.length ≤ text.length := by
  fun_induction scanString? quote text generalizing scanned with
  | case1 => simp at found
  | case2 rest ih =>
      have := ih found
      simp only [List.length_cons]
      omega
  | case3 a b rest _ ih =>
      obtain ⟨inner, innerFound, rfl⟩ := Option.map_eq_some_iff.mp found
      have := ih innerFound
      simp only [List.length_cons]
      omega
  | case4 => simp at found
  | case5 a b c d rest _ ih =>
      obtain ⟨inner, innerFound, rfl⟩ := Option.map_eq_some_iff.mp found
      have := ih innerFound
      simp only [List.length_cons]
      omega
  | case6 => simp at found
  | case7 letter rest _ _ _ _ ih =>
      have := ih found
      simp only [List.length_cons]
      omega
  | case8 letter rest _ _ _ _ _ ih =>
      obtain ⟨inner, innerFound, rfl⟩ := Option.map_eq_some_iff.mp found
      have := ih innerFound
      simp only [List.length_cons]
      omega
  | case9 => simp at found
  | case10 =>
      simp only [Option.some.injEq] at found
      subst found
      simp
  | case11 => simp at found
  | case12 character rest _ _ _ _ _ _ ih =>
      obtain ⟨inner, innerFound, rfl⟩ := Option.map_eq_some_iff.mp found
      have := ih innerFound
      simp only [List.length_cons]
      omega

/-- The remaining pieces of an identifier and the text after it. -/
def scanIdentifier : List Char → List Piece × List Char
  | [] => ([], [])
  | '\\' :: 'u' :: a :: b :: c :: d :: rest =>
      if isHexDigit a && isHexDigit b && isHexDigit c && isHexDigit d then
        (.unitEscape [a, b, c, d] :: (scanIdentifier rest).1, (scanIdentifier rest).2)
      else
        ([], '\\' :: 'u' :: a :: b :: c :: d :: rest)
  | character :: rest =>
      if isIdentifierPart character then
        (.plain character :: (scanIdentifier rest).1, (scanIdentifier rest).2)
      else
        ([], character :: rest)

theorem scanIdentifier_length (text : List Char) :
    (scanIdentifier text).2.length ≤ text.length := by
  fun_induction scanIdentifier text <;> simp_all <;> omega

/-! ## Numbers -/

/-- The sign of a number. -/
inductive Sign where
  | none
  | plus
  | minus
  deriving DecidableEq, Repr

/-- A number after its sign. -/
inductive Magnitude where
  | hexadecimal (digits : List Char)
  | infinity
  | nan
  /-- `plain` numbers have neither a point nor an exponent. -/
  | decimal (decimal : WrittenDecimal) (plain : Bool)
  deriving DecidableEq, Repr

/-- A number as it was written. -/
structure Literal where
  sign : Sign
  magnitude : Magnitude
  deriving DecidableEq, Repr

namespace Literal

/-- The number of up to 32 bits written by hexadecimal digits. -/
def hexadecimal (digits : List Char) : Except DecodeError Nat :=
  match hexNumber? digits with
  | none => .error (.unreadable .hexadecimal)
  | some value =>
      if value < UInt32.size then .ok value else .error (.unreadable .hexadecimal)

/-- A finite double, or the report that the number is too large. -/
def bounded (value : Float) : Except DecodeError Float :=
  if value.isFinite then .ok value else .error (.unreadable .numberTooLarge)

/-- The literal read as a floating-point number.

Infinity and NaN are admitted without a plus sign only, hexadecimal numbers
without any sign. -/
def direct (literal : Literal) : Except DecodeError Float :=
  let negative := literal.sign == .minus
  match literal.magnitude, literal.sign with
  | .hexadecimal digits, .none => (hexadecimal digits).map Float.ofNat
  | .hexadecimal _, _ => .error (.unreadable .number)
  | .infinity, .plus => .error (.unreadable .numberTooLarge)
  | .infinity, _ => .ok (signed negative (1.0 / 0.0))
  | .nan, .plus => .error (.unreadable .numberTooLarge)
  | .nan, _ => .ok (0.0 / 0.0)
  | .decimal decimal _, _ => bounded (signed negative decimal.nearest)

/-- An integer of 64 bits with a sign. -/
def integer (sign : Sign) (magnitude : Nat) : Except DecodeError Number :=
  let value : Int := if sign == .minus then -(magnitude : Int) else magnitude
  if Int64.minValue.toInt ≤ value ∧ value ≤ Int64.maxValue.toInt then
    .ok (.integer value)
  else
    .error (.unreadable .integer)

/-- The literal read as whatever kind of number it is.

A number without point and exponent is an integer.  So is, by its form, a
hexadecimal number with a sign unless its digits contain an `e`, and infinity
or NaN with a plus sign; but none of these can be read as one. -/
def any (literal : Literal) : Except DecodeError Number :=
  match literal.magnitude, literal.sign with
  | .hexadecimal digits, .none => (hexadecimal digits).map fun value => .integer value
  | .hexadecimal digits, _ =>
      if digits.any fun digit => digit == 'e' || digit == 'E' then
        .error (.unreadable .number)
      else
        .error (.unreadable .integer)
  | .infinity, .plus => .error (.unreadable .integer)
  | .nan, .plus => .error (.unreadable .integer)
  | .decimal decimal true, sign => integer sign (digitsValue decimal.whole)
  | _, _ => literal.direct.map .float

/-- The literal as a value of the text. -/
def node (literal : Literal) : Node :=
  .number literal.any literal.direct

end Literal

/-- Scan an exponent with its letter. -/
def scanExponent? (text : List Char) : Option (Int × List Char) :=
  match text with
  | letter :: rest =>
      if letter == 'e' || letter == 'E' then
        let digits := (takeSign rest).2.takeWhile Char.isDigit
        if digits.isEmpty then
          none
        else
          some (signedDigits (takeSign rest).1 digits, (takeSign rest).2.dropWhile Char.isDigit)
      else
        none
  | [] => none

/-- Scan the exponent, if there is one, after the digits. -/
def scanTail (whole fraction : List Char) (plain : Bool) (text : List Char) :
    Magnitude × List Char :=
  match scanExponent? text with
  | some (exponent, rest) => (.decimal ⟨whole, fraction, exponent⟩ false, rest)
  | none => (.decimal ⟨whole, fraction, 0⟩ plain, text)

/-- The digits before the point; a zero stands alone. -/
def wholeDigits (text : List Char) : List Char :=
  match text with
  | '0' :: _ => ['0']
  | _ => text.takeWhile Char.isDigit

/-- Scan a decimal number; the digits on one side of the point may be missing. -/
def scanDecimal? (text : List Char) : Option (Magnitude × List Char) :=
  let whole := wholeDigits text
  match text.drop whole.length with
  | '.' :: rest =>
      let fraction := rest.takeWhile Char.isDigit
      if whole.isEmpty && fraction.isEmpty then none
      else some (scanTail whole fraction false (rest.dropWhile Char.isDigit))
  | rest => if whole.isEmpty then none else some (scanTail whole [] true rest)

/-- Scan a number after its sign. -/
def scanMagnitude? (text : List Char) : Option (Magnitude × List Char) :=
  let decimal := scanDecimal? text
  match text with
  | '0' :: marker :: rest =>
      let digits := rest.takeWhile isHexDigit
      if (marker == 'x' || marker == 'X') && !digits.isEmpty then
        some (.hexadecimal digits, rest.dropWhile isHexDigit)
      else
        decimal
  | _ =>
      match "Infinity".toList.isPrefixOf? text with
      | some rest => some (.infinity, rest)
      | none =>
          match "NaN".toList.isPrefixOf? text with
          | some rest => some (.nan, rest)
          | none => decimal

/-! ## Tokens -/

/-- The text of a string or an identifier. -/
def pieceText (pieces : List Piece) : Key :=
  (Piece.joinRelaxed pieces).map String.ofList

/-- What a word means where a value may stand. -/
def wordNode? (pieces : List Piece) : Option Node :=
  if pieces = "null".toList.map .plain then some .null
  else if pieces = "true".toList.map .plain then some (.bool true)
  else if pieces = "false".toList.map .plain then some (.bool false)
  else if pieces = "Infinity".toList.map .plain then
    some (Literal.mk .none .infinity).node
  else if pieces = "NaN".toList.map .plain then
    some (Literal.mk .none .nan).node
  else none

/-- The token of a number with the given sign. -/
def numberToken (sign : Sign) (character : Char) (text : List Char) : Token × List Char :=
  match scanMagnitude? text with
  | some (magnitude, rest) => (.leaf (some (Literal.mk sign magnitude).node) none, rest)
  | none => (.mark character, [])

/-- The token of a word by its first piece and the text after it. -/
def wordToken (first : Piece) (text : List Char) : Token × List Char :=
  let pieces := first :: (scanIdentifier text).1
  (.leaf (wordNode? pieces) (some (pieceText pieces)), (scanIdentifier text).2)

/-- The token of a word that starts with an escape. -/
def escapedWordToken (text : List Char) : Token × List Char :=
  match text with
  | 'u' :: a :: b :: c :: d :: rest =>
      if isHexDigit a && isHexDigit b && isHexDigit c && isHexDigit d then
        wordToken (.unitEscape [a, b, c, d]) rest
      else
        (.mark '\\', [])
  | _ => (.mark '\\', [])

/-- Whether a text starts with a character that is not ASCII. -/
def startsWide : List Char → Bool
  | character :: _ => 0x80 ≤ character.toNat
  | [] => false

/-- The token that starts with a character that is not blank, and the text after it. -/
def tokenAt (character : Char) (rest : List Char) : Token × List Char :=
  if character == '"' || character == '\'' then
    match scanString? character rest with
    | some (pieces, after) =>
        let node := Node.text (pieceText pieces)
        (.leaf (some (if startsWide rest then .wide node else node)) (some (pieceText pieces)),
          after)
    | none => (.mark character, [])
  else if character == '-' then numberToken .minus character rest
  else if character == '+' then numberToken .plus character rest
  else if character.isDigit || character == '.' then
    numberToken .none character (character :: rest)
  else if isIdentifierStart character then wordToken (.plain character) rest
  else if character == '\\' then escapedWordToken rest
  else if (character == '[' || character == '\x7b') && startsWide rest then
    (.wideMark character, rest)
  else (.mark character, rest)

/-! ## Every token takes at least one character -/

theorem scanExponent?_length {text rest : List Char} {exponent : Int}
    (found : scanExponent? text = some (exponent, rest)) : rest.length ≤ text.length := by
  unfold scanExponent? at found
  split at found
  · rename_i letter tail
    split at found
    · dsimp only at found
      split at found
      · simp at found
      · obtain ⟨-, rfl⟩ := Prod.mk.inj (Option.some.inj found)
        have kept := dropWhile_length_le Char.isDigit (takeSign tail).2
        have signed := takeSign_length tail
        simp only [List.length_cons]
        omega
    · simp at found
  · simp at found

theorem scanTail_length (whole fraction : List Char) (plain : Bool) (text : List Char) :
    (scanTail whole fraction plain text).2.length ≤ text.length := by
  unfold scanTail
  split
  · rename_i exponent rest found
    exact scanExponent?_length found
  · simp

theorem scanDecimal?_length {text : List Char} {scanned : Magnitude × List Char}
    (found : scanDecimal? text = some scanned) : scanned.2.length < text.length := by
  simp only [scanDecimal?] at found
  have dropped : (text.drop (wholeDigits text).length).length ≤ text.length := by simp
  split at found
  · rename_i rest pointed
    split at found
    · simp at found
    · simp only [Option.some.injEq] at found
      subst found
      have tail := scanTail_length (wholeDigits text) (rest.takeWhile Char.isDigit) false
        (rest.dropWhile Char.isDigit)
      have kept := dropWhile_length_le Char.isDigit rest
      rw [pointed, List.length_cons] at dropped
      omega
  · split at found
    · simp at found
    · rename_i nonempty
      simp only [Option.some.injEq] at found
      subst found
      have tail := scanTail_length (wholeDigits text) [] true
        (text.drop (wholeDigits text).length)
      have positive : 0 < (wholeDigits text).length := by
        cases digits : wholeDigits text with
        | nil => simp [digits] at nonempty
        | cons => simp
      have nonemptyText : 0 < text.length := by
        cases text with
        | nil => simp [wholeDigits] at positive
        | cons => simp
      rw [List.length_drop] at tail
      omega

theorem isPrefixOf?_length {start text rest : List Char}
    (found : start.isPrefixOf? text = some rest) :
    text.length = start.length + rest.length := by
  induction start generalizing text with
  | nil =>
      cases found
      simp
  | cons first start ih =>
      cases text with
      | nil => cases found
      | cons character text =>
          change (if first == character then start.isPrefixOf? text else none) = some rest
            at found
          split at found
          · have := ih found
            simp only [List.length_cons]
            omega
          · simp at found

theorem scanMagnitude?_length {text : List Char} {scanned : Magnitude × List Char}
    (found : scanMagnitude? text = some scanned) : scanned.2.length < text.length := by
  unfold scanMagnitude? at found
  dsimp only at found
  split at found
  · rename_i marker rest
    split at found
    · simp only [Option.some.injEq] at found
      subst found
      have := dropWhile_length_le isHexDigit rest
      simp only [List.length_cons]
      omega
    · exact scanDecimal?_length found
  · split at found
    · rename_i rest matched
      simp only [Option.some.injEq] at found
      subst found
      have shorter := isPrefixOf?_length matched
      simp only [shorter]
      exact Nat.lt_add_of_pos_left (by decide)
    · split at found
      · rename_i rest matched
        simp only [Option.some.injEq] at found
        subst found
        have shorter := isPrefixOf?_length matched
        simp only [shorter]
        exact Nat.lt_add_of_pos_left (by decide)
      · exact scanDecimal?_length found

theorem numberToken_length (sign : Sign) (character : Char) (text : List Char) :
    (numberToken sign character text).2.length ≤ text.length - 1 := by
  unfold numberToken
  split
  · rename_i magnitude rest found
    have := scanMagnitude?_length found
    simp only at this ⊢
    omega
  · simp

theorem wordToken_length (first : Piece) (text : List Char) :
    (wordToken first text).2.length ≤ text.length :=
  scanIdentifier_length text

theorem escapedWordToken_length (text : List Char) :
    (escapedWordToken text).2.length ≤ text.length := by
  unfold escapedWordToken
  split
  · rename_i rest
    split
    · refine Nat.le_trans (wordToken_length _ rest) ?_
      simp only [List.length_cons]
      omega
    · simp
  · simp

theorem tokenAt_length (character : Char) (rest : List Char) :
    (tokenAt character rest).2.length ≤ rest.length := by
  unfold tokenAt
  split
  · split
    · rename_i pieces after found
      exact scanString?_length found
    · simp
  · split
    · have := numberToken_length .minus character rest
      omega
    · split
      · have := numberToken_length .plus character rest
        omega
      · split
        · simpa using numberToken_length .none character (character :: rest)
        · split
          · exact wordToken_length _ _
          · split
            · exact escapedWordToken_length _
            · split <;> simp

/-- The tokens of a text. -/
def tokens (text : List Char) : List Token :=
  match _stripped : skipBlanks text with
  | [] => []
  | character :: rest => (tokenAt character rest).1 :: tokens (tokenAt character rest).2
termination_by text.length
decreasing_by
  have kept := skipBlanks_length text
  have shorter := tokenAt_length character rest
  rw [_stripped, List.length_cons] at kept
  omega

/-- A relaxed text as a tree; a text outside the grammar has none. -/
def read (text : String) : Except DecodeError Node :=
  let reading := Reading.ofTokens true (tokens text.toList)
  match reading.fault with
  | none => .ok reading.root
  | some _ => .error (.text .malformed)

end InverterBridge.Relaxed
