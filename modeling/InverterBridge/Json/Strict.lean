import InverterBridge.Json.Piece
import InverterBridge.Json.Scan
import InverterBridge.Json.Tree

/-!
# Strict JSON texts

The documents of the bridge are read by the letter of the JSON grammar: four
blank characters, no comments, no commas before a closing bracket, no leading
zeros.  Integers that fit 64 bits stay integers; a longer one, and a number
with a point or an exponent, is a double.
-/

namespace InverterBridge.Strict

/-- What a scanner found at the start of a text: the scanned part and the
remaining text, or the break that stops it. -/
inductive Scan (α : Type) where
  | found (value : α) (rest : List Char)
  | fault (fault : Break)
  deriving Repr

/-- The text left after a scan; nothing is looked at after a fault. -/
def Scan.remaining {α : Type} : Scan α → List Char
  | .found _ rest => rest
  | .fault _ => []

@[simp]
theorem Scan.remaining_found {α : Type} (value : α) (rest : List Char) :
    (Scan.found value rest).remaining = rest :=
  rfl

@[simp]
theorem Scan.remaining_fault {α : Type} (fault : Break) :
    (Scan.fault fault : Scan α).remaining = [] :=
  rfl

/-- Whether a character is a blank of strict JSON. -/
def isJsonBlank (character : Char) : Bool :=
  character == ' ' || character == '\n' || character == '\t' || character == '\r'

/-- Scan the remaining letters of a literal. -/
def scanWord : List Char → List Char → Scan Unit
  | [], rest => .found () rest
  | _ :: _, [] => .fault Fault.incomplete.plain
  | letter :: letters, character :: rest =>
      if character = letter then scanWord letters rest else .fault Fault.malformed.plain

/-- Whether a character may follow a backslash. -/
def isEscapeLetter (character : Char) : Bool :=
  character == '"' || character == '\\' || character == '/' || character == 'b' ||
    character == 'f' || character == 'n' || character == 'r' || character == 't'

/-- Whether fewer than four bytes are left, so that an escape cannot be whole. -/
def tooShort (rest : List Char) : Bool :=
  (String.ofList (rest.take 4)).utf8ByteSize < 4

/-- The pieces of a string, and the text after its closing quote or the fault by
which the string ends. -/
abbrev ScannedString := List Piece × Except Fault (List Char)

/-- Scan a string after its opening quote. -/
def scanPieces : List Char → ScannedString
  | [] => ([], .error .incomplete)
  | '"' :: rest => ([], .ok rest)
  | '\\' :: 'u' :: a :: b :: c :: d :: rest =>
      if isHexDigit a && isHexDigit b && isHexDigit c && isHexDigit d then
        prepend (.unitEscape [a, b, c, d]) (scanPieces rest)
      else
        ([], .error .malformed)
  | '\\' :: 'u' :: rest =>
      ([], .error (if tooShort rest then .incomplete else .malformed))
  | ['\\'] => ([], .error .incomplete)
  | '\\' :: letter :: rest =>
      if isEscapeLetter letter then
        prepend (.escaped letter) (scanPieces rest)
      else
        ([], .error .malformed)
  | character :: rest =>
      if character.toNat < 0x20 then ([], .error .malformed)
      else prepend (.plain character) (scanPieces rest)
where
  /-- Put a piece in front of a scanned string. -/
  prepend (piece : Piece) (scanned : ScannedString) : ScannedString :=
    (piece :: scanned.1, scanned.2)

/-- The text after a scanned string; nothing is looked at after a fault. -/
def ScannedString.remaining (scanned : ScannedString) : List Char :=
  match scanned.2 with
  | .ok rest => rest
  | .error _ => []

@[simp]
theorem ScannedString.remaining_ok (pieces : List Piece) (rest : List Char) :
    ScannedString.remaining (pieces, .ok rest) = rest :=
  rfl

@[simp]
theorem ScannedString.remaining_error (pieces : List Piece) (fault : Fault) :
    ScannedString.remaining (pieces, .error fault) = [] :=
  rfl

/-- Scan a string after its opening quote.

A reader stops at the first surrogate without its partner; one that passes over
the string does not look at surrogates. -/
def scanString (text : List Char) : Scan (List Piece) :=
  match scanPieces text with
  | (pieces, .ok rest) => .found pieces rest
  | (pieces, .error fault) =>
      .fault ⟨if Piece.pairedSoFar pieces then fault else .malformed, fault⟩

/-- A number as it was written. -/
structure Literal where
  negative : Bool
  decimal : WrittenDecimal
  /-- Whether there is neither a point nor an exponent. -/
  plain : Bool
  deriving DecidableEq, Repr

/-- Scan one or more digits.

Where the text ends before them a reader finds it incomplete; one that passes
over the number finds a number that is none. -/
def scanDigits (text : List Char) : Scan (List Char) :=
  match text with
  | [] => .fault ⟨.incomplete, .malformed⟩
  | character :: _ =>
      if character.isDigit then
        .found (text.takeWhile Char.isDigit) (text.dropWhile Char.isDigit)
      else
        .fault Fault.malformed.plain

/-- Scan the digits before the point; a zero stands alone. -/
def scanWhole (text : List Char) : Scan (List Char) :=
  match text with
  | '0' :: next :: rest =>
      if next.isDigit then .fault Fault.malformed.plain else .found ['0'] (next :: rest)
  | ['0'] => .found ['0'] []
  | _ => scanDigits text

/-- Scan an exponent after its letter. -/
def scanExponent (text : List Char) : Scan Int :=
  match scanDigits (takeSign text).2 with
  | .fault fault => .fault fault
  | .found digits rest => .found (signedDigits (takeSign text).1 digits) rest

/-- Scan the exponent, if there is one, after the digits. -/
def scanTail (negative : Bool) (whole fraction : List Char) (pointless : Bool)
    (text : List Char) : Scan Literal :=
  match text with
  | 'e' :: rest | 'E' :: rest =>
      match scanExponent rest with
      | .fault fault => .fault fault
      | .found exponent after => .found ⟨negative, ⟨whole, fraction, exponent⟩, false⟩ after
  | _ => .found ⟨negative, ⟨whole, fraction, 0⟩, pointless⟩ text

/-- Scan a number after its sign. -/
def scanUnsigned (negative : Bool) (text : List Char) : Scan Literal :=
  match scanWhole text with
  | .fault fault => .fault fault
  | .found whole rest =>
      match rest with
      | '.' :: afterPoint =>
          match scanDigits afterPoint with
          | .fault fault => .fault fault
          | .found fraction after => scanTail negative whole fraction false after
      | _ => scanTail negative whole [] true rest

namespace Literal

/-- The double of a literal; a number beyond the range of doubles is malformed. -/
def float (literal : Literal) : Except DecodeError Float :=
  match literal.decimal.scaled? with
  | none => .error (.text .malformed)
  | some magnitude => .ok (signed literal.negative magnitude)

/-- The number of a literal.

A negative zero is a double, since integers have no sign of zero. -/
def number (literal : Literal) : Except DecodeError Number :=
  let magnitude := digitsValue literal.decimal.whole
  if literal.plain && !literal.negative && magnitude < UInt64.size then
    .ok (.integer magnitude)
  else if literal.plain && literal.negative && 0 < magnitude &&
      Int64.minValue.toInt ≤ -(magnitude : Int) then
    .ok (.integer (-(magnitude : Int)))
  else
    literal.float.map .float

/-- The literal as a value of the text. -/
def node (literal : Literal) : Node :=
  .number literal.number (literal.number.map Number.toFloat)

end Literal

/-- The token of a scanned leaf. -/
def leafToken {α : Type} (beginning : Beginning) (node : α → Node) (key : α → Option Key) :
    Scan α → Token × List Char
  | .found value rest => (.leaf (some (node value)) (key value), rest)
  | .fault fault => (.broken fault beginning, [])

/-- The text of a string token. -/
def pieceText (pieces : List Piece) : Except DecodeError String :=
  (Piece.joinStrict pieces).map String.ofList

/-- The token that starts with a character that is not blank, and the text after it. -/
def tokenAt (character : Char) (rest : List Char) : Token × List Char :=
  match character with
  | '"' =>
      leafToken .text (fun pieces => .text (pieceText pieces))
        (fun pieces => some (pieceText pieces)) (scanString rest)
  | 'n' => leafToken .other (fun _ => .null) (fun _ => none) (scanWord "ull".toList rest)
  | 't' => leafToken .other (fun _ => .bool true) (fun _ => none) (scanWord "rue".toList rest)
  | 'f' => leafToken .other (fun _ => .bool false) (fun _ => none) (scanWord "alse".toList rest)
  | '-' => leafToken .other Literal.node (fun _ => none) (scanUnsigned true rest)
  | _ =>
      if character.isDigit then
        leafToken .other Literal.node (fun _ => none) (scanUnsigned false (character :: rest))
      else
        (.mark character, rest)

/-! ## Every token takes at least one character -/

theorem scanWord_length (letters text : List Char) :
    (scanWord letters text).remaining.length ≤ text.length := by
  induction letters generalizing text with
  | nil => simp [scanWord]
  | cons letter letters ih =>
      cases text with
      | nil => simp [scanWord]
      | cons character text =>
          simp only [scanWord]
          split
          · have := ih text
            simp only [List.length_cons]
            omega
          · simp

theorem remaining_prepend (piece : Piece) (scanned : ScannedString) :
    (scanPieces.prepend piece scanned).remaining = scanned.remaining :=
  rfl

theorem scanPieces_length (text : List Char) :
    (scanPieces text).remaining.length ≤ text.length := by
  fun_induction scanPieces text <;> simp_all [remaining_prepend] <;> omega

theorem scanString_length (text : List Char) :
    (scanString text).remaining.length ≤ text.length := by
  have bound := scanPieces_length text
  unfold scanString
  split
  · rename_i pieces rest scanned
    simpa [scanned] using bound
  · simp

theorem scanDigits_length (text : List Char) :
    (scanDigits text).remaining.length ≤ text.length - 1 := by
  cases text with
  | nil => simp [scanDigits]
  | cons character text =>
      simp only [scanDigits]
      split
      · rename_i digit
        simpa [List.dropWhile_cons, digit] using dropWhile_length_le Char.isDigit text
      · simp

theorem scanWhole_length (text : List Char) :
    (scanWhole text).remaining.length ≤ text.length - 1 := by
  unfold scanWhole
  split
  · split <;> simp
  · simp
  · exact scanDigits_length text

theorem scanExponent_length (text : List Char) :
    (scanExponent text).remaining.length ≤ text.length := by
  unfold scanExponent
  have sign_le := takeSign_length text
  have digits_le := scanDigits_length (takeSign text).2
  split
  · simp
  · rename_i digits rest found
    rw [found] at digits_le
    simp only [Scan.remaining_found] at digits_le ⊢
    omega

theorem scanTail_length (negative : Bool) (whole fraction : List Char) (pointless : Bool)
    (text : List Char) :
    (scanTail negative whole fraction pointless text).remaining.length ≤ text.length := by
  unfold scanTail
  split
  · rename_i rest
    have bound := scanExponent_length rest
    split <;> simp_all
    omega
  · rename_i rest
    have bound := scanExponent_length rest
    split <;> simp_all
    omega
  · simp

theorem scanUnsigned_length (negative : Bool) (text : List Char) :
    (scanUnsigned negative text).remaining.length ≤ text.length - 1 := by
  unfold scanUnsigned
  have whole_le := scanWhole_length text
  split
  · simp
  · rename_i whole rest found
    rw [found] at whole_le
    simp only [Scan.remaining_found] at whole_le
    split
    · rename_i afterPoint
      have fraction_le := scanDigits_length afterPoint
      split
      · simp
      · rename_i fraction after scanned
        rw [scanned] at fraction_le
        have := scanTail_length negative whole fraction false after
        simp only [Scan.remaining_found, List.length_cons] at *
        omega
    · have := scanTail_length negative whole [] true rest
      omega

theorem leafToken_length {α : Type} (beginning : Beginning) (node : α → Node)
    (key : α → Option Key) (scan : Scan α) :
    (leafToken beginning node key scan).2 = scan.remaining := by
  cases scan <;> rfl

theorem tokenAt_length (character : Char) (rest : List Char) :
    (tokenAt character rest).2.length ≤ rest.length := by
  unfold tokenAt
  split <;> try simp only [leafToken_length]
  · exact scanString_length rest
  · exact scanWord_length _ rest
  · exact scanWord_length _ rest
  · exact scanWord_length _ rest
  · have := scanUnsigned_length true rest
    omega
  · split
    · simpa [leafToken_length] using scanUnsigned_length false (character :: rest)
    · simp

/-- The tokens of a text. -/
def tokens (text : List Char) : List Token :=
  match _stripped : text.dropWhile isJsonBlank with
  | [] => []
  | character :: rest => (tokenAt character rest).1 :: tokens (tokenAt character rest).2
termination_by text.length
decreasing_by
  have kept := dropWhile_length_le isJsonBlank text
  have shorter := tokenAt_length character rest
  rw [_stripped, List.length_cons] at kept
  omega

/-- A strict text as a tree. -/
def read (text : String) : Reading :=
  Reading.ofTokens false (tokens text.toList)

end InverterBridge.Strict
