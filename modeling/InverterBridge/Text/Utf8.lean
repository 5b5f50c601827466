/-!
# Reading UTF-8 that may be malformed

Device registers hold bytes that should be UTF-8 but need not be.  The reader
keeps the character it is in the middle of; a byte that cannot continue it ends
it as one replacement character and is then read as a first byte.  So every
maximal prefix of a character that is not completed gives exactly one
replacement character, and no byte is lost.
-/

namespace InverterBridge.Utf8

/-- The character that stands for bytes that are not UTF-8. -/
def replacement : Char := '\uFFFD'

/-- A character of which at least one byte is still missing.

`value` holds the payload bits read so far and the next byte has to lie
between `low` and `high`. -/
structure Partial where
  missing : Nat
  value : Nat
  low : UInt8
  high : UInt8
  deriving DecidableEq, Repr

/-- What a first byte begins: a whole character or part of one.

The bounds on the second byte exclude overlong forms, surrogates and code
points beyond the last plane. -/
def start (byte : UInt8) : List Char × Option Partial :=
  let lead := byte.toNat
  if byte < 0x80 then ([Char.ofNat lead], none)
  else if byte < 0xC2 then ([replacement], none)
  else if byte < 0xE0 then ([], some ⟨0, lead % 32, 0x80, 0xBF⟩)
  else if byte == 0xE0 then ([], some ⟨1, 0, 0xA0, 0xBF⟩)
  else if byte == 0xED then ([], some ⟨1, 13, 0x80, 0x9F⟩)
  else if byte < 0xF0 then ([], some ⟨1, lead % 16, 0x80, 0xBF⟩)
  else if byte == 0xF0 then ([], some ⟨2, 0, 0x90, 0xBF⟩)
  else if byte < 0xF4 then ([], some ⟨2, lead % 8, 0x80, 0xBF⟩)
  else if byte == 0xF4 then ([], some ⟨2, 4, 0x80, 0x8F⟩)
  else ([replacement], none)

/-- The characters completed by one more byte, and the character then begun. -/
def feed : Option Partial → UInt8 → List Char × Option Partial
  | none, byte => start byte
  | some part, byte =>
      if part.low ≤ byte ∧ byte ≤ part.high then
        let value := part.value * 64 + byte.toNat % 64
        match part.missing with
        | 0 => ([Char.ofNat value], none)
        | missing + 1 => ([], some ⟨missing, value, 0x80, 0xBF⟩)
      else
        (replacement :: (start byte).1, (start byte).2)

/-- Read the remaining bytes from the middle of a character. -/
def decodeFrom : Option Partial → List UInt8 → List Char
  | none, [] => []
  | some _, [] => [replacement]
  | state, byte :: bytes => (feed state byte).1 ++ decodeFrom (feed state byte).2 bytes

/-- Read a byte sequence as text. -/
def decodeLossy (bytes : List UInt8) : List Char :=
  decodeFrom none bytes

@[simp]
theorem decodeFrom_cons (state : Option Partial) (byte : UInt8) (bytes : List UInt8) :
    decodeFrom state (byte :: bytes) =
      (feed state byte).1 ++ decodeFrom (feed state byte).2 bytes := by
  cases state <;> rfl

/-- The bytes of a text. -/
def encode (text : List Char) : List UInt8 :=
  text.flatMap String.utf8EncodeChar

end InverterBridge.Utf8
