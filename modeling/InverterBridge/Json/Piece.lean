import InverterBridge.Json.DecodeError
import InverterBridge.Number.Hexadecimal

/-!
# Pieces of a quoted string

Between its quotes a string is a sequence of pieces: characters that stand for
themselves and escapes.  A character beyond the basic plane may be escaped as
two surrogates, so the pieces have a meaning only together; the strict and the
relaxed format word a surrogate without its partner differently.
-/

namespace InverterBridge

/-- A piece of a quoted string. -/
inductive Piece where
  | plain (character : Char)
  /-- A backslash and one character. -/
  | escaped (letter : Char)
  /-- A backslash, `x` and two hexadecimal digits. -/
  | byteEscape (digits : List Char)
  /-- A backslash, `u` and four hexadecimal digits. -/
  | unitEscape (digits : List Char)
  deriving DecidableEq, Repr

/-- Whether a code unit is the first of a surrogate pair. -/
def isLead (unit : Nat) : Bool :=
  0xD800 ≤ unit && unit ≤ 0xDBFF

/-- Whether a code unit is the second of a surrogate pair. -/
def isTrail (unit : Nat) : Bool :=
  0xDC00 ≤ unit && unit ≤ 0xDFFF

/-- The character of a surrogate pair. -/
def joinSurrogates (lead trail : Nat) : Char :=
  Char.ofNat ((lead - 0xD800) * 0x400 + (trail - 0xDC00) + 0x10000)

namespace Piece

/-- The character that a one-letter escape stands for. -/
def letterMeaning (letter : Char) : Char :=
  match letter with
  | 'b' => '\x08'
  | 'f' => '\x0c'
  | 'n' => '\n'
  | 'r' => '\r'
  | 't' => '\t'
  | 'v' => '\x0b'
  | '0' => '\x00'
  | other => other

/-- The characters of a piece as they stand in the text, without the signs
that introduce an escape. -/
def source : Piece → List Char
  | .plain character => [character]
  | .escaped letter => [letter]
  | .byteEscape digits => digits
  | .unitEscape digits => digits

/-- The text of a strict string; every surrogate needs its partner. -/
def joinStrict : List Piece → Except DecodeError (List Char)
  | [] => .ok []
  | .plain character :: pieces => (joinStrict pieces).map (character :: ·)
  | .escaped letter :: pieces => (joinStrict pieces).map (letterMeaning letter :: ·)
  | .byteEscape _ :: _ => .error (.text .malformed)
  | .unitEscape digits :: pieces =>
      match hexNumber? digits with
      | none => .error (.text .malformed)
      | some unit =>
          if isTrail unit then
            .error (.text .malformed)
          else if isLead unit then
            match pieces with
            | .unitEscape trailDigits :: afterTrail =>
                match hexNumber? trailDigits with
                | none => .error (.text .malformed)
                | some trail =>
                    if isTrail trail then
                      (joinStrict afterTrail).map (joinSurrogates unit trail :: ·)
                    else
                      .error (.text .malformed)
            | _ => .error (.text .malformed)
          else
            (joinStrict pieces).map (Char.ofNat unit :: ·)

/-- Whether every surrogate that something follows has its partner. -/
def pairedSoFar : List Piece → Bool
  | [] => true
  | .unitEscape digits :: pieces =>
      let unit := (hexNumber? digits).getD 0
      if isTrail unit then false
      else if isLead unit then
        match pieces with
        | [] => true
        | .unitEscape trailDigits :: afterTrail =>
            isTrail ((hexNumber? trailDigits).getD 0) && pairedSoFar afterTrail
        | _ => false
      else
        pairedSoFar pieces
  | _ :: pieces => pairedSoFar pieces

/-- The text of a relaxed string.

After a first surrogate the next piece is read as a hexadecimal number,
whatever kind of piece it is. -/
def joinRelaxed : List Piece → Except DecodeError (List Char)
  | [] => .ok []
  | .plain character :: pieces => (joinRelaxed pieces).map (character :: ·)
  | .escaped letter :: pieces => (joinRelaxed pieces).map (letterMeaning letter :: ·)
  | .byteEscape digits :: pieces =>
      match hexNumber? digits with
      | none => .error (.unreadable .hexadecimal)
      | some unit => (joinRelaxed pieces).map (Char.ofNat unit :: ·)
  | .unitEscape digits :: pieces =>
      match hexNumber? digits with
      | none => .error (.unreadable .hexadecimal)
      | some unit =>
          if isTrail unit then
            .error (.unreadable .unexpectedTrailSurrogate)
          else if isLead unit then
            match pieces with
            | [] => .error (.unreadable .missingTrailSurrogate)
            | next :: afterNext =>
                match hexNumber? next.source with
                | none => .error (.unreadable .hexadecimal)
                | some trail =>
                    if isTrail trail then
                      (joinRelaxed afterNext).map (joinSurrogates unit trail :: ·)
                    else
                      .error (.unreadable .expectedTrailSurrogate)
          else
            (joinRelaxed pieces).map (Char.ofNat unit :: ·)

@[simp]
theorem joinStrict_nil : joinStrict [] = .ok [] := by
  simp [joinStrict]

@[simp]
theorem joinStrict_plain (character : Char) (pieces : List Piece) :
    joinStrict (.plain character :: pieces) = (joinStrict pieces).map (character :: ·) := by
  simp [joinStrict]

end Piece

end InverterBridge
