import InverterBridge.Number.Binary
import InverterBridge.Number.PowerOfTen
import InverterBridge.Text.Blank
import InverterBridge.Text.Utf8

/-!
# Reading registers

A device presents itself as 16-bit holding registers.  Longer numbers take two
registers, the higher half first, and strings two bytes a register.  Integer
points carry a separate power of ten as their scale factor.
-/

namespace InverterBridge

/-- The two registers that mark a SunSpec device: the letters `SunS`. -/
def sunspecMarker : List UInt16 :=
  [0x5375, 0x6E53]

/-- Whether a register block starts with the marker. -/
def isMarker (registers : List UInt16) : Bool :=
  registers.take 2 == sunspecMarker

theorem isMarker_iff (registers : List UInt16) :
    isMarker registers = true ↔ registers.take 2 = sunspecMarker := by
  simp [isMarker]

/-- The two bytes of a register, the higher first. -/
def registerBytes (register : UInt16) : List UInt8 :=
  [UInt8.ofNat (register.toNat / 256), UInt8.ofNat (register.toNat % 256)]

/-- The bytes of a string point, which ends at the first zero byte. -/
def stringBytes (registers : List UInt16) : List UInt8 :=
  (registers.flatMap registerBytes).takeWhile (· != 0)

/-- The text of a string point, without surrounding white space. -/
def registerText (registers : List UInt16) : String :=
  String.ofList (trimBlanks (Utf8.decodeLossy (stringBytes registers)))

/-- Bytes laid out two to a register, the last one padded with a zero byte. -/
def packBytes : List UInt8 → List UInt16
  | [] => []
  | [last] => [UInt16.ofNat (last.toNat * 256)]
  | high :: low :: rest => UInt16.ofNat (high.toNat * 256 + low.toNat) :: packBytes rest

/-- A text as a string point of the given number of registers. -/
def textRegisters (size : Nat) (text : String) : List UInt16 :=
  let registers := packBytes (Utf8.encode text.toList)
  registers ++ List.replicate (size - registers.length) 0

/-- The 32-bit number of two registers. -/
def joinRegisters (high low : UInt16) : UInt32 :=
  UInt32.ofNat (high.toNat * 65536 + low.toNat)

/-- A register as a signed number. -/
def signedRegister (register : UInt16) : Int :=
  if register.toNat < 32768 then register.toNat else (register.toNat : Int) - 65536

/-- The unsigned value that marks a point as not implemented. -/
def unimplementedUnsigned : UInt16 := 0xFFFF

/-- The signed value that marks a point, or a scale factor, as not implemented. -/
def unimplementedSigned : UInt16 := 0x8000

/-- The bit field that marks the events as not implemented. -/
def unimplementedBits : UInt32 := 0xFFFFFFFF

/-- `raw * 10^scale` for a raw value and the register of its scale factor, none
for a scale factor that is not implemented. -/
def scaled? (raw : Float) (scale : UInt16) : Option Float :=
  if scale = unimplementedSigned then none
  else some (raw * powerOfTen (signedRegister scale))

end InverterBridge
