import InverterBridge.Proofs.Text.Utf8
import InverterBridge.RegisterMap.Register
import Mathlib.Data.List.DropRight

/-!
# String points

A text is stored in registers by its bytes, two to a register, and filled up with zero bytes
(`bytes_textRegisters`).  Reading takes the bytes before the first zero byte
(`stringBytes_eq_iff`), so what follows it is of no importance, and takes off the white space
around the text.  A text without a zero character and without white space around it is read back
from any registers that have room for it, and whatever is read is such a text
(`strings_read_back`).
-/

namespace InverterBridge

/-! ## White space around a text -/

/-- A text without white space at its ends. -/
structure IsTrimmed (text : List Char) : Prop where
  head : ∀ character ∈ text.head?, isBlank character = false
  last : ∀ character ∈ text.getLast?, isBlank character = false

theorem trimBlanks_eq (text : List Char) :
    trimBlanks text = (text.dropWhile isBlank).rdropWhile isBlank :=
  rfl

theorem trimBlanks_of_isTrimmed {text : List Char} (trimmed : IsTrimmed text) :
    trimBlanks text = text := by
  have front : text.dropWhile isBlank = text := by
    cases text with
    | nil => rfl
    | cons first rest => exact List.dropWhile_cons_of_neg (by simp [trimmed.head first rfl])
  rw [trimBlanks_eq, front, List.rdropWhile_eq_self_iff]
  intro nonempty
  simp [trimmed.last _ (List.getLast?_eq_some_getLast nonempty)]

theorem trimBlanks_initial (text : List Char) : trimBlanks text <+: text.dropWhile isBlank :=
  List.rdropWhile_prefix isBlank (text.dropWhile isBlank)

theorem isTrimmed_trimBlanks (text : List Char) : IsTrimmed (trimBlanks text) := by
  constructor
  · intro character found
    obtain ⟨rest, split⟩ := trimBlanks_initial text
    have first := List.head?_dropWhile_not isBlank text
    rw [← split, List.head?_append_of_ne_nil _ (List.ne_nil_of_mem (List.mem_of_mem_head? found)),
      Option.mem_def.mp found] at first
    exact first
  · intro character found
    obtain ⟨nonempty, rfl⟩ := List.mem_getLast?_eq_getLast found
    exact eq_false_of_ne_true (List.rdropWhile_last_not isBlank _ nonempty)

theorem mem_of_mem_trimBlanks {text : List Char} {character : Char}
    (listed : character ∈ trimBlanks text) : character ∈ text :=
  (List.dropWhile_suffix isBlank).mem ((trimBlanks_initial text).mem listed)

/-! ## Bytes in registers -/

theorem registerBytes_pair (high low : UInt8) :
    registerBytes (UInt16.ofNat (high.toNat * 256 + low.toNat)) = [high, low] := by
  have := high.toNat_lt
  have := low.toNat_lt
  have joined : (UInt16.ofNat (high.toNat * 256 + low.toNat)).toNat =
      high.toNat * 256 + low.toNat :=
    UInt16.toNat_ofNat_of_lt' (show high.toNat * 256 + low.toNat < 65536 by omega)
  have first : (high.toNat * 256 + low.toNat) / 256 = high.toNat := by omega
  have second : (high.toNat * 256 + low.toNat) % 256 = low.toNat := by omega
  rw [registerBytes, joined, first, second, UInt8.ofNat_toNat, UInt8.ofNat_toNat]

/-- Registers hold the bytes that are packed in them, and a zero byte after an odd number of
them. -/
theorem bytes_packBytes (bytes : List UInt8) :
    (packBytes bytes).flatMap registerBytes = bytes ++ List.replicate (bytes.length % 2) 0 := by
  induction bytes using packBytes.induct with
  | case1 => rfl
  | case2 last => simpa [packBytes] using registerBytes_pair last 0
  | case3 high low rest ih =>
      have parity : (high :: low :: rest).length % 2 = rest.length % 2 :=
        Nat.add_mod_right rest.length 2
      rw [packBytes, List.flatMap_cons, registerBytes_pair, ih, parity]
      rfl

theorem length_packBytes (bytes : List UInt8) :
    (packBytes bytes).length = (bytes.length + 1) / 2 := by
  induction bytes using packBytes.induct with
  | case1 => rfl
  | case2 last => simp [packBytes]
  | case3 high low rest ih =>
      rw [packBytes, List.length_cons, ih, List.length_cons, List.length_cons]
      omega

theorem bytes_replicate_zero (count : Nat) :
    (List.replicate count 0).flatMap registerBytes = List.replicate (count * 2) 0 := by
  have zero : registerBytes 0 = List.replicate 2 0 := rfl
  rw [List.flatMap_replicate, zero, List.flatten_replicate_replicate]

section

variable {text : String} {size : Nat}

theorem length_textRegisters (fits : (Utf8.encode text.toList).length ≤ 2 * size) :
    (textRegisters size text).length = size := by
  rw [textRegisters, List.length_append, List.length_replicate, length_packBytes]
  omega

/-- A text is stored by its bytes, with zero bytes up to the end of the registers. -/
theorem bytes_textRegisters (fits : (Utf8.encode text.toList).length ≤ 2 * size) :
    (textRegisters size text).flatMap registerBytes =
      Utf8.encode text.toList ++
        List.replicate (2 * size - (Utf8.encode text.toList).length) 0 := by
  rw [textRegisters, List.flatMap_append, bytes_packBytes, bytes_replicate_zero, List.append_assoc,
    ← List.replicate_add, length_packBytes]
  congr 2
  omega

end

/-! ## What is read -/

/-- The bytes that registers hold before the first zero byte. -/
structure HoldBefore (registers : List UInt16) (bytes : List UInt8) : Prop where
  nonzero : 0 ∉ bytes
  before : ∃ rest, registers.flatMap registerBytes = bytes ++ rest ∧ ∀ byte ∈ rest.head?, byte = 0

theorem stringBytes_eq_of_holdBefore {registers : List UInt16} {bytes : List UInt8}
    (hold : HoldBefore registers bytes) : stringBytes registers = bytes := by
  obtain ⟨nonzero, rest, split, ends⟩ := hold
  have kept : ∀ byte ∈ bytes, (byte != 0) = true := fun byte listed =>
    bne_iff_ne.mpr fun same => nonzero (same ▸ listed)
  have dropped : rest.takeWhile (· != 0) = [] := by
    cases rest with
    | nil => rfl
    | cons byte rest => exact List.takeWhile_cons_of_neg (by simp [ends byte rfl])
  rw [stringBytes, split, List.takeWhile_append_of_pos kept, dropped, List.append_nil]

theorem holdBefore_stringBytes (registers : List UInt16) :
    HoldBefore registers (stringBytes registers) where
  nonzero listed := by simpa using List.mem_takeWhile_imp listed
  before := by
    refine ⟨_, List.takeWhile_append_dropWhile.symm, fun byte found => ?_⟩
    have first := List.head?_dropWhile_not (· != 0) (registers.flatMap registerBytes)
    rw [Option.mem_def.mp found] at first
    simpa using first

theorem holdBefore_textRegisters {text : String} {size : Nat} (nonzero : '\x00' ∉ text.toList)
    (fits : (Utf8.encode text.toList).length ≤ 2 * size) :
    HoldBefore (textRegisters size text) (Utf8.encode text.toList) where
  nonzero := Utf8.zero_not_mem_encode nonzero
  before := by
    refine ⟨_, bytes_textRegisters fits, fun byte found => ?_⟩
    exact List.eq_of_mem_replicate (List.mem_of_mem_head? found)

theorem toList_registerText (registers : List UInt16) :
    (registerText registers).toList =
      trimBlanks (Utf8.decodeLossy (stringBytes registers)) :=
  String.toList_ofList

/-- A text without a zero character and without white space around it is read back. -/
theorem registerText_textRegisters {text : String} {size : Nat} (nonzero : '\x00' ∉ text.toList)
    (trimmed : IsTrimmed text.toList) (fits : (Utf8.encode text.toList).length ≤ 2 * size) :
    registerText (textRegisters size text) = text := by
  rw [← String.toList_inj, toList_registerText,
    stringBytes_eq_of_holdBefore (holdBefore_textRegisters nonzero fits), Utf8.decodeLossy_encode,
    trimBlanks_of_isTrimmed trimmed]

theorem nul_not_mem_registerText (registers : List UInt16) :
    '\x00' ∉ (registerText registers).toList := by
  rw [toList_registerText]
  intro listed
  exact Utf8.nul_not_mem_decodeLossy (holdBefore_stringBytes registers).nonzero
    (mem_of_mem_trimBlanks listed)

theorem isTrimmed_registerText (registers : List UInt16) :
    IsTrimmed (registerText registers).toList := by
  rw [toList_registerText]
  exact isTrimmed_trimBlanks _

/-- **Strings are read back from registers.** A text without a zero character and without white
space at its ends, whose bytes fit in a number of registers, is stored in exactly so many registers
by its bytes, the higher half of a register first, and zero bytes behind them, and is read from
them as it was.  Whatever registers hold, the text that is read has no zero character and no white
space at its ends; it is the text of all registers that hold the same bytes before the first zero
byte; and it is read back from any number of registers that has room for it. -/
theorem strings_read_back :
    (∀ (text : String) (size : Nat), '\x00' ∉ text.toList → IsTrimmed text.toList →
      (Utf8.encode text.toList).length ≤ 2 * size →
        (textRegisters size text).length = size ∧
        (textRegisters size text).flatMap registerBytes = Utf8.encode text.toList ++
          List.replicate (2 * size - (Utf8.encode text.toList).length) 0 ∧
        registerText (textRegisters size text) = text) ∧
    ∀ registers : List UInt16,
      '\x00' ∉ (registerText registers).toList ∧
      IsTrimmed (registerText registers).toList ∧
      (∃ bytes, HoldBefore registers bytes ∧
        ∀ others, HoldBefore others bytes → registerText others = registerText registers) ∧
      ∀ size, (Utf8.encode (registerText registers).toList).length ≤ 2 * size →
        registerText (textRegisters size (registerText registers)) = registerText registers := by
  constructor
  · intro text size nonzero trimmed fits
    exact ⟨length_textRegisters fits, bytes_textRegisters fits,
      registerText_textRegisters nonzero trimmed fits⟩
  · intro registers
    have nonzero := nul_not_mem_registerText registers
    have trimmed := isTrimmed_registerText registers
    refine ⟨nonzero, trimmed, ⟨_, holdBefore_stringBytes registers, fun others hold => ?_⟩,
      fun size fits => registerText_textRegisters nonzero trimmed fits⟩
    rw [registerText, registerText, stringBytes_eq_of_holdBefore hold]

/-- A name of five bytes in four registers, with the zero byte in the middle of the third one. -/
theorem umlaut_read_back :
    textRegisters 4 "Käse" = [0x4BC3, 0xA473, 0x6500, 0] ∧
      registerText (textRegisters 4 "Käse") = "Käse" := by
  have stored : textRegisters 4 "Käse" = [0x4BC3, 0xA473, 0x6500, 0] := by decide +kernel
  have trimmed : IsTrimmed "Käse".toList := by
    have last : "Käse".toList.getLast? = some 'e' := by decide +kernel
    constructor
    · rintro - ⟨⟩
      decide +kernel
    · rw [last]
      rintro - ⟨⟩
      decide +kernel
  obtain ⟨-, -, read⟩ := strings_read_back.1 "Käse" 4 (by decide +kernel) trimmed
    (by decide +kernel)
  exact ⟨stored, read⟩

end InverterBridge
