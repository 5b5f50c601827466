import InverterBridge.Text.Utf8
import Mathlib.Algebra.Ring.Nat
import Mathlib.Tactic.Common

/-!
# UTF-8 is read as it was written

A character of which a part has been read can still become any character between two code points
(`Partial.least`, `Partial.beyond`), and every byte that continues it narrows this range down to
the code point that the byte belongs to (`decodeFrom_continuation`).  Hence the bytes of a text are
read as the text (`decodeLossy_encode`).

The ranges hold code points of characters only, and zero is in none of them
(`Partial.Proper`).  So no malformed bytes are read as a zero character
(`nul_not_mem_decodeLossy`).
-/

namespace InverterBridge.Utf8

/-! ## Characters that have begun -/

namespace Partial

/-- The smallest code point of a character that has begun like this. -/
def least (part : Partial) : Nat :=
  (part.value * 64 + part.low.toNat % 64) * 64 ^ part.missing

/-- The code point behind the largest one of a character that has begun like this. -/
def beyond (part : Partial) : Nat :=
  (part.value * 64 + part.high.toNat % 64 + 1) * 64 ^ part.missing

/-- The bytes that may come next are bytes that continue a character. -/
structure Continues (part : Partial) : Prop where
  low : 0x80 ≤ part.low.toNat
  ordered : part.low.toNat ≤ part.high.toNat
  high : part.high.toNat < 0xC0

/-- Everything that a character can become is a character other than zero. -/
structure Proper (part : Partial) : Prop extends Continues part where
  least_pos : 0 < part.least
  valid : part.beyond ≤ 0xD800 ∨ 0xE000 ≤ part.least ∧ part.beyond ≤ 0x110000

instance (part : Partial) : Decidable part.Proper :=
  decidable_of_iff ((0x80 ≤ part.low.toNat ∧ part.low.toNat ≤ part.high.toNat ∧
      part.high.toNat < 0xC0) ∧ 0 < part.least ∧
        (part.beyond ≤ 0xD800 ∨ 0xE000 ≤ part.least ∧ part.beyond ≤ 0x110000))
    ⟨fun ⟨⟨low, ordered, high⟩, least_pos, valid⟩ => ⟨⟨low, ordered, high⟩, least_pos, valid⟩,
      fun proper => ⟨⟨proper.low, proper.ordered, proper.high⟩, proper.least_pos, proper.valid⟩⟩

/-- A character that any such byte may continue. -/
def anyNext (missing value : Nat) : Partial :=
  ⟨missing, value, 0x80, 0xBF⟩

theorem continues_anyNext (missing value : Nat) : (anyNext missing value).Continues where
  low := Nat.le_refl 0x80
  ordered := show (0x80 : UInt8).toNat ≤ (0xBF : UInt8).toNat by decide
  high := Nat.lt_succ_self 0xBF

theorem least_anyNext (missing value : Nat) :
    (anyNext missing value).least = value * 64 ^ (missing + 1) := by
  have low : (0x80 : UInt8).toNat % 64 = 0 := rfl
  simp only [least, anyNext, low, Nat.add_zero, Nat.pow_succ', Nat.mul_assoc]

theorem beyond_anyNext (missing value : Nat) :
    (anyNext missing value).beyond = (value + 1) * 64 ^ (missing + 1) := by
  have high : (0xBF : UInt8).toNat % 64 = 63 := rfl
  simp only [beyond, anyNext, high, Nat.add_assoc, Nat.reduceAdd, ← Nat.succ_mul, Nat.pow_succ',
    Nat.mul_assoc]

end Partial

section

variable {part : Partial} {byte : UInt8}

/-- A byte that completes a character. -/
theorem feed_of_last (within : part.low ≤ byte ∧ byte ≤ part.high) (last : part.missing = 0) :
    feed (some part) byte = ([Char.ofNat (part.value * 64 + byte.toNat % 64)], none) := by
  simp only [feed, if_pos within, last]

/-- A byte after which others are still missing. -/
theorem feed_of_missing {missing : Nat} (within : part.low ≤ byte ∧ byte ≤ part.high)
    (more : part.missing = missing + 1) :
    feed (some part) byte =
      ([], some (Partial.anyNext missing (part.value * 64 + byte.toNat % 64))) := by
  simp only [feed, if_pos within, more, Partial.anyNext]

end

/-! ## What has been written -/

/-- The byte that continues a character by the last six bits of a number. -/
def sixBits (number : Nat) : UInt8 :=
  UInt8.ofNat (number % 64 + 128)

/-- The bytes of the last `count` groups of six bits of a code point. -/
def continuation : Nat → Nat → List UInt8
  | 0, _ => []
  | count + 1, code => sixBits (code / 64 ^ count) :: continuation count code

theorem toNat_sixBits (number : Nat) : (sixBits number).toNat = number % 64 + 128 :=
  UInt8.toNat_ofNat_of_lt' (show number % 64 + 128 < 256 by omega)

/-- The next six bits of a number in the range of a character continue it to the number. -/
theorem within_sixBits {part : Partial} (continues : part.Continues) {number : Nat}
    (lower : part.value * 64 + part.low.toNat % 64 ≤ number)
    (upper : number < part.value * 64 + part.high.toNat % 64 + 1) :
    (part.low ≤ sixBits number ∧ sixBits number ≤ part.high) ∧
      part.value * 64 + (sixBits number).toNat % 64 = number := by
  obtain ⟨low, ordered, high⟩ := continues
  rw [UInt8.le_iff_toNat_le, UInt8.le_iff_toNat_le, toNat_sixBits]
  omega

/-- The remaining bytes of a code point complete the character. -/
theorem decodeFrom_continuation {part : Partial} (continues : part.Continues) {code : Nat}
    (lower : part.least ≤ code) (upper : code < part.beyond) (rest : List UInt8) :
    decodeFrom (some part) (continuation (part.missing + 1) code ++ rest) =
      Char.ofNat code :: decodeFrom none rest := by
  have positive (count : Nat) : 0 < 64 ^ count := Nat.pow_pos (by decide)
  -- Each byte leaves a character of which one byte less is missing.
  induction more : part.missing generalizing part with
  | zero =>
      rw [Partial.least, more, Nat.pow_zero, Nat.mul_one] at lower
      rw [Partial.beyond, more, Nat.pow_zero, Nat.mul_one] at upper
      obtain ⟨within, joined⟩ := within_sixBits continues lower upper
      rw [continuation, Nat.pow_zero, Nat.div_one, List.cons_append, decodeFrom_cons,
        feed_of_last within more, joined]
      rfl
  | succ missing ih =>
      rw [Partial.least, more, ← Nat.le_div_iff_mul_le (positive _)] at lower
      rw [Partial.beyond, more, ← Nat.div_lt_iff_lt_mul (positive _)] at upper
      obtain ⟨within, joined⟩ := within_sixBits continues lower upper
      rw [continuation, List.cons_append, decodeFrom_cons, feed_of_missing within more, joined]
      refine ih (Partial.continues_anyNext _ _) ?_ ?_ rfl
      · rw [Partial.least_anyNext]
        exact Nat.div_mul_le_self _ _
      · rw [Partial.beyond_anyNext, ← Nat.div_lt_iff_lt_mul (positive _)]
        exact Nat.lt_succ_self _

/-! ### First bytes -/

/-- How a character of three bytes begins. -/
def beginThree (lead : Nat) : Partial :=
  ⟨1, lead, if lead = 0 then 0xA0 else 0x80, if lead = 13 then 0x9F else 0xBF⟩

/-- How a character of four bytes begins. -/
def beginFour (lead : Nat) : Partial :=
  ⟨2, lead, if lead = 0 then 0x90 else 0x80, if lead = 4 then 0x8F else 0xBF⟩

theorem start_of_ascii : ∀ code : Fin 0x80,
    start (UInt8.ofNat code) = ([Char.ofNat code], none) := by
  decide

theorem start_of_two : ∀ lead : Fin 0x20, 2 ≤ lead.val →
    start (UInt8.ofNat (lead + 0xC0)) = ([], some (Partial.anyNext 0 lead)) := by
  decide

theorem start_of_three : ∀ lead : Fin 0x10,
    start (UInt8.ofNat (lead + 0xE0)) = ([], some (beginThree lead)) := by
  decide

theorem start_of_four : ∀ lead : Fin 5,
    start (UInt8.ofNat (lead + 0xF0)) = ([], some (beginFour lead)) := by
  decide

/-- A first byte stands for a character other than zero, or begins one that can become some. -/
theorem start_proper {byte : UInt8} (nonzero : byte ≠ 0) :
    '\x00' ∉ (start byte).1 ∧ ∀ part ∈ (start byte).2, part.Proper := by
  have each : ∀ code : Fin 0x100, UInt8.ofNat code ≠ 0 →
      '\x00' ∉ (start (UInt8.ofNat code)).1 ∧
        ∀ part ∈ (start (UInt8.ofNat code)).2, part.Proper := by
    decide +kernel
  have found := each ⟨byte.toNat, byte.toNat_lt⟩
  rw [UInt8.ofNat_toNat] at found
  exact found nonzero

/-! ### Characters -/

/-- A character of at least 0x80 as it begins. -/
structure Begins (first : UInt8) (code : Nat) (part : Partial) : Prop where
  start : start first = ([], some part)
  least : part.least ≤ code
  beyond : code < part.beyond

theorem Begins.first_ne_zero {first : UInt8} {code : Nat} {part : Partial}
    (begins : Begins first code part) : first ≠ 0 := by
  rintro rfl
  cases begins.start

theorem begins_two {code : Nat} (lower : 0x80 ≤ code) (upper : code < 0x800) :
    Begins (UInt8.ofNat (code / 0x40 + 0xC0)) code (Partial.anyNext 0 (code / 0x40)) where
  start := start_of_two ⟨code / 0x40, by omega⟩ (show 2 ≤ code / 0x40 by omega)
  least := by
    rw [Partial.least_anyNext]
    omega
  beyond := by
    rw [Partial.beyond_anyNext]
    omega

theorem begins_three {code : Nat} (lower : 0x800 ≤ code) (upper : code < 0x10000)
    (valid : code.isValidChar) :
    Begins (UInt8.ofNat (code / 0x1000 + 0xE0)) code (beginThree (code / 0x1000)) where
  start := start_of_three ⟨code / 0x1000, by omega⟩
  least := by
    simp only [Partial.least, beginThree]
    split <;> simp <;> omega
  beyond := by
    simp only [Partial.beyond, beginThree]
    split <;> simp <;> omega

theorem begins_four {code : Nat} (lower : 0x10000 ≤ code) (upper : code < 0x110000) :
    Begins (UInt8.ofNat (code / 0x40000 + 0xF0)) code (beginFour (code / 0x40000)) where
  start := start_of_four ⟨code / 0x40000, by omega⟩
  least := by
    simp only [Partial.least, beginFour]
    split <;> simp <;> omega
  beyond := by
    simp only [Partial.beyond, beginFour]
    split <;> simp <;> omega

theorem utf8EncodeChar_of_ascii {character : Char} (ascii : character.toNat < 0x80) :
    String.utf8EncodeChar character = [UInt8.ofNat character.toNat] :=
  if_pos (show character.toNat ≤ 127 by omega)

/-- The first byte of a character beyond ASCII begins it, and the others are its groups of six
bits. -/
theorem exists_begins {character : Char} (long : 0x80 ≤ character.toNat) :
    ∃ first part, Begins first character.toNat part ∧ String.utf8EncodeChar character =
        first :: continuation (part.missing + 1) character.toNat := by
  have valid : character.toNat.isValidChar := character.valid
  have below : character.toNat < 0x110000 := by omega
  have code_eq : character.val.toNat = character.toNat := rfl
  simp only [String.utf8EncodeChar, code_eq]
  rw [if_neg (by omega)]
  by_cases two : character.toNat < 0x800
  · refine ⟨_, _, begins_two long two, ?_⟩
    rw [if_pos (by omega), Nat.mod_eq_of_lt (by omega)]
    simp [Partial.anyNext, continuation, sixBits]
  · rw [if_neg (by omega)]
    by_cases three : character.toNat < 0x10000
    · refine ⟨_, _, begins_three (by omega) three valid, ?_⟩
      rw [if_pos (by omega), Nat.mod_eq_of_lt (by omega)]
      simp [beginThree, continuation, sixBits]
    · refine ⟨_, _, begins_four (by omega) below, ?_⟩
      rw [if_neg (by omega), Nat.mod_eq_of_lt (by omega)]
      simp [beginFour, continuation, sixBits]

/-- The bytes of a character are read as the character. -/
theorem decodeFrom_utf8EncodeChar (character : Char) (rest : List UInt8) :
    decodeFrom none (String.utf8EncodeChar character ++ rest) =
      character :: decodeFrom none rest := by
  by_cases ascii : character.toNat < 0x80
  · rw [utf8EncodeChar_of_ascii ascii, List.singleton_append, decodeFrom_cons, feed,
      start_of_ascii ⟨character.toNat, ascii⟩, Char.ofNat_toNat]
    rfl
  · obtain ⟨first, part, begins, encoded⟩ := exists_begins (Nat.le_of_not_lt ascii)
    have proper := (start_proper begins.first_ne_zero).2 part (by rw [begins.start]; rfl)
    rw [encoded, List.cons_append, decodeFrom_cons, feed, begins.start, List.nil_append,
      decodeFrom_continuation proper.toContinues begins.least begins.beyond, Char.ofNat_toNat]

/-- What has been written is read as it was. -/
theorem decodeLossy_encode (text : List Char) : decodeLossy (encode text) = text := by
  induction text with
  | nil => rfl
  | cons character text ih =>
      rw [decodeLossy, encode, List.flatMap_cons, decodeFrom_utf8EncodeChar]
      exact congrArg (character :: ·) ih

/-! ## The zero character -/

theorem zero_not_mem_continuation (count code : Nat) : 0 ∉ continuation count code := by
  induction count with
  | zero => exact List.not_mem_nil
  | succ count ih =>
      have nonzero : sixBits (code / 64 ^ count) ≠ 0 := by
        intro same
        have zero := congrArg UInt8.toNat same
        rw [toNat_sixBits] at zero
        cases zero
      exact List.not_mem_cons_of_ne_of_not_mem nonzero.symm ih

theorem zero_not_mem_utf8EncodeChar {character : Char} (nonzero : character ≠ '\x00') :
    0 ∉ String.utf8EncodeChar character := by
  by_cases ascii : character.toNat < 0x80
  · rw [utf8EncodeChar_of_ascii ascii, List.mem_singleton]
    intro same
    have zero := congrArg UInt8.toNat same
    rw [UInt8.toNat_ofNat_of_lt' (show character.toNat < 256 by omega)] at zero
    exact nonzero (Char.toNat_inj.mp zero.symm)
  · obtain ⟨first, part, begins, encoded⟩ := exists_begins (Nat.le_of_not_lt ascii)
    rw [encoded]
    exact List.not_mem_cons_of_ne_of_not_mem begins.first_ne_zero.symm
      (zero_not_mem_continuation _ _)

/-- Only the zero character is written with a zero byte. -/
theorem zero_not_mem_encode {text : List Char} (nonzero : '\x00' ∉ text) : 0 ∉ encode text := by
  intro listed
  obtain ⟨character, found, byte⟩ := List.mem_flatMap.mp listed
  exact zero_not_mem_utf8EncodeChar (fun same => nonzero (same ▸ found)) byte

section

variable {part : Partial}

theorem ofNat_ne_nul (proper : part.Proper) {code : Nat} (lower : part.least ≤ code)
    (upper : code < part.beyond) : Char.ofNat code ≠ '\x00' := by
  have valid : code.isValidChar := by
    rcases proper.valid with low | ⟨high, low⟩
    · exact .inl (by omega)
    · exact .inr (by omega)
  intro same
  rw [Char.ofNat, dif_pos valid] at same
  have zero : code = 0 := congrArg Char.toNat same
  have positive := proper.least_pos
  omega

/-- The payload of a byte that continues a character. -/
theorem payload_of_within (continues : part.Continues) {byte : UInt8}
    (within : part.low ≤ byte ∧ byte ≤ part.high) :
    part.low.toNat % 64 ≤ byte.toNat % 64 ∧ byte.toNat % 64 ≤ part.high.toNat % 64 := by
  have lower := UInt8.le_iff_toNat_le.mp within.1
  have upper := UInt8.le_iff_toNat_le.mp within.2
  obtain ⟨low, ordered, high⟩ := continues
  omega

/-- A byte that continues a character narrows down what the character can become. -/
theorem Partial.Proper.anyNext (proper : part.Proper) {payload missing : Nat}
    (more : part.missing = missing + 1) (lower : part.low.toNat % 64 ≤ payload)
    (upper : payload ≤ part.high.toNat % 64) :
    (Partial.anyNext missing (part.value * 64 + payload)).Proper := by
  have least_le : part.least ≤ (Partial.anyNext missing (part.value * 64 + payload)).least := by
    rw [Partial.least_anyNext, Partial.least, more]
    exact Nat.mul_le_mul_right _ (by omega)
  have beyond_le : (Partial.anyNext missing (part.value * 64 + payload)).beyond ≤ part.beyond := by
    rw [Partial.beyond_anyNext, Partial.beyond, more]
    exact Nat.mul_le_mul_right _ (by omega)
  have least_pos := proper.least_pos
  have valid := proper.valid
  exact ⟨Partial.continues_anyNext _ _, by omega, by omega⟩

/-- Whatever byte comes next completes no zero character. -/
theorem feed_proper {state : Option Partial} (proper : ∀ part ∈ state, part.Proper) {byte : UInt8}
    (nonzero : byte ≠ 0) :
    '\x00' ∉ (feed state byte).1 ∧ ∀ part ∈ (feed state byte).2, part.Proper := by
  obtain ⟨started, begun⟩ := start_proper nonzero
  cases state with
  | none => exact ⟨started, begun⟩
  | some part =>
      have proper := proper part rfl
      by_cases within : part.low ≤ byte ∧ byte ≤ part.high
      · obtain ⟨lower, upper⟩ := payload_of_within proper.toContinues within
        cases more : part.missing with
        | zero =>
            have least_le : part.least ≤ part.value * 64 + byte.toNat % 64 := by
              rw [Partial.least, more]
              omega
            have lt_beyond : part.value * 64 + byte.toNat % 64 < part.beyond := by
              rw [Partial.beyond, more]
              omega
            rw [feed_of_last within more, List.mem_singleton]
            exact ⟨(ofNat_ne_nul proper least_le lt_beyond).symm, nofun⟩
        | succ missing =>
            rw [feed_of_missing within more]
            refine ⟨List.not_mem_nil, fun other found => ?_⟩
            cases found
            exact proper.anyNext more lower upper
      · rw [feed, if_neg within]
        exact ⟨List.not_mem_cons_of_ne_of_not_mem (by decide) started, begun⟩

end

theorem nul_not_mem_decodeFrom {state : Option Partial} (proper : ∀ part ∈ state, part.Proper)
    {bytes : List UInt8} (nonzero : 0 ∉ bytes) : '\x00' ∉ decodeFrom state bytes := by
  induction bytes generalizing state with
  | nil =>
      cases state with
      | none => exact List.not_mem_nil
      | some part => exact List.not_mem_cons_of_ne_of_not_mem (by decide) List.not_mem_nil
  | cons byte bytes ih =>
      obtain ⟨first, others⟩ := List.ne_and_not_mem_of_not_mem_cons nonzero
      obtain ⟨completed, begun⟩ := feed_proper proper first.symm
      rw [decodeFrom_cons, List.mem_append, not_or]
      exact ⟨completed, ih begun others⟩

/-- No bytes other than zero are read as the zero character, malformed or not. -/
theorem nul_not_mem_decodeLossy {bytes : List UInt8} (nonzero : 0 ∉ bytes) :
    '\x00' ∉ decodeLossy bytes :=
  nul_not_mem_decodeFrom (fun _ found => absurd found (Option.not_mem_none _)) nonzero

end InverterBridge.Utf8
