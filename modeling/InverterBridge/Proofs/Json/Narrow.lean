import InverterBridge.Json.Relaxed
import Mathlib.Data.List.Basic
import Mathlib.Tactic.Common

/-!
# ASCII texts are read without a breakdown

The reader of numbers in a configuration text breaks down only at a value whose second character is
not ASCII.  A text of ASCII characters has no such value (`Relaxed.isNarrow_of_read`): what a
scanner leaves over is the end of what it was given, so every character that a token looks at is one
of the text.
-/

namespace InverterBridge

/-- A result that is not a breakdown. -/
def IsSteady {α : Type} (result : Except DecodeError α) : Prop :=
  result ≠ .error .breakdown

section

variable {α β : Type}

theorem isSteady_ok (value : α) : IsSteady (.ok value) :=
  nofun

theorem isSteady_error_iff {cause : DecodeError} :
    IsSteady (.error cause : Except DecodeError α) ↔ cause ≠ .breakdown := by
  simp [IsSteady]

/-- What is handed on of a result that is not a breakdown is none. -/
theorem IsSteady.error {result : Except DecodeError α} {cause : DecodeError}
    (steady : IsSteady result) (found : result = .error cause) :
    IsSteady (.error cause : Except DecodeError β) := by
  rw [found] at steady
  exact isSteady_error_iff.mpr (isSteady_error_iff.mp steady)

theorem IsSteady.map {result : Except DecodeError α} (steady : IsSteady result)
    (function : α → β) : IsSteady (result.map function) := by
  cases result with
  | ok value => exact isSteady_ok _
  | error cause => exact steady.error rfl

theorem IsSteady.bind {result : Except DecodeError α} (steady : IsSteady result)
    {next : α → Except DecodeError β} (each : ∀ value, IsSteady (next value)) :
    IsSteady (result.bind next) := by
  cases result with
  | ok value => exact each value
  | error cause => exact steady.error rfl

end

/-! ## Trees -/

namespace Node

mutual

/-- A value none of whose readings is a breakdown. -/
def IsNarrow : Node → Prop
  | .number value direct => IsSteady value ∧ IsSteady direct
  | .text value => IsSteady value
  | .array items _ => AreNarrow items
  | .object members _ => HaveNarrow members
  | .wide _ => False
  | _ => True

/-- Every item of an array is such a value. -/
def AreNarrow : List Node → Prop
  | [] => True
  | item :: items => item.IsNarrow ∧ AreNarrow items

/-- Every member of an object is such a value under such a key. -/
def HaveNarrow : List (Key × Node) → Prop
  | [] => True
  | (key, member) :: members => (IsSteady key ∧ member.IsNarrow) ∧ HaveNarrow members

end

theorem areNarrow_iff {items : List Node} :
    AreNarrow items ↔ ∀ item ∈ items, item.IsNarrow := by
  induction items with
  | nil => simp [AreNarrow]
  | cons item items ih => rw [AreNarrow, ih, List.forall_mem_cons]

theorem haveNarrow_iff {members : List (Key × Node)} :
    HaveNarrow members ↔ ∀ member ∈ members, IsSteady member.1 ∧ member.2.IsNarrow := by
  induction members with
  | nil => simp [HaveNarrow]
  | cons member members ih => rw [HaveNarrow, ih, List.forall_mem_cons]

@[simp]
theorem isNarrow_array {items : List Node} {ending : Ending} :
    (array items ending).IsNarrow ↔ ∀ item ∈ items, item.IsNarrow :=
  areNarrow_iff

@[simp]
theorem isNarrow_object {members : List (Key × Node)} {ending : Ending} :
    (object members ending).IsNarrow ↔
      ∀ member ∈ members, IsSteady member.1 ∧ member.2.IsNarrow :=
  haveNarrow_iff

end Node

/-! ## From tokens to a tree -/

/-- A token that puts no other values into a tree. -/
def Token.IsNarrow : Token → Prop
  | .wideMark _ => False
  | .leaf value key => (∀ node ∈ value, node.IsNarrow) ∧ ∀ name ∈ key, IsSteady name
  | _ => True

/-- A waiting container with such values only. -/
def Frame.IsNarrow : Frame → Prop
  | .wide => False
  | .array items => ∀ item ∈ items, item.IsNarrow
  | .object members key =>
      (∀ member ∈ members, IsSteady member.1 ∧ member.2.IsNarrow) ∧ IsSteady key

/-- A container at hand with such values only. -/
def Mode.IsNarrow : Mode → Prop
  | .value => True
  | .item items _ => ∀ item ∈ items, item.IsNarrow
  | .key members _ => ∀ member ∈ members, IsSteady member.1 ∧ member.2.IsNarrow
  | .colon members name =>
      (∀ member ∈ members, IsSteady member.1 ∧ member.2.IsNarrow) ∧ IsSteady name
  | .afterItem items => ∀ item ∈ items, item.IsNarrow
  | .afterMember members => ∀ member ∈ members, IsSteady member.1 ∧ member.2.IsNarrow
  | .done root => root.IsNarrow

namespace TreeState

/-- A state with such values only. -/
structure IsNarrow (state : TreeState) : Prop where
  stack : ∀ frame ∈ state.stack, frame.IsNarrow
  mode : state.mode.IsNarrow

theorem isNarrow_initial : initial.IsNarrow :=
  ⟨List.forall_mem_nil _, trivial⟩

theorem isNarrow_complete {node : Node} {stack : List Frame} (narrow : node.IsNarrow)
    (frames : ∀ frame ∈ stack, frame.IsNarrow) : (complete node stack).IsNarrow := by
  cases stack with
  | nil => exact ⟨frames, narrow⟩
  | cons frame stack =>
      obtain ⟨first, rest⟩ := List.forall_mem_cons.mp frames
      cases frame with
      | wide => exact first.elim
      | array items => exact ⟨rest, List.forall_mem_cons.mpr ⟨narrow, first⟩⟩
      | object members key =>
          exact ⟨rest, List.forall_mem_cons.mpr ⟨⟨first.2, narrow⟩, first.1⟩⟩

theorem isNarrow_startValue {state next : TreeState} {stack : List Frame} {token : Token}
    (frames : ∀ frame ∈ stack, frame.IsNarrow) (narrow : token.IsNarrow)
    (started : state.startValue stack token = .ok next) : next.IsNarrow := by
  unfold startValue at started
  split at started <;> cases started
  · exact isNarrow_complete (narrow.1 _ rfl) frames
  · exact ⟨frames, List.forall_mem_nil _⟩
  · exact ⟨frames, List.forall_mem_nil _⟩
  · exact narrow.elim
  · exact narrow.elim

/-- A token of such values leads to a state of such values. -/
theorem isNarrow_step {trailing : Bool} {state next : TreeState} {token : Token}
    (before : state.IsNarrow) (narrow : token.IsNarrow)
    (stepped : state.step trailing token = .ok next) : next.IsNarrow := by
  obtain ⟨stack, mode⟩ := state
  obtain ⟨frames, held⟩ := before
  dsimp only at frames held
  unfold step at stepped
  dsimp only at stepped
  split at stepped
  -- A container that ends is a value of the one around it.
  next items first =>
    split at stepped <;> cases stepped
    refine isNarrow_complete (Node.isNarrow_array.mpr fun item listed => ?_) frames
    exact held item (List.mem_reverse.mp listed)
  next items first _ =>
    have container : (Frame.array items).IsNarrow := held
    exact isNarrow_startValue (List.forall_mem_cons.mpr ⟨container, frames⟩) narrow stepped
  next => exact isNarrow_startValue frames narrow stepped
  next members first =>
    split at stepped <;> cases stepped
    refine isNarrow_complete (Node.isNarrow_object.mpr fun member listed => ?_) frames
    exact held member (List.mem_reverse.mp listed)
  next members first value name =>
    cases stepped
    exact ⟨frames, held, narrow.2 _ rfl⟩
  next => cases stepped
  next members name =>
    cases stepped
    exact ⟨List.forall_mem_cons.mpr ⟨held, frames⟩, trivial⟩
  next items =>
    cases stepped
    exact ⟨frames, held⟩
  next items =>
    cases stepped
    refine isNarrow_complete (Node.isNarrow_array.mpr fun item listed => ?_) frames
    exact held item (List.mem_reverse.mp listed)
  next members =>
    cases stepped
    exact ⟨frames, held⟩
  next members =>
    cases stepped
    refine isNarrow_complete (Node.isNarrow_object.mpr fun member listed => ?_) frames
    exact held member (List.mem_reverse.mp listed)
  next => cases stepped

theorem fault_of_startValue {state : TreeState} {stack : List Frame} {token : Token}
    {reading : Reading} (stopped : state.startValue stack token = .error reading) :
    reading.fault ≠ none := by
  unfold startValue at stopped
  split at stopped <;> cases stopped <;> exact Option.some_ne_none _

/-- A text that is not read any further has a fault. -/
theorem fault_of_step {trailing : Bool} {state : TreeState} {token : Token} {reading : Reading}
    (stopped : state.step trailing token = .error reading) : reading.fault ≠ none := by
  unfold step at stopped
  split at stopped
  case h_2 | h_3 => exact fault_of_startValue stopped
  case h_1 | h_4 =>
    split at stopped <;> cases stopped
    exact Option.some_ne_none _
  all_goals cases stopped <;> exact Option.some_ne_none _

/-- A text without a fault is a tree of such values. -/
theorem isNarrow_run {trailing : Bool} {state : TreeState} {tokens : List Token}
    (before : state.IsNarrow) (narrow : ∀ token ∈ tokens, token.IsNarrow)
    (faultless : (state.run trailing tokens).fault = none) :
    (state.run trailing tokens).root.IsNarrow := by
  induction tokens generalizing state with
  | nil =>
      obtain ⟨stack, mode⟩ := state
      cases mode
      case done root => exact before.mode
      all_goals cases faultless
  | cons token tokens ih =>
      obtain ⟨first, rest⟩ := List.forall_mem_cons.mp narrow
      cases stepped : state.step trailing token with
      | ok next =>
          rw [run_cons_of_step stepped] at faultless ⊢
          exact ih (isNarrow_step before first stepped) rest faultless
      | error reading =>
          rw [run, stepped] at faultless
          exact absurd faultless (fault_of_step stepped)

end TreeState

/-! ## What is left over by a scan -/

theorem takeSign_suffix (text : List Char) : (takeSign text).2 <:+ text := by
  unfold takeSign
  split
  · exact List.suffix_cons _ _
  · exact List.suffix_cons _ _
  · exact List.suffix_rfl

namespace Relaxed

theorem afterBlockComment?_suffix {text rest : List Char}
    (ended : afterBlockComment? text = some rest) : rest <:+ text := by
  fun_induction afterBlockComment? text with
  | case1 => cases ended
  | case2 tail =>
      cases ended
      exact List.suffix_append ['*', '/'] rest
  | case3 _ tail _ ih => exact (ih ended).trans (List.suffix_cons _ _)

theorem skipBlanks_suffix (text : List Char) : skipBlanks text <:+ text := by
  fun_induction skipBlanks text with
  | case1 rest ih =>
      exact (ih.trans (List.dropWhile_suffix _)).trans (List.suffix_append ['/', '/'] rest)
  | case2 rest after ended ih =>
      exact (ih.trans (afterBlockComment?_suffix ended)).trans (List.suffix_append ['/', '*'] rest)
  | case4 _ rest _ _ _ ih => exact ih.trans (List.suffix_cons _ _)
  | case3 | case5 | case6 => exact List.suffix_rfl

theorem scanString?_suffix {quote : Char} {text : List Char} {scanned : List Piece × List Char}
    (found : scanString? quote text = some scanned) : scanned.2 <:+ text := by
  fun_induction scanString? quote text generalizing scanned with
  | case1 | case4 | case6 | case9 | case11 => cases found
  | case2 rest ih => exact (ih found).trans (List.suffix_append ['\\', '\r', '\n'] rest)
  | case3 a b rest _ ih =>
      obtain ⟨inner, innerFound, rfl⟩ := Option.map_eq_some_iff.mp found
      exact (ih innerFound).trans (List.suffix_append ['\\', 'x', a, b] rest)
  | case5 a b c d rest _ ih =>
      obtain ⟨inner, innerFound, rfl⟩ := Option.map_eq_some_iff.mp found
      exact (ih innerFound).trans (List.suffix_append ['\\', 'u', a, b, c, d] rest)
  | case7 letter rest _ _ _ _ ih =>
      exact (ih found).trans (List.suffix_append ['\\', letter] rest)
  | case8 letter rest _ _ _ _ _ ih =>
      obtain ⟨inner, innerFound, rfl⟩ := Option.map_eq_some_iff.mp found
      exact (ih innerFound).trans (List.suffix_append ['\\', letter] rest)
  | case10 character rest =>
      cases found
      exact List.suffix_cons _ _
  | case12 character rest _ _ _ _ _ _ ih =>
      obtain ⟨inner, innerFound, rfl⟩ := Option.map_eq_some_iff.mp found
      exact (ih innerFound).trans (List.suffix_cons _ _)

theorem scanIdentifier_suffix (text : List Char) : (scanIdentifier text).2 <:+ text := by
  fun_induction scanIdentifier text with
  | case1 | case3 | case5 => exact List.suffix_rfl
  | case2 a b c d rest _ ih => exact ih.trans (List.suffix_append ['\\', 'u', a, b, c, d] rest)
  | case4 character rest _ _ ih => exact ih.trans (List.suffix_cons _ _)

theorem scanExponent?_suffix {text rest : List Char} {exponent : Int}
    (found : scanExponent? text = some (exponent, rest)) : rest <:+ text := by
  unfold scanExponent? at found
  split at found
  next letter tail =>
    split at found
    · dsimp only at found
      split at found
      · cases found
      · cases found
        exact ((List.dropWhile_suffix _).trans (takeSign_suffix tail)).trans (List.suffix_cons _ _)
    · cases found
  next => cases found

theorem scanTail_suffix (whole fraction : List Char) (plain : Bool) (text : List Char) :
    (scanTail whole fraction plain text).2 <:+ text := by
  unfold scanTail
  split
  next exponent rest found => exact scanExponent?_suffix found
  next => exact List.suffix_rfl

theorem scanDecimal?_suffix {text : List Char} {scanned : Magnitude × List Char}
    (found : scanDecimal? text = some scanned) : scanned.2 <:+ text := by
  simp only [scanDecimal?] at found
  have dropped := List.drop_suffix (wholeDigits text).length text
  split at found
  next rest pointed =>
    split at found
    · cases found
    · cases found
      rw [pointed] at dropped
      exact ((scanTail_suffix _ _ _ _).trans (List.dropWhile_suffix _)).trans
        ((List.suffix_cons _ _).trans dropped)
  next =>
    split at found
    · cases found
    · cases found
      exact (scanTail_suffix _ _ _ _).trans dropped

theorem scanMagnitude?_suffix {text : List Char} {scanned : Magnitude × List Char}
    (found : scanMagnitude? text = some scanned) : scanned.2 <:+ text := by
  unfold scanMagnitude? at found
  dsimp only at found
  split at found
  next marker rest =>
    split at found
    · cases found
      exact (List.dropWhile_suffix _).trans (List.suffix_append ['0', marker] rest)
    · exact scanDecimal?_suffix found
  next =>
    split at found
    next rest matched =>
      cases found
      exact ⟨_, List.append_eq_of_isPrefixOf?_eq_some matched⟩
    next =>
      split at found
      next rest matched =>
        cases found
        exact ⟨_, List.append_eq_of_isPrefixOf?_eq_some matched⟩
      next => exact scanDecimal?_suffix found

theorem numberToken_suffix (sign : Sign) (character : Char) (text : List Char) :
    (numberToken sign character text).2 <:+ text := by
  unfold numberToken
  split
  next magnitude rest found => exact scanMagnitude?_suffix found
  next => exact List.nil_suffix

theorem escapedWordToken_suffix (text : List Char) : (escapedWordToken text).2 <:+ text := by
  unfold escapedWordToken
  split
  next a b c d rest =>
    split
    · exact (scanIdentifier_suffix rest).trans (List.suffix_append ['u', a, b, c, d] rest)
    · exact List.nil_suffix
  next => exact List.nil_suffix

/-- What stands behind a token stands in the text. -/
theorem tokenAt_suffix (character : Char) (rest : List Char) :
    (tokenAt character rest).2 <:+ character :: rest := by
  have behind {text : List Char} (left : text <:+ rest) : text <:+ character :: rest :=
    left.trans (List.suffix_cons _ _)
  unfold tokenAt
  split
  · split
    next pieces after found => exact behind (scanString?_suffix found)
    next => exact List.nil_suffix
  split
  · exact behind (numberToken_suffix _ _ _)
  split
  · exact behind (numberToken_suffix _ _ _)
  split
  · exact numberToken_suffix _ _ _
  split
  · exact behind (scanIdentifier_suffix rest)
  split
  · exact behind (escapedWordToken_suffix rest)
  split <;> exact List.suffix_cons _ _

/-! ## Tokens of ASCII characters -/

theorem isSteady_joinRelaxed (pieces : List Piece) : IsSteady (Piece.joinRelaxed pieces) := by
  fun_induction Piece.joinRelaxed pieces
  case case1 => exact isSteady_ok _
  all_goals first | exact IsSteady.map ‹_› _ | exact isSteady_error_iff.mpr nofun

theorem isSteady_pieceText (pieces : List Piece) : IsSteady (pieceText pieces) :=
  (isSteady_joinRelaxed pieces).map _

namespace Literal

theorem isSteady_hexadecimal (digits : List Char) : IsSteady (hexadecimal digits) := by
  unfold hexadecimal
  split
  · exact isSteady_error_iff.mpr nofun
  · split
    · exact isSteady_ok _
    · exact isSteady_error_iff.mpr nofun

theorem isSteady_direct (literal : Literal) : IsSteady literal.direct := by
  unfold direct
  dsimp only
  split
  · exact (isSteady_hexadecimal _).map _
  · exact isSteady_error_iff.mpr nofun
  · exact isSteady_error_iff.mpr nofun
  · exact isSteady_ok _
  · exact isSteady_error_iff.mpr nofun
  · exact isSteady_ok _
  · unfold bounded
    split
    · exact isSteady_ok _
    · exact isSteady_error_iff.mpr nofun

theorem isSteady_integer (sign : Sign) (magnitude : Nat) : IsSteady (integer sign magnitude) := by
  unfold integer
  extract_lets value
  split
  · exact isSteady_ok _
  · exact isSteady_error_iff.mpr nofun

theorem isSteady_any (literal : Literal) : IsSteady literal.any := by
  unfold any
  split
  · exact ((isSteady_hexadecimal _).bind fun _ => isSteady_ok _).map _
  · split <;> exact isSteady_error_iff.mpr nofun
  · exact isSteady_error_iff.mpr nofun
  · exact isSteady_error_iff.mpr nofun
  · exact isSteady_integer _ _
  · exact (isSteady_direct literal).map _

theorem isNarrow_node (literal : Literal) : literal.node.IsNarrow :=
  ⟨literal.isSteady_any, literal.isSteady_direct⟩

end Literal

theorem isNarrow_of_wordNode? {pieces : List Piece} {node : Node}
    (found : wordNode? pieces = some node) : node.IsNarrow := by
  unfold wordNode? at found
  split at found
  · cases found
    trivial
  split at found
  · cases found
    trivial
  split at found
  · cases found
    trivial
  split at found
  · cases found
    exact Literal.isNarrow_node _
  split at found
  · cases found
    exact Literal.isNarrow_node _
  · cases found

theorem isNarrow_numberToken (sign : Sign) (character : Char) (text : List Char) :
    (numberToken sign character text).1.IsNarrow := by
  unfold numberToken
  split
  · exact ⟨fun _ found => Option.some.inj found ▸ Literal.isNarrow_node _, nofun⟩
  · trivial

theorem isNarrow_wordToken (first : Piece) (text : List Char) :
    (wordToken first text).1.IsNarrow :=
  ⟨fun _ found => isNarrow_of_wordNode? found,
    fun _ found => Option.some.inj found ▸ isSteady_pieceText _⟩

theorem isNarrow_escapedWordToken (text : List Char) : (escapedWordToken text).1.IsNarrow := by
  unfold escapedWordToken
  split
  · split
    · exact isNarrow_wordToken _ _
    · trivial
  · trivial

/-- A token is only wide before a character that is. -/
theorem isNarrow_tokenAt (character : Char) {rest : List Char} (narrow : startsWide rest = false) :
    (tokenAt character rest).1.IsNarrow := by
  unfold tokenAt
  rw [narrow]
  split
  · split
    · refine ⟨fun _ found => Option.some.inj found ▸ ?_,
        fun _ found => Option.some.inj found ▸ isSteady_pieceText _⟩
      exact isSteady_pieceText _
    · trivial
  split
  · exact isNarrow_numberToken _ _ _
  split
  · exact isNarrow_numberToken _ _ _
  split
  · exact isNarrow_numberToken _ _ _
  split
  · exact isNarrow_wordToken _ _
  split
  · exact isNarrow_escapedWordToken _
  · rw [Bool.and_false]
    trivial

/-- A text of ASCII characters. -/
def IsAscii (text : List Char) : Prop :=
  ∀ character ∈ text, character.toNat < 0x80

theorem startsWide_of_isAscii {text : List Char} (ascii : IsAscii text) :
    startsWide text = false := by
  cases text with
  | nil => rfl
  | cons character rest =>
      have small := ascii character List.mem_cons_self
      exact decide_eq_false (by omega)

theorem isNarrow_of_mem_tokens {text : List Char} (ascii : IsAscii text) :
    ∀ token ∈ tokens text, token.IsNarrow := by
  fun_induction tokens text with
  | case1 => exact List.forall_mem_nil _
  | case2 text character rest stripped ih =>
      have left : IsAscii (character :: rest) := fun other listed =>
        ascii other ((stripped ▸ skipBlanks_suffix text).mem listed)
      refine List.forall_mem_cons.mpr ⟨isNarrow_tokenAt character ?_, ih ?_⟩
      · exact startsWide_of_isAscii fun other listed => left other (List.mem_cons_of_mem _ listed)
      · exact fun other listed => left other ((tokenAt_suffix character rest).mem listed)

/-- What is read of a text of ASCII characters has no value at which reading breaks down. -/
theorem isNarrow_of_read {text : String} {node : Node} (ascii : IsAscii text.toList)
    (found : read text = .ok node) : node.IsNarrow := by
  unfold read at found
  dsimp only at found
  split at found
  next faultless =>
    cases found
    exact TreeState.isNarrow_run TreeState.isNarrow_initial (isNarrow_of_mem_tokens ascii) faultless
  next => cases found

theorem isSteady_read (text : String) : IsSteady (read text) := by
  unfold read
  dsimp only
  split
  · exact isSteady_ok _
  · exact isSteady_error_iff.mpr nofun

end Relaxed

end InverterBridge
