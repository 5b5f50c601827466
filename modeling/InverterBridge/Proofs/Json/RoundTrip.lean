import InverterBridge.Json.Read
import InverterBridge.Proofs.Json.Tokens

/-!
# Written values are read

The text of every JSON value is read as a tree without a fault (`read_render`): the value as its
text presents it.  A number that has no JSON form presents itself as null.
-/

namespace InverterBridge

namespace Json

mutual

/-- The value as its text presents it. -/
def presented : Json → Node
  | .null => .null
  | .bool value => .bool value
  | .integer value => Strict.firstNode (intText value).toList
  | .float value => Strict.firstNode (floatText value)
  | .text value => .text (.ok value)
  | .array items => .array (presentedItems items) .closed
  | .object members => .object (presentedMembers members) .closed

/-- The items of an array as their text presents them. -/
def presentedItems : List Json → List Node
  | [] => []
  | item :: items => item.presented :: presentedItems items

/-- The members of an object as their text presents them. -/
def presentedMembers : List (String × Json) → List (Except DecodeError String × Node)
  | [] => []
  | (key, value) :: members => (.ok key, value.presented) :: presentedMembers members

end

end Json

namespace Strict

open Json TreeState

/-- In this state a token that is no closing bracket starts a value for the given containers. -/
def Awaits (state : TreeState) (stack : List Frame) : Prop :=
  ∀ token, token ≠ .mark ']' → state.step false token = state.startValue stack token

theorem awaits_value (stack : List Frame) : Awaits ⟨stack, .value⟩ stack :=
  fun _ _ => rfl

theorem awaits_item (stack : List Frame) (items : List Node) (first : Bool) :
    Awaits ⟨stack, .item items first⟩ (.array items :: stack) := by
  intro token notClosing
  unfold TreeState.step
  split <;> simp_all

theorem endsNumber_cons {character : Char} (ends : character ∈ [',', ']', '\x7d'])
    (rest : List Char) : EndsNumber (character :: rest) := by
  rintro other ⟨⟩
  simp only [List.mem_cons, List.not_mem_nil, or_false] at ends
  rcases ends with rfl | rfl | rfl <;> simp

theorem endsNumber_moreItems (items : List Json) (rest : List Char) :
    EndsNumber (moreItems items ++ rest) := by
  cases items <;> simp only [moreItems, List.cons_append] <;> exact endsNumber_cons (by simp) _

theorem endsNumber_moreMembers (members : List (String × Json)) (rest : List Char) :
    EndsNumber (moreMembers members ++ rest) := by
  cases members <;> simp only [moreMembers, List.cons_append] <;> exact endsNumber_cons (by simp) _

/-- A leaf completes the value that is awaited. -/
theorem run_leaf {state : TreeState} {stack : List Frame} (awaits : Awaits state stack)
    (node : Node) (key : Option Key) (tokens : List Token) :
    state.run false (.leaf (some node) key :: tokens) =
      (complete node stack).run false tokens :=
  run_cons_of_step (awaits _ (by simp))

mutual

/-- Reading the text of a value completes it. -/
theorem run_chars (value : Json) {state : TreeState} {stack : List Frame}
    (awaits : Awaits state stack) {rest : List Char} (ends : EndsNumber rest) :
    state.run false (tokens (value.chars ++ rest)) =
      (complete value.presented stack).run false (tokens rest) := by
  cases value with
  | null =>
      rw [Json.chars, tokens_null, run_leaf awaits]
      rfl
  | bool value =>
      cases value with
      | true =>
        rw [Json.chars, tokens_true, run_leaf awaits]
        rfl
      | false =>
        rw [Json.chars, tokens_false, run_leaf awaits]
        rfl
  | integer value =>
      rw [Json.chars, isLeaf_intText value rest ends, run_leaf awaits,
        ← (isLeaf_intText value).firstNode_eq]
      rfl
  | float value =>
      rw [Json.chars, isLeaf_floatText value rest ends, run_leaf awaits]
      rfl
  | text value =>
      rw [Json.chars, tokens_text, run_leaf awaits]
      rfl
  | array items =>
      have opened : state.step false (.mark '[') = .ok ⟨stack, .item [] true⟩ :=
        awaits _ (by simp)
      cases items with
      | nil =>
          rw [Json.chars, List.cons_append, tokens_mark (by simp), run_cons_of_step opened,
            List.singleton_append, tokens_mark (by simp), run_cons_of_step rfl]
          rfl
      | cons item items =>
          rw [Json.chars, List.cons_append, tokens_mark (by simp), run_cons_of_step opened,
            List.append_assoc, run_chars item (awaits_item _ _ _) (endsNumber_moreItems _ _),
            complete, run_moreItems items]
          rfl
  | object members =>
      have opened : state.step false (.mark '\x7b') = .ok ⟨stack, .key [] true⟩ :=
        awaits _ (by simp)
      cases members with
      | nil =>
          rw [Json.chars, List.cons_append, tokens_mark (by simp), run_cons_of_step opened,
            List.singleton_append, tokens_mark (by simp), run_cons_of_step rfl]
          rfl
      | cons member members =>
          obtain ⟨key, value⟩ := member
          rw [Json.chars, List.cons_append, tokens_mark (by simp), run_cons_of_step opened,
            List.append_assoc, tokens_text, run_cons_of_step rfl, List.cons_append,
            tokens_mark (by simp), run_cons_of_step rfl, List.append_assoc,
            run_chars value (awaits_value _) (endsNumber_moreMembers _ _), complete,
            run_moreMembers members]
          rfl

/-- Reading the remaining items completes the array. -/
theorem run_moreItems (items : List Json) (taken : List Node) (stack : List Frame)
    (rest : List Char) :
    (TreeState.mk stack (.afterItem taken)).run false (tokens (moreItems items ++ rest)) =
      (complete (.array (taken.reverse ++ presentedItems items) .closed) stack).run false
        (tokens rest) := by
  cases items with
  | nil =>
      rw [moreItems, List.singleton_append, tokens_mark (by simp), run_cons_of_step rfl]
      simp [presentedItems]
  | cons item items =>
      rw [moreItems, List.cons_append, tokens_mark (by simp), run_cons_of_step rfl,
        List.append_assoc, run_chars item (awaits_item _ _ _) (endsNumber_moreItems _ _), complete,
        run_moreItems items]
      simp [presentedItems]

/-- Reading the remaining members completes the object. -/
theorem run_moreMembers (members : List (String × Json)) (taken : List (Key × Node))
    (stack : List Frame) (rest : List Char) :
    (TreeState.mk stack (.afterMember taken)).run false (tokens (moreMembers members ++ rest)) =
      (complete (.object (taken.reverse ++ presentedMembers members) .closed) stack).run false
        (tokens rest) := by
  cases members with
  | nil =>
      rw [moreMembers, List.singleton_append, tokens_mark (by simp), run_cons_of_step rfl]
      simp [presentedMembers]
  | cons member members =>
      obtain ⟨key, value⟩ := member
      rw [moreMembers, List.cons_append, tokens_mark (by simp), run_cons_of_step rfl,
        List.append_assoc, tokens_text, run_cons_of_step rfl, List.cons_append,
        tokens_mark (by simp), run_cons_of_step rfl, List.append_assoc,
        run_chars value (awaits_value _) (endsNumber_moreMembers _ _), complete,
        run_moreMembers members]
      simp [presentedMembers]

end

/-- Every text of a value is read without a fault. -/
theorem read_render (value : Json) : read value.render = ⟨value.presented, none⟩ := by
  have completed := run_chars value (awaits_value []) endsNumber_nil
  rw [List.append_nil, tokens_nil] at completed
  rw [read, Json.render, String.toList_ofList, Reading.ofTokens]
  exact completed

end Strict

/-! ## Nesting -/

namespace Json

mutual

/-- How many containers are nested. -/
def levels : Json → Nat
  | .array items => levelsOfItems items + 1
  | .object members => levelsOfMembers members + 1
  | _ => 0

/-- How many containers are nested in the items of an array. -/
def levelsOfItems : List Json → Nat
  | [] => 0
  | item :: items => max item.levels (levelsOfItems items)

/-- How many containers are nested in the members of an object. -/
def levelsOfMembers : List (String × Json) → Nat
  | [] => 0
  | (_, value) :: members => max value.levels (levelsOfMembers members)

end

theorem levelsOfItems_le {items : List Json} {bound : Nat}
    (each : ∀ item ∈ items, item.levels ≤ bound) : levelsOfItems items ≤ bound := by
  induction items with
  | nil => exact Nat.zero_le _
  | cons item items ih =>
      exact max_le (each item List.mem_cons_self)
        (ih fun other found => each other (List.mem_cons_of_mem _ found))

theorem levelsOfMembers_le {members : List (String × Json)} {bound : Nat}
    (each : ∀ member ∈ members, member.2.levels ≤ bound) : levelsOfMembers members ≤ bound := by
  induction members with
  | nil => exact Nat.zero_le _
  | cons member members ih =>
      exact max_le (each member List.mem_cons_self)
        (ih fun other found => each other (List.mem_cons_of_mem _ found))

theorem limited_floatText (value : Float) (levels : Nat) :
    (Strict.firstNode (floatText value)).limited levels = Strict.firstNode (floatText value) := by
  cases found : BinaryFraction.ofFloat? value with
  | none =>
      rw [Strict.floatText_of_none found,
        Strict.IsLeaf.firstNode_eq fun rest _ => Strict.tokens_null rest]
      rfl
  | some fraction =>
      obtain ⟨written, -, leaf⟩ := Strict.exists_isLeaf_fractionText fraction
      rw [Strict.floatText_of_some found, leaf.firstNode_eq]
      rfl

mutual

/-- A value that is not nested too deeply is read as a whole. -/
theorem limited_presented (value : Json) {levels : Nat} (shallow : value.levels ≤ levels) :
    value.presented.limited levels = value.presented := by
  cases value with
  | null => rfl
  | bool value => rfl
  | integer value =>
      rw [presented, (Strict.isLeaf_intText value).firstNode_eq]
      rfl
  | float value => exact limited_floatText value levels
  | text value => rfl
  | array items =>
      rw [Json.levels] at shallow
      obtain ⟨below, rfl⟩ : ∃ below, levels = below + 1 := ⟨levels - 1, by omega⟩
      rw [presented, Node.limited, limited_presentedItems items (by omega)]
  | object members =>
      rw [Json.levels] at shallow
      obtain ⟨below, rfl⟩ : ∃ below, levels = below + 1 := ⟨levels - 1, by omega⟩
      rw [presented, Node.limited, limited_presentedMembers members (by omega)]

theorem limited_presentedItems (items : List Json) {levels : Nat}
    (shallow : levelsOfItems items ≤ levels) :
    Node.limitedItems levels (presentedItems items) = presentedItems items := by
  cases items with
  | nil => rfl
  | cons item items =>
      rw [levelsOfItems] at shallow
      rw [presentedItems, Node.limitedItems, limited_presented item (by omega),
        limited_presentedItems items (by omega)]

theorem limited_presentedMembers (members : List (String × Json)) {levels : Nat}
    (shallow : levelsOfMembers members ≤ levels) :
    Node.limitedMembers levels (presentedMembers members) = presentedMembers members := by
  cases members with
  | nil => rfl
  | cons member members =>
      rw [levelsOfMembers] at shallow
      rw [presentedMembers, Node.limitedMembers, limited_presented member.2 (by omega),
        limited_presentedMembers members (by omega)]

end

/-- Reading a text is decoding the value that is written, unless it is nested too deeply. -/
theorem readStrict_render {α : Type} (decode : Dialect → Decoder α) (value : Json)
    (shallow : value.levels ≤ readableLevels) :
    readStrict decode value.render = decode .strict value.presented := by
  rw [readStrict, Strict.read_render, decodeStrict, limited_presented value shallow]
  dsimp only
  split <;> simp_all

end Json

end InverterBridge
