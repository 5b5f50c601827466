import InverterBridge.Proofs.Document.Values
import Mathlib.Data.String.Basic

/-!
# Objects sorted by key

Members that are stored one after the other stand in ascending order of their keys
(`Json.Ascending`), and storing ascending members gives the same members again.  Hence sorting the
objects of a value twice is sorting them once (`Json.sorted_sorted`).

What is found in the text of a value is the value itself if its numbers are integers of at most 64
bits (`Json.content_presented`).
-/

namespace InverterBridge

namespace Json

variable {key : String} {value : Json} {members additions : List (String × Json)}

/-! ## Members in ascending order -/

/-- The keys of members ascend, and no key repeats. -/
def Ascending (members : List (String × Json)) : Prop :=
  members.Pairwise fun first second => first.1 < second.1

theorem ascending_nil : Ascending [] :=
  .nil

theorem ascending_cons_iff {member : String × Json} :
    Ascending (member :: members) ↔
      (∀ other ∈ members, member.1 < other.1) ∧ Ascending members :=
  List.pairwise_cons

theorem Ascending.nodup_keys (ascending : Ascending members) :
    (members.map Prod.fst).Nodup := by
  rw [List.Nodup, List.pairwise_map]
  exact ascending.imp fun before => ne_of_lt before

/-- What holds of a new member and of the old ones holds of all after it has been stored. -/
theorem forall_mem_insertMember {holds : String × Json → Prop} (new : holds (key, value))
    (old : ∀ member ∈ members, holds member) :
    ∀ member ∈ insertMember key value members, holds member := by
  induction members with
  | nil => simpa using new
  | cons first members ih =>
      obtain ⟨name, other⟩ := first
      rw [List.forall_mem_cons] at old
      rw [insertMember]
      split
      · exact List.forall_mem_cons.mpr ⟨new, old.2⟩
      · split
        · exact List.forall_mem_cons.mpr ⟨new, List.forall_mem_cons.mpr old⟩
        · exact List.forall_mem_cons.mpr ⟨old.1, ih old.2⟩

theorem forall_mem_insertMembers {holds : String × Json → Prop}
    (new : ∀ member ∈ additions, holds member) (old : ∀ member ∈ members, holds member) :
    ∀ member ∈ insertMembers members additions, holds member := by
  induction additions generalizing members with
  | nil => exact old
  | cons member additions ih =>
      rw [List.forall_mem_cons] at new
      exact ih new.2 (forall_mem_insertMember new.1 old)

/-- A stored member takes its place in the order. -/
theorem Ascending.insertMember (ascending : Ascending members) (key : String) (value : Json) :
    Ascending (insertMember key value members) := by
  induction members with
  | nil => exact List.pairwise_singleton _ _
  | cons first members ih =>
      obtain ⟨name, other⟩ := first
      obtain ⟨least, rest⟩ := ascending_cons_iff.mp ascending
      rw [Json.insertMember]
      split
      next same => exact ascending_cons_iff.mpr ⟨same ▸ least, rest⟩
      next apart =>
        split
        next before =>
          refine ascending_cons_iff.mpr ⟨?_, ascending⟩
          exact List.forall_mem_cons.mpr
            ⟨before, fun member listed => before.trans (least member listed)⟩
        next notBefore =>
          have after : name < key := lt_of_le_of_ne (le_of_not_gt notBefore) (Ne.symm apart)
          exact ascending_cons_iff.mpr ⟨forall_mem_insertMember after least, ih rest⟩

theorem Ascending.insertMembers (ascending : Ascending members)
    (additions : List (String × Json)) : Ascending (insertMembers members additions) := by
  induction additions generalizing members with
  | nil => exact ascending
  | cons member additions ih => exact ih (ascending.insertMember member.1 member.2)

/-- A member behind all others is stored at the end. -/
theorem insertMember_of_lt (last : ∀ member ∈ members, member.1 < key) :
    insertMember key value members = members ++ [(key, value)] := by
  induction members with
  | nil => rfl
  | cons first members ih =>
      obtain ⟨name, other⟩ := first
      obtain ⟨before, rest⟩ := List.forall_mem_cons.mp last
      have before : name < key := before
      rw [insertMember, if_neg before.ne', if_neg before.not_gt, ih rest]
      rfl

/-- Ascending members are stored in their order. -/
theorem insertMembers_of_ascending (ascending : Ascending (members ++ additions)) :
    insertMembers members additions = members ++ additions := by
  induction additions generalizing members with
  | nil => exact (List.append_nil members).symm
  | cons member additions ih =>
      have last : ∀ other ∈ members, other.1 < member.1 := fun other listed =>
        (List.pairwise_append.mp ascending).2.2 other listed member List.mem_cons_self
      rw [List.append_cons] at ascending
      rw [insertMembers_cons, insertMember_of_lt last, ih ascending, List.append_assoc]
      rfl

theorem insertMembers_nil_of_ascending (ascending : Ascending members) :
    insertMembers [] members = members :=
  insertMembers_of_ascending ascending

/-! ## Sorted values -/

/-- Members are left alone by sorting if their values are. -/
theorem sortedMembers_eq_self (normal : ∀ member ∈ members, member.2.sorted = member.2) :
    sortedMembers members = members := by
  induction members with
  | nil => rfl
  | cons member members ih =>
      obtain ⟨same, rest⟩ := List.forall_mem_cons.mp normal
      rw [sortedMembers, same, ih rest]

mutual

/-- Sorting twice is sorting once. -/
theorem sorted_sorted (value : Json) : value.sorted.sorted = value.sorted := by
  cases value with
  | null => rfl
  | bool value => rfl
  | integer value => rfl
  | float value => rfl
  | text value => rfl
  | array items => rw [sorted, sorted, sortedItems_sortedItems items]
  | object members =>
      have normal : ∀ member ∈ insertMembers [] (sortedMembers members),
          member.2.sorted = member.2 :=
        forall_mem_insertMembers (sorted_of_mem_sortedMembers members) nofun
      have ascending : Ascending (insertMembers [] (sortedMembers members)) :=
        ascending_nil.insertMembers _
      rw [sorted, sorted, sortedMembers_eq_self normal, insertMembers_nil_of_ascending ascending]

theorem sortedItems_sortedItems (items : List Json) :
    sortedItems (sortedItems items) = sortedItems items := by
  cases items with
  | nil => rfl
  | cons item items =>
      rw [sortedItems, sortedItems, sorted_sorted item, sortedItems_sortedItems items]

theorem sorted_of_mem_sortedMembers (members : List (String × Json)) :
    ∀ member ∈ sortedMembers members, member.2.sorted = member.2 := by
  cases members with
  | nil => exact nofun
  | cons member members =>
      rw [sortedMembers, List.forall_mem_cons]
      exact ⟨sorted_sorted member.2, sorted_of_mem_sortedMembers members⟩

end

/-- The members of a value that has been sorted are sorted. -/
theorem sorted_of_mem (found : value.sorted = .object members) :
    ∀ member ∈ members, member.2.sorted = member.2 := by
  have again := sorted_sorted value
  rw [found, sorted] at again
  have same : insertMembers [] (sortedMembers members) = members := Json.object.inj again
  rw [← same]
  exact forall_mem_insertMembers (sorted_of_mem_sortedMembers members) nofun

/-! ## Values without floating-point numbers -/

mutual

/-- Every number of a value is an integer of at most 64 bits, with or without a sign. -/
def isIntegral : Json → Bool
  | .integer value => decide (-2 ^ 63 ≤ value ∧ value < 2 ^ 64)
  | .float _ => false
  | .array items => areIntegral items
  | .object members => haveIntegral members
  | _ => true

/-- Every item of an array has such numbers only. -/
def areIntegral : List Json → Bool
  | [] => true
  | item :: items => item.isIntegral && areIntegral items

/-- Every member of an object has such numbers only. -/
def haveIntegral : List (String × Json) → Bool
  | [] => true
  | (_, value) :: members => value.isIntegral && haveIntegral members

end

mutual

/-- What is found in the text of such a value is the value itself. -/
theorem content_presented (value : Json) (integral : value.isIntegral = true) :
    value.presented.content = .ok value := by
  cases value with
  | null => rfl
  | bool value => rfl
  | integer value =>
      rw [isIntegral, decide_eq_true_iff] at integral
      rw [presented_integer integral.1 integral.2]
      rfl
  | float value => contradiction
  | text value => rfl
  | array items =>
      rw [presented, Node.content, contentItems_presentedItems items integral]
      rfl
  | object members =>
      rw [presented, Node.content, contentMembers_presentedMembers members integral]
      rfl

theorem contentItems_presentedItems (items : List Json) (integral : areIntegral items = true) :
    Node.contentItems (presentedItems items) = .ok items := by
  cases items with
  | nil => rfl
  | cons item items =>
      rw [areIntegral, Bool.and_eq_true] at integral
      rw [presentedItems, Node.contentItems, content_presented item integral.1,
        contentItems_presentedItems items integral.2]
      rfl

theorem contentMembers_presentedMembers (members : List (String × Json))
    (integral : haveIntegral members = true) :
    Node.contentMembers (presentedMembers members) = .ok members := by
  cases members with
  | nil => rfl
  | cons member members =>
      rw [haveIntegral, Bool.and_eq_true] at integral
      rw [presentedMembers, Node.contentMembers, content_presented member.2 integral.1,
        contentMembers_presentedMembers members integral.2]
      rfl

end

end Json

end InverterBridge
