import InverterBridge.Json.Record
import InverterBridge.Proofs.Json.RoundTrip

/-!
# Records are read from their members

An object whose members have the names of fields, each at most once, is decoded exactly if its
fields are (`recordOfMembers_iff`): looking at the members in the order of the text finds nothing
that the fields would not find.
-/

namespace InverterBridge

namespace Fields

variable {α β : Type}

/-- The names of the fields. -/
def names (fields : Fields α) : List String :=
  fields.checks.map Prod.fst

/-- A member that a field has decoded passes its check. -/
structure IsChecked (fields : Fields α) : Prop where
  passes : ∀ members value, fields.fromMembers members = .ok value →
    ∀ entry ∈ fields.checks, ∀ node, members entry.1 = some node → entry.2 node = .ok ()

theorem IsChecked.pure (value : α) : IsChecked (Pure.pure value : Fields α) :=
  ⟨fun _ _ _ _ found => by cases found⟩

theorem fromMembers_pure (value : α) (members : String → Option Node) :
    (pure value : Fields α).fromMembers members = .ok value :=
  rfl

/-- The fields of a function and of its argument are decoded one after the other. -/
theorem fromMembers_seq_iff {function : Fields (α → β)} {argument : Fields α}
    {members : String → Option Node} {result : β} :
    (function <*> argument).fromMembers members = .ok result ↔
      ∃ build value, function.fromMembers members = .ok build ∧
        argument.fromMembers members = .ok value ∧ build value = result := by
  change (apply function fun _ => argument).fromMembers members = .ok result ↔ _
  simp only [apply]
  cases function.fromMembers members with
  | error cause => simp
  | ok build => cases argument.fromMembers members <;> simp [Except.map]

theorem fromMembers_map_iff {build : α → β} {argument : Fields α}
    {members : String → Option Node} {result : β} :
    (build <$> argument).fromMembers members = .ok result ↔
      ∃ value, argument.fromMembers members = .ok value ∧ build value = result := by
  change (pure build <*> argument).fromMembers members = .ok result ↔ _
  simp [fromMembers_seq_iff, fromMembers_pure]

theorem IsChecked.seq {function : Fields (α → β)} {argument : Fields α}
    (first : function.IsChecked) (second : argument.IsChecked) :
    IsChecked (function <*> argument) := by
  constructor
  intro members result decoded entry listed
  obtain ⟨build, value, built, found, -⟩ := fromMembers_seq_iff.mp decoded
  rcases List.mem_append.mp listed with listed | listed
  · exact first.passes members build built entry listed
  · exact second.passes members value found entry listed

theorem IsChecked.map {argument : Fields α} (checked : argument.IsChecked) (build : α → β) :
    IsChecked (build <$> argument) :=
  (IsChecked.pure build).seq checked

theorem fromMembers_required_iff {name : String} {decode : Decoder α}
    {members : String → Option Node} {value : α} :
    (required name decode).fromMembers members = .ok value ↔
      ∃ node, members name = some node ∧ decode node = .ok value := by
  simp only [required, single]
  cases members name <;> simp

theorem fromMembers_withDefault_iff {name : String} {decode : Decoder α} {absent : α}
    {members : String → Option Node} {value : α} :
    (withDefault name decode absent).fromMembers members = .ok value ↔
      (members name = Option.none ∧ absent = value) ∨
        ∃ node, members name = some node ∧ decode node = .ok value := by
  simp only [withDefault, single]
  cases members name <;> simp

theorem IsChecked.single (name : String) (decode : Decoder α) (absent : Except DecodeError α)
    (short : DecodeError → Except DecodeError α) :
    IsChecked (Fields.single name decode absent short) := by
  constructor
  intro members value decoded entry listed node found
  obtain rfl := List.mem_singleton.mp listed
  simp only [Fields.single, found] at decoded
  simp [decoded, Except.map]

end Fields

/-! ## Members -/

section

variable {members : List (String × Node)}

/-- Members whose keys are names. -/
def keyed (members : List (String × Node)) : List (Except DecodeError String × Node) :=
  members.map fun member => (.ok member.1, member.2)

theorem memberNamed_keyed (members : List (String × Node)) :
    memberNamed (keyed members) = fun name => members.lookup name := by
  funext name
  induction members with
  | nil => rfl
  | cons member members ih =>
      obtain ⟨key, node⟩ := member
      rw [List.lookup_cons, ← ih]
      by_cases same : key = name
      · simp [memberNamed, keyed, same]
      · have other : (name == key) = false := by simpa using Ne.symm same
        simp [memberNamed, keyed, same, other]

theorem lookup_eq_of_mem (distinct : (members.map Prod.fst).Nodup) {name : String} {node : Node}
    (listed : (name, node) ∈ members) : members.lookup name = some node := by
  obtain ⟨before, after, rfl⟩ := List.append_of_mem listed
  rw [List.lookup_eq_some_iff]
  refine ⟨before, after, rfl, fun member earlier => bne_iff_ne.mpr fun same => ?_⟩
  rw [List.map_append, List.map_cons] at distinct
  exact (List.nodup_append.mp distinct).2.2 _ (List.mem_map_of_mem earlier) name
    List.mem_cons_self same.symm

theorem Json.presentedMembers_eq_keyed (members : List (String × Json)) :
    Json.presentedMembers members =
      keyed (members.map fun member => (member.1, member.2.presented)) := by
  induction members with
  | nil => rfl
  | cons member members ih =>
      rw [Json.presentedMembers, ih]
      rfl

theorem Json.presentedItems_eq_map (items : List Json) :
    Json.presentedItems items = items.map Json.presented := by
  induction items with
  | nil => rfl
  | cons item items ih =>
      rw [Json.presentedItems, ih]
      rfl

theorem Json.lookup_map_presented (members : List (String × Json)) (name : String) :
    (members.map fun member => (member.1, member.2.presented)).lookup name =
      (members.lookup name).map Json.presented := by
  induction members with
  | nil => rfl
  | cons member members ih =>
      rw [List.map_cons, List.lookup_cons, List.lookup_cons, ih]
      split <;> rfl

namespace Dialect

/-- Members that pass their checks and do not repeat pass together. -/
theorem checkMembers_ok {checks : List (String × (Node → Except DecodeError Unit))}
    {other : Node → Except DecodeError Unit} {seen : List String}
    (unseen : ∀ member ∈ members, member.1 ∉ seen) (distinct : (members.map Prod.fst).Nodup)
    (passes : ∀ member ∈ members, ∃ check, checks.lookup member.1 = some check ∧
      check member.2 = .ok ()) :
    checkMembers checks other seen (keyed members) = .ok () := by
  induction members generalizing seen with
  | nil => rfl
  | cons member members ih =>
      obtain ⟨name, node⟩ := member
      obtain ⟨check, found, passed⟩ := passes (name, node) List.mem_cons_self
      have fresh : name ∉ seen := unseen (name, node) List.mem_cons_self
      rw [List.map_cons, List.nodup_cons] at distinct
      have unseenLater : ∀ member ∈ members, member.1 ∉ name :: seen := by
        intro member listed repeated
        rcases List.mem_cons.mp repeated with same | before
        · exact distinct.1 (List.mem_map.mpr ⟨member, listed, same⟩)
        · exact unseen member (List.mem_cons_of_mem _ listed) before
      have rest := ih unseenLater distinct.2 fun member listed =>
        passes member (List.mem_cons_of_mem _ listed)
      simp only [keyed] at rest
      simp only [keyed, List.map_cons, checkMembers, found, fresh, passed, rest]
      rfl

/-- A record is decoded from its members exactly if its fields are. -/
theorem recordOfMembers_iff {α : Type} {dialect : Dialect} {fields : Fields α} {value : α}
    (checked : fields.IsChecked) (distinct : (members.map Prod.fst).Nodup)
    (known : members.map Prod.fst ⊆ fields.names) :
    dialect.recordOfMembers fields (keyed members) .closed = .ok value ↔
      fields.fromMembers (fun name => members.lookup name) = .ok value := by
  rw [recordOfMembers, memberNamed_keyed]
  constructor
  · intro decoded
    split at decoded
    · cases decoded
    · exact decoded
  · intro decoded
    rw [checkMembers_ok (by simp) distinct]
    · exact decoded
    · intro member listed
      obtain ⟨entry, known, same⟩ := List.mem_map.mp (known (List.mem_map_of_mem listed))
      obtain ⟨check, found⟩ := Option.isSome_iff_exists.mp
        (List.lookup_isSome_iff.mpr ⟨entry, known, by simpa using same.symm⟩)
      obtain ⟨before, after, split, -⟩ := List.lookup_eq_some_iff.mp found
      refine ⟨check, found, checked.passes _ value decoded (member.1, check) ?_ member.2
        (lookup_eq_of_mem distinct listed)⟩
      rw [split]
      exact List.mem_append_right _ List.mem_cons_self

/-- A written record is decoded exactly if its fields are. -/
theorem record_presented_iff {α : Type} {dialect : Dialect} {shape : String} {fields : Fields α}
    {value : α} {members : List (String × Json)} (checked : fields.IsChecked)
    (distinct : (members.map Prod.fst).Nodup)
    (known : members.map Prod.fst ⊆ fields.names) :
    dialect.record shape fields (Json.object members).presented = .ok value ↔
      fields.fromMembers (fun name => (members.lookup name).map Json.presented) = .ok value := by
  rw [Json.presented, Json.presentedMembers_eq_keyed]
  change dialect.recordOfMembers fields _ .closed = _ ↔ _
  rw [recordOfMembers_iff checked]
  · simp only [Json.lookup_map_presented]
  · rw [List.map_map]
    exact distinct
  · rw [List.map_map]
    exact known

end Dialect

end

/-! ## Lists -/

namespace Dialect

variable {α : Type} {decode : Decoder α}

theorem each_iff {nodes : List Node} {values : List α} :
    each decode nodes = .ok values ↔
      List.Forall₂ (fun node value => decode node = .ok value) nodes values := by
  induction nodes generalizing values with
  | nil => simp [each, eq_comm]
  | cons node nodes ih =>
      rw [List.forall₂_cons_left_iff]
      simp only [← ih, each]
      cases decode node with
      | error cause => simp
      | ok first => cases each decode nodes <;> simp [Except.map, eq_comm]

/-- A written list is decoded exactly if every item is. -/
theorem list_presented_iff {items : List Json} {values : List α} :
    list decode (Json.array items).presented = .ok values ↔
      List.Forall₂ (fun item value => decode item.presented = .ok value) items values := by
  rw [Json.presented, Json.presentedItems_eq_map,
    ← List.forall₂_map_left_iff (R := fun node value => decode node = .ok value), ← each_iff, list]
  dsimp only [Node.bare]
  cases each decode (items.map Json.presented) <;> simp [Except.map]

end Dialect

end InverterBridge
