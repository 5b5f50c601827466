import InverterBridge.Json.Record
import InverterBridge.Proofs.Json.Narrow

/-!
# Decoders that do not break down

Only the decoder of numbers breaks down by itself, and only at a wide value.  Every other decoder
hands on what the decoders of its parts report, so none breaks down at a value that is read from
ASCII characters; there is one lemma for each way in which decoders are put together.
-/

namespace InverterBridge

/-- A decoder that does not break down at values that are not wide. -/
def Decoder.IsSteady {α : Type} (decode : Decoder α) : Prop :=
  ∀ node : Node, node.IsNarrow → InverterBridge.IsSteady (decode node)

theorem isSteady_finish (ending : Ending) : IsSteady ending.finish := by
  cases ending with
  | closed => exact isSteady_ok _
  | cut fault => exact isSteady_error_iff.mpr nofun
  | dangling fault => exact isSteady_error_iff.mpr nofun

namespace Node

theorem bare_of_isNarrow {node : Node} (narrow : node.IsNarrow) : node.bare = node := by
  cases node
  case wide => exact narrow.elim
  all_goals rfl

/-- The report of an unexpected value is not a breakdown. -/
theorem isSteady_mismatch {α : Type} {node : Node} (narrow : node.IsNarrow) (expected : String) :
    IsSteady (.error (node.mismatch expected) : Except DecodeError α) := by
  cases node
  case number value direct =>
    cases value with
    | ok value => exact isSteady_error_iff.mpr nofun
    | error cause => exact narrow.1.error rfl
  case text value =>
    cases value with
    | ok value => exact isSteady_error_iff.mpr nofun
    | error cause => exact IsSteady.error narrow rfl
  case wide => exact narrow.elim
  all_goals exact isSteady_error_iff.mpr nofun

/-! ## Values that are read again -/

mutual

theorem isSteady_content (node : Node) (narrow : node.IsNarrow) : IsSteady node.content := by
  cases node with
  | number value direct => exact narrow.1.map _
  | text value => exact IsSteady.map narrow _
  | array items ending =>
      have steady := isSteady_contentItems items narrow
      rw [content]
      split
      next found => exact steady.error found
      next => exact (isSteady_finish ending).map _
  | object members ending =>
      have steady := isSteady_contentMembers members narrow
      rw [content]
      split
      next found => exact steady.error found
      next => exact (isSteady_finish ending).map _
  | wide inner => exact narrow.elim
  | null => exact isSteady_ok _
  | bool value => exact isSteady_ok _
  | broken fault beginning => exact isSteady_error_iff.mpr nofun
  | deep inner => exact isSteady_error_iff.mpr nofun

theorem isSteady_contentItems (items : List Node) (narrow : AreNarrow items) :
    IsSteady (contentItems items) := by
  cases items with
  | nil => exact isSteady_ok _
  | cons item items =>
      have first := isSteady_content item narrow.1
      rw [contentItems]
      split
      next found => exact first.error found
      next => exact (isSteady_contentItems items narrow.2).map _

theorem isSteady_contentMembers (members : List (Key × Node)) (narrow : HaveNarrow members) :
    IsSteady (contentMembers members) := by
  cases members with
  | nil => exact isSteady_ok _
  | cons member members =>
      obtain ⟨key, node⟩ := member
      have first := isSteady_content node narrow.1.2
      unfold contentMembers
      split
      next => exact narrow.1.1.error rfl
      next =>
        split
        next found => exact first.error found
        next => exact (isSteady_contentMembers members narrow.2).map _

end

mutual

/-- A value that has been read once is not wide any more. -/
theorem isNarrow_ofJson (value : Json) : (ofJson value).IsNarrow := by
  cases value with
  | null => trivial
  | bool value => trivial
  | integer value => exact ⟨isSteady_ok _, isSteady_ok _⟩
  | float value => exact ⟨isSteady_ok _, isSteady_ok _⟩
  | text value => exact isSteady_ok _
  | array items => exact areNarrow_ofItems items
  | object members => exact haveNarrow_ofMembers members

theorem areNarrow_ofItems (items : List Json) : AreNarrow (ofItems items) := by
  cases items with
  | nil => trivial
  | cons item items => exact ⟨isNarrow_ofJson item, areNarrow_ofItems items⟩

theorem haveNarrow_ofMembers (members : List (String × Json)) :
    HaveNarrow (ofMembers members) := by
  cases members with
  | nil => trivial
  | cons member members =>
      exact ⟨⟨isSteady_ok _, isNarrow_ofJson member.2⟩, haveNarrow_ofMembers members⟩

end

end Node

namespace Dialect

/-! ## Single values -/

section

variable {α : Type} (dialect : Dialect)

theorem isSteady_notANumber {node : Node} (narrow : node.IsNarrow) :
    IsSteady (.error (notANumber node) : Except DecodeError α) := by
  cases node
  case wide => exact narrow.elim
  all_goals exact isSteady_error_iff.mpr nofun

theorem isSteady_integer (low high : Int) (expected : String) :
    Decoder.IsSteady (dialect.integer low high expected) := by
  intro node narrow
  unfold integer
  split
  next value direct =>
    split
    next => exact narrow.2.map _
    next =>
      split
      next => exact narrow.1.error rfl
      next =>
        split
        · exact isSteady_ok _
        · exact isSteady_error_iff.mpr nofun
      next => exact isSteady_error_iff.mpr nofun
  next =>
    split
    next => exact isSteady_notANumber narrow
    next => exact Node.isSteady_mismatch narrow _

theorem isSteady_uint8 : Decoder.IsSteady dialect.uint8 :=
  fun node narrow => (dialect.isSteady_integer _ _ _ node narrow).map _

theorem isSteady_uint16 : Decoder.IsSteady dialect.uint16 :=
  fun node narrow => (dialect.isSteady_integer _ _ _ node narrow).map _

theorem isSteady_uint32 : Decoder.IsSteady dialect.uint32 :=
  fun node narrow => (dialect.isSteady_integer _ _ _ node narrow).map _

theorem isSteady_uint64 : Decoder.IsSteady dialect.uint64 :=
  fun node narrow => (dialect.isSteady_integer _ _ _ node narrow).map _

theorem isSteady_size : Decoder.IsSteady dialect.size :=
  fun node narrow => (dialect.isSteady_integer _ _ _ node narrow).map _

theorem isSteady_bool : Decoder.IsSteady bool := by
  intro node narrow
  unfold bool
  split
  · exact isSteady_ok _
  · exact Node.isSteady_mismatch narrow _

theorem isSteady_text : Decoder.IsSteady text := by
  intro node narrow
  rw [text, Node.bare_of_isNarrow narrow]
  split
  · exact narrow
  · exact Node.isSteady_mismatch narrow _

theorem isSteady_named (alternatives : List (String × α)) (name : String) :
    IsSteady (named alternatives name) := by
  unfold named
  split
  · exact isSteady_ok _
  · exact isSteady_error_iff.mpr nofun

theorem isSteady_identifier (alternatives : List (String × α)) :
    Decoder.IsSteady (identifier alternatives) := by
  intro node narrow
  rw [identifier, Node.bare_of_isNarrow narrow]
  split
  · exact IsSteady.bind narrow (isSteady_named alternatives)
  · exact Node.isSteady_mismatch narrow _

theorem isSteady_surplus (taken : Nat) (rest : List Node) (ending : Ending) :
    IsSteady (dialect.surplus taken rest ending) := by
  unfold surplus
  split
  · exact isSteady_ok _
  · split
    · exact isSteady_ok _
    · exact isSteady_error_iff.mpr nofun
  · split
    · exact isSteady_ok _
    · exact isSteady_error_iff.mpr nofun
    · exact isSteady_error_iff.mpr nofun

theorem isSteady_choice (alternatives : List (String × α)) :
    Decoder.IsSteady (dialect.choice alternatives) := by
  intro node narrow
  unfold choice
  rw [Node.bare_of_isNarrow narrow]
  split
  next => exact IsSteady.bind narrow (isSteady_named alternatives)
  next members ending =>
    split
    next => exact isSteady_error_iff.mpr nofun
    next => split <;> exact isSteady_error_iff.mpr nofun
    next key value rest =>
      obtain ⟨first, -⟩ := List.forall_mem_cons.mp (Node.isNarrow_object.mp narrow)
      have named := first.1.bind (isSteady_named alternatives)
      split
      next found => exact named.error found
      next =>
        split
        next => exact isSteady_ok _
        next =>
          split
          next => exact (dialect.isSteady_surplus _ _ _).map _
          next => exact Node.isSteady_mismatch first.2 _
  next => split <;> exact isSteady_error_iff.mpr nofun
  next => split <;> exact isSteady_error_iff.mpr nofun

theorem isSteady_skip : Decoder.IsSteady dialect.skip := by
  intro node narrow
  unfold skip
  split
  · split
    · exact isSteady_ok _
    · exact isSteady_error_iff.mpr nofun
  · exact (Node.isSteady_content node narrow).map _
  · exact isSteady_ok _

theorem isSteady_each {decode : Decoder α} (steady : Decoder.IsSteady decode) {nodes : List Node}
    (narrow : ∀ node ∈ nodes, node.IsNarrow) : IsSteady (each decode nodes) := by
  induction nodes with
  | nil => exact isSteady_ok _
  | cons node nodes ih =>
      obtain ⟨first, rest⟩ := List.forall_mem_cons.mp narrow
      rw [each]
      split
      next found => exact (steady node first).error found
      next => exact (ih rest).map _

theorem isSteady_list {decode : Decoder α} (steady : Decoder.IsSteady decode) :
    Decoder.IsSteady (list decode) := by
  intro node narrow
  rw [list, Node.bare_of_isNarrow narrow]
  split
  next items ending =>
    have each := isSteady_each steady (Node.isNarrow_array.mp narrow)
    split
    next found => exact each.error found
    next => exact (isSteady_finish ending).map _
  next => exact Node.isSteady_mismatch narrow _

end

end Dialect

/-! ## Fields -/

/-- Fields that do not break down at values that are not wide, whether they are found by their
names or in their order. -/
structure Fields.IsSteady {α : Type} (fields : Fields α) : Prop where
  checks : ∀ entry ∈ fields.checks, ∀ node : Node, node.IsNarrow →
    InverterBridge.IsSteady (entry.2 node)
  members : ∀ members : String → Option Node,
    (∀ name, ∀ node ∈ members name, node.IsNarrow) →
      InverterBridge.IsSteady (fields.fromMembers members)
  elements : ∀ missing : Nat → DecodeError, (∀ taken, missing taken ≠ .breakdown) →
    ∀ elements : Elements, (∀ node ∈ elements.rest, node.IsNarrow) →
      InverterBridge.IsSteady (fields.fromElements missing elements)
  rest : ∀ missing elements value after,
    fields.fromElements missing elements = .ok (value, after) → after.rest ⊆ elements.rest

namespace Fields

variable {α β : Type}

theorem isSteady_pure (value : α) : IsSteady (pure value : Fields α) where
  checks := List.forall_mem_nil _
  members _ _ := isSteady_ok _
  elements _ _ _ _ := isSteady_ok _
  rest _ _ _ _ found := by
    cases found
    exact List.Subset.refl _

theorem IsSteady.seq {function : Fields (α → β)} {argument : Fields α}
    (first : function.IsSteady) (second : argument.IsSteady) :
    IsSteady (function <*> argument) where
  checks := List.forall_mem_append.mpr ⟨first.checks, second.checks⟩
  members members narrow := by
    have built := first.members members narrow
    change InverterBridge.IsSteady ((apply function fun _ => argument).fromMembers members)
    simp only [apply]
    split
    next found => exact built.error found
    next => exact (second.members members narrow).map _
  elements missing reported elements narrow := by
    have built := first.elements missing reported elements narrow
    change InverterBridge.IsSteady
      ((apply function fun _ => argument).fromElements missing elements)
    simp only [apply]
    split
    next found => exact built.error found
    next build after found =>
      have left := first.rest missing elements build after found
      exact (second.elements missing reported after fun node listed =>
        narrow node (left listed)).map _
  rest missing elements value after found := by
    change (apply function fun _ => argument).fromElements missing elements = _ at found
    simp only [apply] at found
    split at found
    next => cases found
    next build middle built =>
      have left := first.rest missing elements build middle built
      cases read : argument.fromElements missing middle with
      | error cause => simp [read, Except.map] at found
      | ok result =>
          rw [read] at found
          cases found
          exact List.Subset.trans (second.rest missing middle _ _ read) left

theorem IsSteady.map {argument : Fields α} (steady : argument.IsSteady) (build : α → β) :
    IsSteady (build <$> argument) :=
  (isSteady_pure build).seq steady

theorem isSteady_single {name : String} {decode : Decoder α} {absent : Except DecodeError α}
    {short : DecodeError → Except DecodeError α} (decoded : Decoder.IsSteady decode)
    (default : InverterBridge.IsSteady absent)
    (shortened : ∀ cause, cause ≠ .breakdown → InverterBridge.IsSteady (short cause)) :
    IsSteady (single name decode absent short) where
  checks := by
    intro entry listed node narrow
    obtain rfl := List.mem_singleton.mp listed
    exact (decoded node narrow).map _
  members members narrow := by
    simp only [single]
    split
    next node found => exact decoded node (narrow name node found)
    next => exact default
  elements missing reported elements narrow := by
    simp only [single]
    split
    next node rest found =>
      exact (decoded node (narrow node (found ▸ List.mem_cons_self))).map _
    next =>
      split
      next found => exact (isSteady_finish _).error found
      next => exact (shortened _ (reported _)).map _
  rest missing elements value after found := by
    simp only [single] at found
    split at found
    next node rest listed =>
      cases read : decode node with
      | error cause => simp [read, Except.map] at found
      | ok result =>
          rw [read] at found
          cases found
          exact listed ▸ List.subset_cons_self node rest
    next =>
      split at found
      next => cases found
      next =>
        cases read : short (missing elements.taken) with
        | error cause => simp [read, Except.map] at found
        | ok result =>
            rw [read] at found
            cases found
            exact List.Subset.refl _

theorem isSteady_required {name : String} {decode : Decoder α} (decoded : Decoder.IsSteady decode) :
    IsSteady (required name decode) :=
  isSteady_single decoded (isSteady_error_iff.mpr nofun) fun _ => isSteady_error_iff.mpr

theorem isSteady_withDefault {name : String} {decode : Decoder α} {default : α}
    (decoded : Decoder.IsSteady decode) : IsSteady (withDefault name decode default) :=
  isSteady_single decoded (isSteady_ok _) fun _ _ => isSteady_ok _

end Fields

/-! ## Records -/

theorem isNarrow_of_memberNamed {members : List (Key × Node)} {name : String} {node : Node}
    (narrow : ∀ member ∈ members, IsSteady member.1 ∧ member.2.IsNarrow)
    (found : memberNamed members name = some node) : node.IsNarrow := by
  obtain ⟨member, listed, chosen⟩ := List.exists_of_findSome?_eq_some found
  obtain ⟨key, value⟩ := member
  cases key with
  | error cause => cases chosen
  | ok other =>
      dsimp only at chosen
      split at chosen
      · cases chosen
        exact (narrow _ listed).2
      · cases chosen

namespace Dialect

variable {α β : Type} (dialect : Dialect)

theorem isSteady_checkMembers {checks : List (String × (Node → Except DecodeError Unit))}
    {other : Node → Except DecodeError Unit}
    (known : ∀ entry ∈ checks, ∀ node : Node, node.IsNarrow → IsSteady (entry.2 node))
    (unknown : ∀ node : Node, node.IsNarrow → IsSteady (other node)) {members : List (Key × Node)}
    (narrow : ∀ member ∈ members, IsSteady member.1 ∧ member.2.IsNarrow) (seen : List String) :
    IsSteady (checkMembers checks other seen members) := by
  induction members generalizing seen with
  | nil => exact isSteady_ok _
  | cons member members ih =>
      obtain ⟨⟨named, held⟩, rest⟩ := List.forall_mem_cons.mp narrow
      obtain ⟨key, node⟩ := member
      cases key with
      | error cause => exact named.error rfl
      | ok name =>
          simp only [checkMembers]
          split
          next =>
            split
            next found => exact (unknown node held).error found
            next => exact ih rest seen
          next check listed =>
            split
            next => exact isSteady_error_iff.mpr nofun
            next =>
              obtain ⟨before, after, split, -⟩ := List.lookup_eq_some_iff.mp listed
              have steady : IsSteady (check node) :=
                known (name, check) (split ▸ List.mem_append_right _ List.mem_cons_self) node held
              split
              next found => exact steady.error found
              next => exact ih rest (name :: seen)

theorem isSteady_recordOfMembers {fields : Fields α} (steady : fields.IsSteady)
    {members : List (Key × Node)}
    (narrow : ∀ member ∈ members, IsSteady member.1 ∧ member.2.IsNarrow) (ending : Ending) :
    IsSteady (dialect.recordOfMembers fields members ending) := by
  have checked := isSteady_checkMembers steady.checks dialect.isSteady_skip narrow []
  rw [recordOfMembers]
  split
  next found => exact checked.error found
  next =>
    split
    next found => exact (isSteady_finish ending).error found
    next => exact steady.members _ fun _ _ found => isNarrow_of_memberNamed narrow found

theorem isSteady_recordOfElements {fields : Fields α} (steady : fields.IsSteady)
    {items : List Node} (narrow : ∀ item ∈ items, item.IsNarrow) (shape : String)
    (ending : Ending) : IsSteady (dialect.recordOfElements shape fields items ending) := by
  have built := steady.elements (tooFewElements shape fields.count) (fun _ => nofun)
    ⟨items, ending, 0⟩ narrow
  rw [recordOfElements]
  split
  next found => exact built.error found
  next => exact (dialect.isSteady_surplus _ _ _).map _

theorem isSteady_record {fields : Fields α} (steady : fields.IsSteady) (shape : String) :
    Decoder.IsSteady (dialect.record shape fields) := by
  intro node narrow
  rw [record, Node.bare_of_isNarrow narrow]
  split
  next => exact dialect.isSteady_recordOfMembers steady (Node.isNarrow_object.mp narrow) _
  next => exact dialect.isSteady_recordOfElements steady (Node.isNarrow_array.mp narrow) _ _
  next => exact Node.isSteady_mismatch narrow _

theorem isSteady_untag (tag : String) (alternatives : List (String × α))
    {members : List (Key × Node)}
    (narrow : ∀ member ∈ members, IsSteady member.1 ∧ member.2.IsNarrow) (found : Untagged α) :
    IsSteady (untag tag alternatives found members) := by
  induction members generalizing found with
  | nil => exact isSteady_ok _
  | cons member members ih =>
      obtain ⟨⟨named, held⟩, rest⟩ := List.forall_mem_cons.mp narrow
      obtain ⟨key, node⟩ := member
      cases key with
      | error cause => exact named.error rfl
      | ok name =>
          simp only [untag]
          split
          · split
            · exact isSteady_error_iff.mpr nofun
            · split
              next read => exact (isSteady_identifier alternatives node held).error read
              next => exact ih rest _
          · split
            next read => exact (Node.isSteady_content node held).error read
            next => exact ih rest _

theorem isSteady_tagged {alternatives : List (String × α)} {decode : α → Decoder β}
    (steady : ∀ alternative, Decoder.IsSteady (decode alternative)) (shape tag : String) :
    Decoder.IsSteady (tagged shape tag alternatives decode) := by
  intro node narrow
  rw [tagged, Node.bare_of_isNarrow narrow]
  split
  next members ending =>
    have untagged := isSteady_untag tag alternatives (Node.isNarrow_object.mp narrow) ⟨none, []⟩
    split
    next read => exact untagged.error read
    next found _ =>
      split
      next read => exact (isSteady_finish ending).error read
      next =>
        split
        · exact isSteady_error_iff.mpr nofun
        · exact steady _ _ (Node.haveNarrow_ofMembers _)
  next items ending =>
    split
    next =>
      split
      next read => exact (isSteady_finish ending).error read
      next => exact isSteady_error_iff.mpr nofun
    next first rest =>
      obtain ⟨head, others⟩ := List.forall_mem_cons.mp (Node.isNarrow_array.mp narrow)
      split
      next read => exact (isSteady_identifier alternatives first head).error read
      next =>
        split
        next read =>
          exact (Node.isSteady_content _ (Node.isNarrow_array.mpr others)).error read
        next => exact steady _ _ (Node.isNarrow_ofJson _)
  next => exact Node.isSteady_mismatch narrow _

end Dialect

end InverterBridge
