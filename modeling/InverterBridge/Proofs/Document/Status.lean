import InverterBridge.Proofs.Json.Sorted
import InverterBridge.Status

/-!
# Which statuses are read back

The metadata of a status share an object with its own members.  A status that is put together from
the operations of the bridge (`BridgeStatus.Built`) keeps its metadata sorted, so its text is read
back as the status itself unless a key of the metadata is the name of an own member; then that key
stands twice in the text and is refused (`BridgeStatus.read_back_iff`).
-/

namespace InverterBridge

/-- The keys of an object in the order of its text. -/
def Node.keys : Node → List String
  | .object members _ => members.filterMap fun member => member.1.toOption
  | _ => []

theorem Json.keys_presented (members : List (String × Json)) :
    (Json.object members).presented.keys = members.map Prod.fst := by
  rw [Json.presented, Json.presentedMembers_eq_keyed, Node.keys, keyed, List.map_map,
    List.filterMap_map]
  exact congrFun (List.filterMap_eq_map (f := Prod.fst)) members

namespace Dialect

variable {checks : List (String × (Node → Except DecodeError Unit))}
  {other : Node → Except DecodeError Unit} {seen : List String} {rest : List (String × Node)}

/-- Members without a check are passed over if `other` lets them pass. -/
theorem checkMembers_append_of_unknown {members : List (String × Node)}
    (unknown : ∀ member ∈ members, checks.lookup member.1 = none)
    (passes : ∀ member ∈ members, other member.2 = .ok ()) :
    checkMembers checks other seen (keyed (members ++ rest)) =
      checkMembers checks other seen (keyed rest) := by
  induction members with
  | nil => rfl
  | cons member members ih =>
      rw [List.forall_mem_cons] at unknown passes
      rw [← ih unknown.2 passes.2]
      simp only [keyed, List.cons_append, List.map_cons, checkMembers, unknown.1, passes.1]

/-- A member that is checked for the second time is refused. -/
theorem checkMembers_of_seen {name : String} {node : Node}
    {check : Node → Except DecodeError Unit} (known : checks.lookup name = some check)
    (repeated : name ∈ seen) :
    checkMembers checks other seen (keyed ((name, node) :: rest)) =
      .error (.duplicateField name) := by
  simp only [keyed, List.map_cons, checkMembers, known, if_pos repeated]

end Dialect

namespace BridgeStatus

/-! ## The statuses of the bridge -/

/-- The statuses that can be put together. -/
inductive Built : BridgeStatus → Prop
  | running (bridge version : String) : Built (running bridge version)
  | offline (bridge version : String) : Built (offline bridge version)
  | error (bridge version reason : String) : Built (error bridge version reason)
  | withMetadata {status : BridgeStatus} (built : Built status) (value : Json) :
      Built (status.withMetadata value)
  | withField {status : BridgeStatus} (built : Built status) (key : String) (value : Json) :
      Built (status.withField key value)

/-- The metadata are sorted by key, and so are the objects in them. -/
structure IsSorted (status : BridgeStatus) : Prop where
  ascending : Json.Ascending status.metadata
  sorted : ∀ member ∈ status.metadata, member.2.sorted = member.2

variable {status : BridgeStatus}

theorem isSorted_ofState (bridge version : String) (state : BridgeState) :
    (ofState bridge version state).IsSorted :=
  ⟨Json.ascending_nil, nofun⟩

theorem IsSorted.withField (normal : status.IsSorted) (key : String) (value : Json) :
    (status.withField key value).IsSorted where
  ascending := normal.ascending.insertMember key value.sorted
  sorted := Json.forall_mem_insertMember (Json.sorted_sorted value) normal.sorted

theorem IsSorted.withMetadata (normal : status.IsSorted) (value : Json) :
    (status.withMetadata value).IsSorted := by
  rw [BridgeStatus.withMetadata]
  split
  next members found =>
    exact ⟨normal.ascending.insertMembers members,
      Json.forall_mem_insertMembers (Json.sorted_of_mem found) normal.sorted⟩
  next => exact normal

theorem Built.isSorted (built : status.Built) : status.IsSorted := by
  induction built with
  | running bridge version => exact isSorted_ofState bridge version .running
  | offline bridge version => exact isSorted_ofState bridge version .offline
  | error bridge version reason => exact (isSorted_ofState bridge version .error).withField _ _
  | withMetadata _ value ih => exact ih.withMetadata value
  | withField _ key value ih => exact ih.withField key value

/-! ## The members of a status -/

/-- The members that every status has. -/
def ownMembers (status : BridgeStatus) : List (String × Json) :=
  [("bridge", .text status.bridge), ("version", .text status.version),
    ("status", .text status.state.name)]

theorem toJson_eq (status : BridgeStatus) :
    status.toJson = .object (status.ownMembers ++ status.metadata) :=
  rfl

theorem keys_ownMembers (status : BridgeStatus) :
    status.ownMembers.map Prod.fst = fixedMembers :=
  rfl

/-- How the own members are read. -/
def ownFields (dialect : Dialect) : Fields (String × String × BridgeState) :=
  (fun bridge version state => (bridge, version, state))
    <$> Fields.required "bridge" Dialect.text
    <*> Fields.required "version" Dialect.text
    <*> Fields.required "status" (dialect.choice BridgeState.alternatives)

/-- How the members of a status are looked at in the order of the text. -/
def checkStatus (dialect : Dialect) (seen : List String) (members : List (String × Json)) :
    Except DecodeError Unit :=
  Dialect.checkMembers (ownFields dialect).checks (fun node => node.content.map fun _ => ()) seen
    (Json.presentedMembers members)

section

variable {dialect : Dialect} {members rest : List (String × Json)}

theorem lookup_eq_none {key : String} (free : key ∉ fixedMembers) :
    (ownFields dialect).checks.lookup key = none := by
  rw [List.lookup_eq_none_iff]
  intro entry listed
  have same : entry.1 ∈ fixedMembers := List.mem_map_of_mem (f := Prod.fst) listed
  exact bne_iff_ne.mpr fun equal => free (equal ▸ same)

theorem exists_lookup (dialect : Dialect) {key : String} (fixed : key ∈ fixedMembers) :
    ∃ check, (ownFields dialect).checks.lookup key = some check := by
  refine Option.isSome_iff_exists.mp (List.lookup_isSome_iff.mpr ?_)
  obtain ⟨entry, listed, same⟩ := List.mem_map.mp
    (show key ∈ (ownFields dialect).checks.map Prod.fst from fixed)
  exact ⟨entry, listed, by simpa using same.symm⟩

/-- The own members pass and have been seen from then on. -/
theorem checkStatus_ownMembers (status : BridgeStatus) :
    checkStatus dialect [] (status.ownMembers ++ rest) =
      checkStatus dialect fixedMembers.reverse rest := by
  obtain ⟨bridge, version, state, metadata⟩ := status
  cases state <;> rfl

/-- Members of other names are passed over. -/
theorem checkStatus_append {seen : List String}
    (free : ∀ member ∈ members, member.1 ∉ fixedMembers)
    (integral : ∀ member ∈ members, member.2.isIntegral = true) :
    checkStatus dialect seen (members ++ rest) = checkStatus dialect seen rest := by
  rw [checkStatus, checkStatus, Json.presentedMembers_eq_keyed, List.map_append,
    Json.presentedMembers_eq_keyed]
  apply Dialect.checkMembers_append_of_unknown
  · simp only [List.forall_mem_map]
    exact fun member listed => lookup_eq_none (free member listed)
  · simp only [List.forall_mem_map]
    intro member listed
    rw [Json.content_presented member.2 (integral member listed)]
    rfl

theorem decode_of_refused {cause : DecodeError}
    (refused : checkStatus dialect [] members = .error cause) :
    decode dialect (Json.object members).presented = .error cause := by
  rw [checkStatus] at refused
  rw [Json.presented, decode]
  exact congrArg (· >>= _) refused

theorem decode_of_read {bridge version : String} {state : BridgeState}
    {metadata : List (String × Json)} (passed : checkStatus dialect [] members = .ok ())
    (own : (ownFields dialect).fromMembers (memberNamed (Json.presentedMembers members)) =
      .ok (bridge, version, state))
    (others : metadataOf (Json.presentedMembers members) = .ok metadata) :
    decode dialect (Json.object members).presented =
      .ok ⟨bridge, version, state, Json.insertMembers [] metadata⟩ := by
  rw [checkStatus, ownFields] at passed
  rw [ownFields] at own
  simp only [Json.presented, decode, passed, own, others]
  rfl

/-- The own members are read whatever follows them. -/
theorem fromMembers_ownMembers (status : BridgeStatus) :
    (ownFields dialect).fromMembers
        (memberNamed (Json.presentedMembers (status.ownMembers ++ rest))) =
      .ok (status.bridge, status.version, status.state) := by
  obtain ⟨bridge, version, state, metadata⟩ := status
  cases state <;> rfl

theorem metadataOf_ownMembers (status : BridgeStatus) :
    metadataOf (Json.presentedMembers (status.ownMembers ++ rest)) =
      metadataOf (Json.presentedMembers rest) :=
  rfl

/-- Members of other names are the metadata. -/
theorem metadataOf_presented (free : ∀ member ∈ members, member.1 ∉ fixedMembers)
    (integral : ∀ member ∈ members, member.2.isIntegral = true)
    (sorted : ∀ member ∈ members, member.2.sorted = member.2) :
    metadataOf (Json.presentedMembers members) = .ok members := by
  induction members with
  | nil => rfl
  | cons member members ih =>
      rw [List.forall_mem_cons] at free integral sorted
      simp only [Json.presentedMembers, metadataOf, if_neg free.1,
        Json.content_presented member.2 integral.1, sorted.1, ih free.2 integral.2 sorted.2]
      rfl

end

/-! ## Reading a status back -/

/-- A status without a key of the own members in its metadata is restored. -/
theorem decode_of_free (normal : status.IsSorted)
    (free : ∀ member ∈ status.metadata, member.1 ∉ fixedMembers)
    (integral : ∀ member ∈ status.metadata, member.2.isIntegral = true) :
    decode .strict status.toJson.presented = .ok status := by
  rw [toJson_eq, decode_of_read ?passed (fromMembers_ownMembers status)
    ((metadataOf_ownMembers status).trans (metadataOf_presented free integral normal.sorted)),
    Json.insertMembers_nil_of_ascending normal.ascending]
  case passed =>
    rw [checkStatus_ownMembers, ← List.append_nil status.metadata,
      checkStatus_append free integral]
    rfl

/-- The first key of an own member among the metadata is refused. -/
theorem exists_refused (integral : ∀ member ∈ status.metadata, member.2.isIntegral = true)
    {key : String} (listed : key ∈ status.metadata.map Prod.fst) (fixed : key ∈ fixedMembers) :
    ∃ name ∈ fixedMembers, name ∈ status.metadata.map Prod.fst ∧
      decode .strict status.toJson.presented = .error (.duplicateField name) := by
  obtain ⟨member, found, rfl⟩ := List.mem_map.mp listed
  have exists_fixed :
      (status.metadata.find? fun member => decide (member.1 ∈ fixedMembers)).isSome = true :=
    List.find?_isSome.mpr ⟨member, found, decide_eq_true fixed⟩
  obtain ⟨⟨name, value⟩, first⟩ := Option.isSome_iff_exists.mp exists_fixed
  obtain ⟨own, before, after, split, free⟩ := List.find?_eq_some_iff_append.mp first
  have own : name ∈ fixedMembers := of_decide_eq_true own
  have free : ∀ member ∈ before, member.1 ∉ fixedMembers := fun member earlier => by
    simpa using free member earlier
  rw [split] at integral ⊢
  have passed : ∀ member ∈ before, member.2.isIntegral = true := fun member earlier =>
    integral member (List.mem_append_left _ earlier)
  obtain ⟨check, known⟩ := exists_lookup .strict own
  refine ⟨name, own, List.mem_map_of_mem (f := Prod.fst) List.mem_append_cons_self, ?_⟩
  rw [toJson_eq, split, decode_of_refused]
  rw [checkStatus_ownMembers, checkStatus_append free passed, checkStatus,
    Json.presentedMembers_eq_keyed]
  exact Dialect.checkMembers_of_seen known (List.mem_reverse.mpr own)

/-- A key of the own members that is in the metadata stands twice in the text. -/
theorem count_keys_of_fixed (normal : status.IsSorted) {key : String}
    (listed : key ∈ status.metadata.map Prod.fst) (fixed : key ∈ fixedMembers) :
    status.toJson.presented.keys.count key = 2 := by
  have once : fixedMembers.Nodup := by decide
  rw [toJson_eq, Json.keys_presented, List.map_append, keys_ownMembers, List.count_append,
    List.count_eq_one_of_mem once fixed,
    List.count_eq_one_of_mem normal.ascending.nodup_keys listed]

theorem levels_toJson (shallow : ∀ member ∈ status.metadata, member.2.levels < readableLevels) :
    status.toJson.levels ≤ readableLevels := by
  have metadata : Json.levelsOfMembers status.metadata ≤ 126 :=
    Json.levelsOfMembers_le fun member listed => Nat.le_of_lt_succ (shallow member listed)
  simp only [toJson_eq, ownMembers, List.cons_append, List.nil_append, Json.levels,
    Json.levelsOfMembers, readableLevels]
  omega

/-- **A status is read back unless its metadata have a key of its own members.** Put a status
together in any way from values without floating-point numbers that are not nested too deeply.  Its
text is read back as the status itself exactly if no key of the metadata is the name of an own
member.  Such a key stands twice in the text, and the text is refused for it or for another one. -/
theorem read_back_iff (built : status.Built)
    (integral : ∀ member ∈ status.metadata, member.2.isIntegral = true)
    (shallow : ∀ member ∈ status.metadata, member.2.levels < readableLevels) :
    (readStrict decode status.text = .ok status ↔
        ∀ key ∈ status.metadata.map Prod.fst, key ∉ fixedMembers) ∧
      ∀ key ∈ status.metadata.map Prod.fst, key ∈ fixedMembers →
        (Strict.read status.text).root.keys.count key = 2 ∧
        ∃ name ∈ fixedMembers, name ∈ status.metadata.map Prod.fst ∧
          readStrict decode status.text = .error (.duplicateField name) := by
  have normal := built.isSorted
  rw [text, Json.readStrict_render _ _ (levels_toJson shallow), Strict.read_render]
  refine ⟨⟨fun restored key listed fixed => ?_, fun free => ?_⟩, fun key listed fixed => ?_⟩
  · obtain ⟨name, -, -, refused⟩ := exists_refused integral listed fixed
    rw [restored] at refused
    cases refused
  · exact decode_of_free normal
      (fun member listed => free member.1 (List.mem_map_of_mem listed)) integral
  · exact ⟨count_keys_of_fixed normal listed fixed, exists_refused integral listed fixed⟩

/-- The status of a bridge that reads one inverter every five seconds. -/
def ofOneInverter : BridgeStatus :=
  (running "sunspec" "0.1.0").withMetadata
    (.object [("update_interval_secs", .integer 5), ("devices", .array [.text "inverter01"])])

/-- It is read back, but not with a member of its metadata that is named like its state. -/
theorem read_back_ofOneInverter :
    readStrict decode ofOneInverter.text = .ok ofOneInverter ∧
      (Strict.read (ofOneInverter.withField "status" .null).text).root.keys.count "status" = 2 ∧
      readStrict decode (ofOneInverter.withField "status" .null).text =
        .error (.duplicateField "status") := by
  have built : ofOneInverter.Built := (Built.running _ _).withMetadata _
  have restored := (read_back_iff built (by decide) (by decide)).1.mpr (by decide)
  obtain ⟨twice, name, own, listed, refused⟩ :=
    (read_back_iff (built.withField "status" .null) (by decide) (by decide)).2 "status"
      (by decide) (by decide)
  have only : ∀ name ∈ fixedMembers,
      name ∈ (ofOneInverter.withField "status" .null).metadata.map Prod.fst →
        name = "status" := by
    decide
  obtain rfl := only name own listed
  exact ⟨restored, twice, refused⟩

end BridgeStatus

end InverterBridge
