import InverterBridge.Document.Identity
import InverterBridge.Document.Availability
import InverterBridge.Proofs.Json.Sorted

/-!
# Documents without measurements are read again

The documents of the channels `events`, `device` and `availability` hold texts, integers of a fixed
width, a truth value and names, and lose nothing on the way: what is written is one object with the
members in their order, and reading it gives the document back (`documents_faithful`).  So no two
snapshots have the same text.
-/

namespace InverterBridge

/-! ## Faithful documents -/

/-- A kind of document that is written as one object with the given members, is read again as it
was, and has a text of its own for every value that it is made from. -/
structure IsFaithful {α β : Type} (convert : α → β) (text : β → String)
    (decode : Dialect → Decoder β) (members : α → List (String × Json)) : Prop where
  written : ∀ value,
    (Strict.read (text (convert value))).fault = none ∧
      (Strict.read (text (convert value))).root.content = .ok (.object (members value))
  restored : ∀ value, readStrict decode (text (convert value)) = .ok (convert value)
  apart : Function.Injective fun value => text (convert value)

section

variable {α β : Type} {convert : α → β} {text : β → String} {decode : Dialect → Decoder β}
  {members : α → List (String × Json)} {toJson : α → Json}

/-- A kind of document is faithful if its object holds integers of at most 64 bits, is not nested
too deeply, and is decoded as the document. -/
theorem IsFaithful.of_decode (injective : Function.Injective convert)
    (written : ∀ value, text (convert value) = (toJson value).render)
    (listed : ∀ value, toJson value = .object (members value))
    (integral : ∀ value, (toJson value).isIntegral = true)
    (shallow : ∀ value, (toJson value).levels ≤ readableLevels)
    (decoded : ∀ value, decode .strict (toJson value).presented = .ok (convert value)) :
    IsFaithful convert text decode members := by
  have restored : ∀ value, readStrict decode (text (convert value)) = .ok (convert value) := by
    intro value
    rw [written, Json.readStrict_render _ _ (shallow value), decoded]
  refine ⟨fun value => ?_, restored, fun first second same => injective ?_⟩
  · rw [written, Strict.read_render, ← listed]
    exact ⟨rfl, Json.content_presented _ (integral value)⟩
  -- The text determines the document, and so the value.
  · have same : text (convert first) = text (convert second) := same
    have read := restored first
    rw [same, restored second] at read
    exact (Except.ok.inj read).symm

end

/-! ## Members -/

theorem text_presented (value : String) : Dialect.text (Json.text value).presented = .ok value :=
  rfl

theorem bool_presented (value : Bool) : Dialect.bool (Json.bool value).presented = .ok value :=
  rfl

/-- A name is read as what it stands for. -/
theorem choice_presented {α : Type} {alternatives : List (String × α)} {name : String} {value : α}
    (dialect : Dialect) (found : alternatives.lookup name = some value) :
    dialect.choice alternatives (Json.text name).presented = .ok value := by
  simp [Json.presented, Dialect.choice, Dialect.named, found, Except.bind]

/-- Texts are read in their order. -/
theorem list_text_presented (texts : List String) :
    Dialect.list Dialect.text (Json.array (texts.map Json.text)).presented = .ok texts := by
  rw [Dialect.list_presented_iff, List.forall₂_map_left_iff, List.forall₂_same]
  exact fun text _ => text_presented text

namespace Json

/-- An object holds such integers only if all its members do. -/
theorem isIntegral_object {members : List (String × Json)}
    (integral : ∀ member ∈ members, member.2.isIntegral = true) :
    (object members).isIntegral = true := by
  rw [isIntegral]
  induction members with
  | nil => rfl
  | cons member members ih =>
      obtain ⟨first, rest⟩ := List.forall_mem_cons.mp integral
      rw [haveIntegral, first, ih rest]
      rfl

theorem areIntegral_text (texts : List String) : areIntegral (texts.map text) = true := by
  induction texts with
  | nil => rfl
  | cons text texts ih => exact ih

theorem levelsOfItems_text (texts : List String) : levelsOfItems (texts.map text) ≤ 0 :=
  levelsOfItems_le fun item found => by
    obtain ⟨text, -, rfl⟩ := List.mem_map.mp found
    exact le_refl 0

theorem isIntegral_integer {value : Int} (lower : -2 ^ 63 ≤ value) (upper : value < 2 ^ 64) :
    (integer value).isIntegral = true :=
  decide_eq_true ⟨lower, upper⟩

theorem isIntegral_uint8 (value : UInt8) : (integer value.toNat).isIntegral = true := by
  have small : value.toNat < 256 := value.toNat_lt
  exact isIntegral_integer (by omega) (by omega)

theorem isIntegral_uint16 (value : UInt16) : (integer value.toNat).isIntegral = true := by
  have small : value.toNat < 65536 := value.toNat_lt
  exact isIntegral_integer (by omega) (by omega)

theorem isIntegral_int64 (value : Int64) : (integer value.toInt).isIntegral = true := by
  have upper := value.toInt_lt
  exact isIntegral_integer value.le_toInt (by omega)

end Json

/-! ## Events -/

namespace EventSnapshot

variable (events : EventSnapshot)

theorem isIntegral_toJson : events.toJson.isIntegral = true := by
  refine Json.isIntegral_object ?_
  simp only [List.forall_mem_cons]
  exact ⟨Json.isIntegral_uint16 _, rfl, Json.areIntegral_text _, List.forall_mem_nil _⟩

theorem levels_toJson : events.toJson.levels ≤ readableLevels := by
  have texts := Json.levelsOfItems_text events.events
  simp only [toJson, Json.levels, Json.levelsOfMembers, readableLevels]
  omega

/-- Events are read under any name. -/
theorem decodeAs_presented (shape : String) :
    decodeAs shape .strict events.toJson.presented = .ok events := by
  refine (Dialect.record_presented_iff ?_ ?_ ?_).mpr ?_
  · exact .seq (.seq (.map (.single ..) _) (.single ..)) (.single ..)
  · simp
  · exact List.Subset.refl _
  · simp [Fields.fromMembers_seq_iff, Fields.fromMembers_map_iff, Fields.fromMembers_required_iff,
      List.lookup, uint16_presented, text_presented, list_text_presented]

end EventSnapshot

namespace EventsDocument

variable (events : EventSnapshot)

theorem text_ofSnapshot : (ofSnapshot events).text = events.toJson.render :=
  rfl

theorem decode_presented : decode .strict events.toJson.presented = .ok (ofSnapshot events) := by
  rw [decode, events.decodeAs_presented]
  rfl

end EventsDocument

/-! ## Devices -/

namespace DeviceSnapshot

variable (device : DeviceSnapshot)

theorem isIntegral_toJson : device.toJson.isIntegral = true := by
  refine Json.isIntegral_object ?_
  simp only [List.forall_mem_cons]
  exact ⟨rfl, rfl, rfl, rfl, Json.isIntegral_uint16 _, rfl, Json.isIntegral_uint8 _,
    Json.isIntegral_uint8 _, rfl, Json.isIntegral_uint16 _, List.forall_mem_nil _⟩

theorem levels_toJson : device.toJson.levels ≤ readableLevels := by
  simp only [toJson, Json.levels, Json.levelsOfMembers, readableLevels]
  omega

/-- The identity of a device is read under any name. -/
theorem decodeAs_presented (shape : String) :
    decodeAs shape .strict device.toJson.presented = .ok device := by
  refine (Dialect.record_presented_iff ?_ ?_ ?_).mpr ?_
  · exact .seq (.seq (.seq (.seq (.seq (.seq (.seq (.seq (.seq (.map (.single ..) _) (.single ..))
      (.single ..)) (.single ..)) (.single ..)) (.single ..)) (.single ..)) (.single ..))
      (.single ..)) (.single ..)
  · simp
  · exact List.Subset.refl _
  · have model : RegisterModel.decode .strict (Json.text device.registerModel.name).presented =
        .ok device.registerModel := choice_presented _ (RegisterModel.lookup_name _)
    simp only [Fields.fromMembers_seq_iff, Fields.fromMembers_map_iff,
      Fields.fromMembers_required_iff, List.lookup, BEq.rfl, String.reduceBEq, Option.map_some,
      Option.some.injEq, Except.ok.injEq, ↓existsAndEq, and_true, true_and, uint8_presented,
      uint16_presented, text_presented, bool_presented, model]

end DeviceSnapshot

namespace DeviceDocument

variable (device : DeviceSnapshot)

theorem text_ofSnapshot : (ofSnapshot device).text = device.toJson.render :=
  rfl

theorem decode_presented : decode .strict device.toJson.presented = .ok (ofSnapshot device) := by
  rw [decode, device.decodeAs_presented]
  rfl

end DeviceDocument

/-! ## Availability -/

namespace AvailabilityDocument

variable (status : Availability) (time : Int64)

theorem isIntegral_toJson : (mk status time.toInt).toJson.isIntegral = true := by
  refine Json.isIntegral_object ?_
  simp only [List.forall_mem_cons]
  exact ⟨rfl, Json.isIntegral_int64 _, List.forall_mem_nil _⟩

theorem levels_toJson : (mk status time.toInt).toJson.levels ≤ readableLevels := by
  simp only [toJson, Json.levels, Json.levelsOfMembers, readableLevels]
  omega

/-- An availability is read with its time. -/
theorem decode_presented :
    decode .strict (mk status time.toInt).toJson.presented = .ok (mk status time.toInt) := by
  refine (Dialect.record_presented_iff ?_ ?_ ?_).mpr ?_
  · exact .seq (.map (.single ..) _) (.single ..)
  · simp
  · exact List.Subset.refl _
  · simp [Fields.fromMembers_seq_iff, Fields.fromMembers_map_iff, Fields.fromMembers_required_iff,
      List.lookup, int64_presented, choice_presented _ (Availability.lookup_name status)]

/-- The change and its time are told from the document. -/
theorem ofChange_injective : Function.Injective fun change : Bool × Int64 =>
    AvailabilityDocument.mk (.ofOnline change.1) change.2.toInt := by
  rintro ⟨online, time⟩ ⟨other, moment⟩ same
  obtain ⟨status, times⟩ := AvailabilityDocument.mk.inj same
  have times : time = moment := Int64.toInt_inj.mp times
  cases online <;> cases other <;> simp_all [Availability.ofOnline]

end AvailabilityDocument

/-! ## The three kinds -/

/-- **Documents without measurements lose nothing.**  Each of the three kinds is written as one
object with these members in this order, is read again as it was, and has a text of its own for
every value that it is made from. -/
theorem documents_faithful :
    IsFaithful EventsDocument.ofSnapshot EventsDocument.text EventsDocument.decode
        (fun events => [
          ("active_code", .integer events.activeCode.toNat),
          ("state", .text events.state),
          ("events", .array (events.events.map Json.text))]) ∧
      IsFaithful DeviceDocument.ofSnapshot DeviceDocument.text DeviceDocument.decode
        (fun device => [
          ("manufacturer", .text device.manufacturer),
          ("model", .text device.model),
          ("serial", .text device.serial),
          ("firmware", .text device.firmware),
          ("inverter_id", .integer device.inverterModel.toNat),
          ("register_model", .text (if device.registerModel = .float then "float" else "int+sf")),
          ("phases", .integer device.phases.toNat),
          ("inputs", .integer device.inputs.toNat),
          ("hybrid", .bool device.hybrid),
          ("modbus_address", .integer device.modbusAddress.toNat)]) ∧
      IsFaithful (fun change : Bool × Int64 => ⟨.ofOnline change.1, change.2.toInt⟩)
        AvailabilityDocument.text AvailabilityDocument.decode
        (fun change => [
          ("status", .text (if change.1 then "online" else "offline")),
          ("time", .integer change.2.toInt)]) := by
  refine ⟨?events, ?device, ?availability⟩
  case events =>
    exact .of_decode (fun _ _ same => congrArg EventsDocument.snapshot same)
      EventsDocument.text_ofSnapshot (fun _ => rfl) EventSnapshot.isIntegral_toJson
      EventSnapshot.levels_toJson EventsDocument.decode_presented
  case device =>
    refine .of_decode (fun _ _ same => congrArg DeviceDocument.snapshot same)
      DeviceDocument.text_ofSnapshot (fun device => ?_) DeviceSnapshot.isIntegral_toJson
      DeviceSnapshot.levels_toJson DeviceDocument.decode_presented
    rw [DeviceSnapshot.toJson]
    cases device.registerModel <;> rfl
  case availability =>
    refine .of_decode AvailabilityDocument.ofChange_injective (fun _ => rfl) (fun change => ?_)
      (fun _ => AvailabilityDocument.isIntegral_toJson _ _)
      (fun _ => AvailabilityDocument.levels_toJson _ _)
      fun _ => AvailabilityDocument.decode_presented _ _
    obtain ⟨online, time⟩ := change
    cases online <;> rfl

end InverterBridge
