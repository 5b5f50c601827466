import InverterBridge.Proofs.Modbus.Exchanges
import InverterBridge.Proofs.Modbus.Readable
import Mathlib.Data.List.Chain

/-!
# The chain of a device

A check of a device reads the marker and then one header after the other.
`ModelHeader.Chained` says that the models found follow each other without a gap,
each behind its header, and `ModelMap.WellFormed` sums up what is known of the
models of a device that passes the check.  The log of the exchanges says what
has been read for it.
-/

namespace InverterBridge

/-! ## Models in a row -/

namespace ModelHeader

/-- Models follow each other from the header at one address on, up to a header at
another one.  Every model stands behind its header. -/
inductive Chained : Nat → List ModelHeader → Nat → Prop
  | nil (address : Nat) : Chained address [] address
  | cons {header : ModelHeader} {models : List ModelHeader} {address last : Nat}
      (behind : header.address.toNat = address + 2)
      (rest : Chained header.nextAddress models last) : Chained address (header :: models) last

/-- The exchange that reads the header of a model. -/
def exchange (header : ModelHeader) : Exchange :=
  ⟨⟨header.address.toNat - 2, 2⟩, .registers [header.id, header.length]⟩

variable {header : ModelHeader} {models : List ModelHeader} {address last : Nat}

/-- No model of a row stands before the row. -/
theorem Chained.le_address (chained : Chained address models last) :
    ∀ header ∈ models, address + 2 ≤ header.address.toNat := by
  induction chained with
  | nil address => simp
  | @cons header models address last behind rest ih =>
      intro other mem
      rcases List.mem_cons.mp mem with rfl | mem
      · omega
      · have later := ih other mem
        simp only [nextAddress] at later
        omega

theorem Chained.address_head? (chained : Chained address models last) :
    ∀ first ∈ models.head?, first.address.toNat = address + 2 := by
  cases chained with
  | nil => simp
  | cons behind rest => simpa using behind

theorem Chained.getLast?_eq (chained : Chained address models last) :
    ∀ header ∈ models.getLast?, last = header.nextAddress := by
  induction chained with
  | nil => simp
  | @cons header models address last behind rest ih =>
      cases rest with
      | nil => simp
      | cons behind rest => simpa using ih

/-- Every model begins two registers behind the end of the model before it. -/
theorem Chained.isChain (chained : Chained address models last) :
    models.IsChain fun first second =>
      second.address.toNat = first.address.toNat + first.length.toNat + 2 := by
  induction chained with
  | nil address => exact .nil
  | cons behind rest ih =>
      rw [List.isChain_cons]
      exact ⟨rest.address_head?, ih⟩

/-- The data registers of models in a row ascend and have no register in common. -/
theorem Chained.pairwise (chained : Chained address models last) :
    models.Pairwise fun first second =>
      first.address.toNat + first.length.toNat < second.address.toNat := by
  induction chained with
  | nil address => exact .nil
  | cons behind rest ih =>
      refine List.pairwise_cons.mpr ⟨?_, ih⟩
      intro second mem
      have after := rest.le_address second mem
      simp only [nextAddress] at after
      omega

end ModelHeader

/-! ## Following the chain -/

namespace ModbusGateway

variable {δ : Type} (wire : Wire δ) (gateway : ModbusGateway (LoggedLine δ))

/-- A chain that is followed to its end has been read header by header. -/
theorem chained_of_walk {headers address : Nat} {models : List ModelHeader}
    (done : (walk wire.logged headers address gateway).1 = .ok models) :
    ∃ last rest, ModelHeader.Chained address models last ∧
      (∀ header ∈ models, header.id ≠ endModelId) ∧ models.length < headers ∧
      (walk wire.logged headers address gateway).2.line.log =
        gateway.line.log ++ models.map ModelHeader.exchange ++
          [⟨⟨last, 2⟩, .registers [endModelId, rest]⟩] := by
  induction headers generalizing address gateway models with
  | zero => contradiction
  | succ headers ih =>
      unfold walk at done ⊢
      split at done
      next inside =>
        rw [if_pos inside]
        rcases exists_of_andThen_ok done with ⟨registers, read, done⟩
        have logged := log_of_read wire gateway read
        rcases List.length_eq_two.mp (length_of_read read) with ⟨id, length, rfl⟩
        rw [andThen_of_ok read]
        simp only [List.getD_cons_zero, List.getD_cons_succ] at done ⊢
        by_cases ends : id = endModelId
        · rw [if_pos ends] at done ⊢
          cases done
          refine ⟨address, length, .nil address, by simp, Nat.succ_pos _, ?_⟩
          simpa [ends] using logged
        · rw [if_neg ends] at done ⊢
          rcases exists_of_andThen_ok done with ⟨later, walked, done⟩
          cases done
          rcases ih _ walked with ⟨last, rest, chained, others, fewer, loggedLater⟩
          rw [andThen_of_ok walked]
          have behind : (UInt16.ofNat (address + 2)).toNat = address + 2 := by
            simp only [lastHeaderAddress] at inside
            exact UInt16.toNat_ofNat_of_lt (by simp only [UInt16.size]; omega)
          refine ⟨last, rest, .cons behind chained, ?_, Nat.succ_lt_succ fewer, ?_⟩
          · intro header mem
            rcases List.mem_cons.mp mem with rfl | mem
            · exact ends
            · exact others header mem
          · simp only [loggedLater, logged, List.map_cons, ModelHeader.exchange, behind,
              Nat.add_sub_cancel, List.append_assoc, List.cons_append, List.nil_append]
      next => contradiction

/-- What is made of the value of a step does not matter to the gateway. -/
theorem snd_andThen_map {α β ε : Type} {step : GatewayResult α × ModbusGateway ε}
    {make : α → GatewayResult β} :
    (andThen step fun value gateway => (make value, gateway)).2 = step.2 := by
  rcases step with ⟨result, gateway⟩
  cases result <;> rfl

/-- A header is read where there is room behind it. -/
def ReadsHeader (exchange : Exchange) : Prop :=
  exchange.request.count = 2 ∧ exchange.request.address ≤ lastHeaderAddress

/-- However a walk ends, it has read no more headers than it may, and all of them
where a header may stand. -/
theorem exists_log_walk (headers address : Nat) :
    ∃ news, (walk wire.logged headers address gateway).2.line.log = gateway.line.log ++ news ∧
      news.length ≤ headers ∧ ∀ exchange ∈ news, ReadsHeader exchange := by
  induction headers generalizing address gateway with
  | zero => exact ⟨[], by simp [walk]⟩
  | succ headers ih =>
      unfold walk
      split
      next inside =>
        rcases exists_log_read wire gateway address with ⟨first, logged, one, reads⟩
        have header : ∀ exchange ∈ first, ReadsHeader exchange := by
          intro exchange mem
          rw [ReadsHeader, reads exchange mem]
          exact ⟨rfl, inside⟩
        have alone : ∃ news, (gateway.read wire.logged address 2).2.line.log =
            gateway.line.log ++ news ∧ news.length ≤ headers + 1 ∧
              ∀ exchange ∈ news, ReadsHeader exchange :=
          ⟨first, logged, by omega, header⟩
        cases read : (gateway.read wire.logged address 2).1 with
        | error error => rwa [andThen_of_error read]
        | ok registers =>
            rw [andThen_of_ok read]
            simp only
            split
            · exact alone
            · rw [snd_andThen_map]
              rcases ih (gateway.read wire.logged address 2).2 _ with ⟨later, loggedLater, few, rest⟩
              refine ⟨first ++ later, ?_, ?_, ?_⟩
              · rw [loggedLater, logged, List.append_assoc]
              · rw [List.length_append]
                omega
              · intro exchange mem
                exact (List.mem_append.mp mem).elim (header exchange) (rest exchange)
      next => exact ⟨[], by simp⟩

end ModbusGateway

/-! ## Checks -/

namespace ModelMap

/-- What is known of the models of a device that has passed the check, with the marker
at an address `base`. -/
structure WellFormed (base : Nat) (map : ModelMap) : Prop where
  /-- The first model stands behind the marker and its header. -/
  first : ∀ header ∈ map.models.head?, header.address.toNat = base + 4
  /-- The others stand behind the model before them and their header. -/
  following : map.models.IsChain fun first second =>
    second.address.toNat = first.address.toNat + first.length.toNat + 2
  /-- The data registers ascend, and no two models have one in common. -/
  disjoint : map.models.Pairwise fun first second =>
    first.address.toNat + first.length.toNat < second.address.toNat
  /-- None of them ends the chain. -/
  id_ne : ∀ header ∈ map.models, header.id ≠ endModelId
  length_le : map.models.length ≤ maxModels
  /-- There is room for another header behind every model. -/
  inside : ∀ header ∈ map.models,
    header.address.toNat + header.length.toNat ≤ ModbusGateway.lastHeaderAddress
  common : ∃ header ∈ map.models, map.common = .ok header ∧
    commonMinLength ≤ header.length.toNat
  inverter : ∃ header ∈ map.models, ∃ layout, map.inverter = .ok header ∧
    header.layout? = some layout ∧ layout.minLength ≤ header.length.toNat

theorem mem_of_common {map : ModelMap} {header : ModelHeader}
    (found : map.common = .ok header) : header ∈ map.models := by
  unfold common at found
  split at found
  next first search =>
    cases found
    exact List.mem_of_find?_eq_some search
  next => contradiction

/-- An accepted device has an identity model that is long enough. -/
theorem Accepted.exists_common {map : ModelMap} (accepted : map.Accepted) :
    ∃ header, map.common = .ok header ∧ commonMinLength ≤ header.length.toNat := by
  have valid := accepted.valid
  unfold validate checkCommon at valid
  cases found : map.common with
  | error error =>
      rw [found] at valid
      contradiction
  | ok header =>
      rw [found] at valid
      simp only [Except.bind] at valid
      split at valid
      next => contradiction
      next stopped checked =>
        split at checked
        next => contradiction
        next long => exact ⟨header, rfl, Nat.le_of_not_lt long⟩

/-- An accepted device whose chain has been followed. -/
theorem Accepted.wellFormed {map : ModelMap} (accepted : map.Accepted) {base last : Nat}
    (chained : ModelHeader.Chained (base + 2) map.models last)
    (others : ∀ header ∈ map.models, header.id ≠ endModelId)
    (few : map.models.length ≤ maxModels) : map.WellFormed base where
  first := chained.address_head?
  following := chained.isChain
  disjoint := chained.pairwise
  id_ne := others
  length_le := few
  inside := accepted.inside
  common := by
    rcases accepted.exists_common with ⟨header, found, long⟩
    exact ⟨header, mem_of_common found, found, long⟩
  inverter := by
    rcases accepted.exists_inverter with ⟨header, layout, found, known, long⟩
    exact ⟨header, mem_of_inverter found, layout, found, known, long⟩

end ModelMap

namespace ModbusGateway

variable {δ : Type} (wire : Wire δ) (gateway : ModbusGateway (LoggedLine δ))

/-- What a check that succeeds has read, and what it keeps. -/
theorem wellFormed_of_validate (done : (gateway.validate wire.logged).1 = .ok ()) :
    ∃ map last rest, (gateway.validate wire.logged).2.models = some map ∧
      map.WellFormed gateway.device.baseAddress.toNat ∧
      (∀ header ∈ map.models.getLast?, last = header.nextAddress) ∧
      (gateway.validate wire.logged).2.line.log =
        gateway.line.log ++
          (⟨⟨gateway.device.baseAddress.toNat, 2⟩, .registers sunspecMarker⟩ ::
            map.models.map ModelHeader.exchange ++
              [⟨⟨last, 2⟩, .registers [endModelId, rest]⟩]) := by
  unfold validate at done ⊢
  simp only at done ⊢
  rcases exists_of_andThen_ok done with ⟨marker, read, done⟩
  have logged := log_of_read wire gateway read
  rw [andThen_of_ok read]
  split at done
  next isMarker =>
    rw [if_pos isMarker]
    have marked : marker = sunspecMarker := by
      rw [← (isMarker_iff marker).mp isMarker]
      exact (List.take_of_length_le (Nat.le_of_eq (length_of_read read))).symm
    rcases exists_of_andThen_ok done with ⟨models, walked, done⟩
    rcases chained_of_walk wire _ walked with
      ⟨last, rest, chained, others, few, loggedLater⟩
    rw [andThen_of_ok walked]
    cases valid : (ModelMap.mk models).validate with
    | error error => simp [valid] at done
    | ok _ =>
        have accepted : (ModelMap.mk models).Accepted := ⟨valid, nextAddress_le_of_walk walked⟩
        refine ⟨⟨models⟩, last, rest, rfl, ?_, chained.getLast?_eq, ?_⟩
        · exact accepted.wellFormed chained others (Nat.le_of_lt few)
        · simp only [loggedLater, logged, marked, List.append_assoc, List.cons_append,
            List.nil_append]
  next => contradiction

/-- However a check ends, it has read the marker at most once, and no more headers
than it may. -/
theorem exists_log_validate :
    ∃ marker headers,
      (gateway.validate wire.logged).2.line.log = gateway.line.log ++ (marker ++ headers) ∧
      marker.length ≤ 1 ∧
      (∀ exchange ∈ marker, exchange.request = ⟨gateway.device.baseAddress.toNat, 2⟩) ∧
      headers.length ≤ maxModels ∧ ∀ exchange ∈ headers, ReadsHeader exchange := by
  let base := gateway.device.baseAddress.toNat
  let marked := gateway.read wire.logged base 2
  rcases exists_log_read wire gateway base with ⟨marker, logged, one, reads⟩
  have alone : ∃ first headers, marked.2.line.log = gateway.line.log ++ (first ++ headers) ∧
      first.length ≤ 1 ∧ (∀ exchange ∈ first, exchange.request = ⟨base, 2⟩) ∧
      headers.length ≤ maxModels ∧ ∀ exchange ∈ headers, ReadsHeader exchange :=
    ⟨marker, [], by rw [List.append_nil]; exact logged, one, reads, by simp⟩
  unfold validate
  cases read : marked.1 with
  | error error =>
      rw [andThen_of_error read]
      exact alone
  | ok registers =>
      rw [andThen_of_ok read]
      split
      · let followed := walk wire.logged maxModels (base + 2) marked.2
        rcases exists_log_walk wire marked.2 maxModels (base + 2) with
          ⟨headers, loggedLater, few, rest⟩
        have whole : followed.2.line.log = gateway.line.log ++ (marker ++ headers) := by
          rw [loggedLater, logged, List.append_assoc]
        refine ⟨marker, headers, ?_, one, reads, few, rest⟩
        cases found : followed.1 with
        | error error =>
            rw [andThen_of_error found]
            exact whole
        | ok models =>
            rw [andThen_of_ok found]
            split <;> exact whole
      · exact alone

/-! ## Every device -/

/-- Whatever a device answers, a check that succeeds leaves the gateway with a
well-formed chain of models, and every model is read off the two registers before
its data: the exchanges of the check are those of the marker, of one header a
model and of the end of the chain.  A check that fails as well reads no more than
64 headers, and the address of each leaves room for the data behind it, so that it
can be stepped over without an overflow. -/
theorem validate_well_formed (wire : Wire δ) (gateway : ModbusGateway δ) :
    let base := gateway.device.baseAddress.toNat
    let checked := gateway.logged.validate wire.logged
    gateway.validate wire = shown checked ∧
      (checked.1 = .ok () → ∃ map last rest, checked.2.models = some map ∧ map.WellFormed base ∧
        (∀ header ∈ map.models.getLast?, last = header.nextAddress) ∧
        checked.2.line.log =
          ⟨⟨base, 2⟩, .registers sunspecMarker⟩ ::
            map.models.map ModelHeader.exchange ++
              [⟨⟨last, 2⟩, .registers [endModelId, rest]⟩]) ∧
      ∃ marker headers, checked.2.line.log = marker ++ headers ∧ marker.length ≤ 1 ∧
        (∀ exchange ∈ marker, exchange.request = ⟨base, 2⟩) ∧
        headers.length ≤ maxModels ∧
        ∀ exchange ∈ headers, exchange.request.count = 2 ∧
          (UInt16.ofNat exchange.request.address + 2).toNat = exchange.request.address + 2 := by
  intro base checked
  refine ⟨validate_forget wire gateway.logged, ?_, ?_⟩
  · exact wellFormed_of_validate wire gateway.logged
  · rcases exists_log_validate wire gateway.logged with
      ⟨marker, headers, logged, one, reads, few, rest⟩
    refine ⟨marker, headers, logged, one, reads, few, ?_⟩
    intro exchange mem
    rcases rest exchange mem with ⟨two, inside⟩
    refine ⟨two, ?_⟩
    simp only [lastHeaderAddress] at inside
    have fits : (UInt16.ofNat exchange.request.address).toNat = exchange.request.address :=
      UInt16.toNat_ofNat_of_lt (by simp only [UInt16.size]; omega)
    rw [UInt16.toNat_add, fits]
    exact Nat.mod_eq_of_lt (by change exchange.request.address + 2 < 65536; omega)

end ModbusGateway

end InverterBridge
