import InverterBridge.Modbus.Gateway
import InverterBridge.Proofs.RegisterMap.Measurements
import Mathlib.Data.Nat.BitIndices

/-!
# Events by their bits

The active events are the bits of a field of two registers.  A name stands for one bit only, be
it a standard name or one that is made of the number of the bit (`eventName_injective`), so the
field can be read back from its names (`fieldOfNames_eventNames`).  The bits of the field are those
of the second register, and after them those of the first one, sixteen places up
(`bitIndices_joinRegisters`).
-/

namespace InverterBridge

/-! ## Names -/

theorem natText_injective : Function.Injective natText := by
  intro first second same
  have digits : Nat.toDigits 10 first = Nat.toDigits 10 second := String.ofList_injective same
  rw [← Nat.ofDigitChars_ten_toDigits (n := first), digits, Nat.ofDigitChars_ten_toDigits]

theorem eventName_of_lt {bit : Nat} (standard : bit < standardEvents.length) :
    eventName bit = standardEvents[bit] := by
  simp [eventName, standard]

theorem eventName_of_le {bit : Nat} (beyond : standardEvents.length ≤ bit) :
    eventName bit = "EVENT_" ++ natText bit := by
  simp [eventName, beyond]

theorem nodup_standardEvents : standardEvents.Nodup := by
  decide

/-- No standard name begins as the names do that are made of a number. -/
theorem numbered_not_mem_standardEvents (number : Nat) :
    "EVENT_" ++ natText number ∉ standardEvents := by
  have others : ∀ name ∈ standardEvents, name.toList.take 6 ≠ "EVENT_".toList := by decide
  intro standard
  apply others _ standard
  simp

theorem eventName_injective : Function.Injective eventName := by
  intro first second same
  rcases Nat.lt_or_ge first standardEvents.length with low | high <;>
    rcases Nat.lt_or_ge second standardEvents.length with lower | higher
  · rw [eventName_of_lt low, eventName_of_lt lower] at same
    exact (nodup_standardEvents.getElem_inj_iff).mp same
  · rw [eventName_of_lt low, eventName_of_le higher] at same
    exact absurd (same ▸ List.getElem_mem low) (numbered_not_mem_standardEvents second)
  · rw [eventName_of_le high, eventName_of_lt lower] at same
    exact absurd (same ▸ List.getElem_mem lower) (numbered_not_mem_standardEvents first)
  · rw [eventName_of_le high, eventName_of_le higher] at same
    exact natText_injective (String.append_right_inj _ |>.mp same)

/-! ## Bits -/

theorem testBit_eq_false {field : UInt32} {bit : Nat} (beyond : 32 ≤ bit) :
    field.toNat.testBit bit = false :=
  Nat.testBit_lt_two_pow (field.toNat_lt.trans_le (Nat.pow_le_pow_right (by decide) beyond))

theorem setBits_eq (field : UInt32) : setBits field = field.toNat.bitIndices := by
  apply List.SortedLT.eq_of_mem_iff
  · exact (List.pairwise_lt_range.filter _).sortedLT
  · exact Nat.bitIndices_sorted
  · intro bit
    rw [mem_setBits_iff, Nat.mem_bitIndices]
    constructor
    · exact And.right
    · intro set
      refine ⟨Nat.lt_of_not_le fun beyond => ?_, set⟩
      rw [testBit_eq_false beyond] at set
      contradiction

theorem cpopNatRec_eq_countP {width : Nat} (bits : BitVec width) (places : Nat) :
    bits.cpopNatRec places 0 = (List.range places).countP bits.getLsbD := by
  induction places with
  | zero => rfl
  | succ places ih =>
      rw [BitVec.cpopNatRec_succ, BitVec.cpopNatRec_add, ih, List.range_succ, List.countP_append,
        List.countP_singleton]
      cases bits.getLsbD places <;> simp

/-- There are as many set bits as the population count says. -/
theorem length_setBits (field : UInt32) :
    (setBits field).length = field.toBitVec.cpop.toNat := by
  rw [BitVec.toNat_cpop, cpopNatRec_eq_countP, List.countP_eq_length_filter]
  rfl

/-- The bits of two numbers that are put side by side, the second one below `2 ^ width`. -/
theorem bitIndices_two_pow_mul_add {low width : Nat} (high : Nat) (below : low < 2 ^ width) :
    (2 ^ width * high + low).bitIndices =
      low.bitIndices ++ high.bitIndices.map (· + width) := by
  have sorted : (low.bitIndices ++ high.bitIndices.map (· + width)).SortedLT := by
    apply List.Pairwise.sortedLT
    rw [List.pairwise_append, List.pairwise_map]
    refine ⟨Nat.bitIndices_sorted.pairwise, ?_, ?_⟩
    · exact Nat.bitIndices_sorted.pairwise.imp fun less => Nat.add_lt_add_right less width
    · intro bit placed moved mem
      obtain ⟨upper, -, rfl⟩ := List.mem_map.mp mem
      have inside : 2 ^ bit < 2 ^ width :=
        (Nat.two_pow_le_of_mem_bitIndices placed).trans_lt below
      have less : bit < width := (Nat.pow_lt_pow_iff_right (by decide)).mp inside
      exact less.trans_le (Nat.le_add_left width upper)
  -- a sorted list of exponents is determined by the sum of its powers
  have sum : ((low.bitIndices ++ high.bitIndices.map (· + width)).map (2 ^ ·)).sum =
      2 ^ width * high + low := by
    rw [← Nat.bitIndices_two_pow_mul, List.map_append, List.sum_append,
      Nat.sum_map_two_pow_bitIndices, Nat.sum_map_two_pow_bitIndices, Nat.add_comm]
  rw [← sum, Nat.bitIndices_sum_map_two_pow sorted]

theorem bitIndices_joinRegisters (first second : UInt16) :
    (joinRegisters first second).toNat.bitIndices =
      second.toNat.bitIndices ++ first.toNat.bitIndices.map (· + 16) := by
  rw [toNat_joinRegisters, Nat.mul_comm]
  exact bitIndices_two_pow_mul_add first.toNat second.toNat_lt

/-- Two registers mark the events as not implemented when both of them have all bits. -/
theorem joinRegisters_eq_unimplementedBits_iff (first second : UInt16) :
    joinRegisters first second = unimplementedBits ↔ first = 0xFFFF ∧ second = 0xFFFF := by
  have lower := second.toNat_lt
  have upper := first.toNat_lt
  rw [← UInt32.toNat_inj, ← UInt16.toNat_inj, ← UInt16.toNat_inj, toNat_joinRegisters]
  simp only [unimplementedBits, UInt32.reduceToNat, UInt16.reduceToNat]
  omega

/-! ## Reading the names back -/

/-- The field of the events that have been named. -/
def fieldOfNames (names : List String) : UInt32 :=
  .ofNat (((List.range 32).filter (eventName · ∈ names)).map (2 ^ ·)).sum

theorem eventNames_eq (field : UInt32) :
    eventNames field = field.toNat.bitIndices.map eventName := by
  rw [eventNames, setBits_eq]

theorem nodup_eventNames (field : UInt32) : (eventNames field).Nodup := by
  rw [eventNames_eq]
  exact Nat.bitIndices_nodup.map eventName_injective

theorem fieldOfNames_eventNames (field : UInt32) : fieldOfNames (eventNames field) = field := by
  have named : (List.range 32).filter (eventName · ∈ eventNames field) = setBits field := by
    apply List.filter_congr
    intro bit inside
    rw [eventNames, Bool.eq_iff_iff, decide_eq_true_iff,
      List.mem_map_of_injective eventName_injective, mem_setBits_iff]
    exact and_iff_right (List.mem_range.mp inside)
  rw [fieldOfNames, named, setBits_eq, Nat.sum_map_two_pow_bitIndices, UInt32.ofNat_toNat]

/-! ## The events of a block -/

/-- The bits of the events of a block, by its two registers. -/
theorem InverterBlock.eventBits_eq (block : InverterBlock) :
    block.eventBits.map eventNames =
      let first := block.register block.layout.eventOffset
      let second := block.register (block.layout.eventOffset + 1)
      if first = 0xFFFF ∧ second = 0xFFFF then .error (.notImplemented "events")
      else
        .ok ((second.toNat.bitIndices ++ first.toNat.bitIndices.map (· + 16)).map eventName) := by
  simp only [eventBits, pair, joinRegisters_eq_unimplementedBits_iff]
  split
  · rfl
  · rw [Except.map, eventNames_eq, bitIndices_joinRegisters]

/-- The active events are named one for one, without repetition and in ascending order of their
bits, and the field can be read back from the names.  A block of the inverter names the bits of its
two event registers, the second register before the first, unless both of them have all bits. -/
theorem ModbusGateway.events_named_by_bits {δ : Type} (wire : Wire δ) :
    (∀ field : UInt32,
      eventNames field = field.toNat.bitIndices.map eventName ∧
        (eventNames field).length = field.toBitVec.cpop.toNat ∧ (eventNames field).Nodup ∧
        fieldOfNames (eventNames field) = field) ∧
    Function.Injective eventNames ∧
    ∀ (model : UInt16) (registers : List UInt16) (block : InverterBlock),
      InverterBlock.ofRegisters model registers = .ok block →
      ∃ first second,
        registers[block.layout.eventOffset]? = some first ∧
        registers[block.layout.eventOffset + 1]? = some second ∧
        ∀ gateway : ModbusGateway δ, gateway.supervisor.shuttingDown = false →
          gateway.cache.inverter = some block →
          (gateway.ask wire .events).1 =
            if first = 0xFFFF ∧ second = 0xFFFF then .error (.notImplemented "events")
            else .ok ((second.toNat.bitIndices ++
              first.toNat.bitIndices.map (· + 16)).map eventName) := by
  refine ⟨?_, ?_, ?_⟩
  · intro field
    refine ⟨eventNames_eq field, ?_, nodup_eventNames field, fieldOfNames_eventNames field⟩
    rw [length_eventNames, length_setBits]
  · exact Function.LeftInverse.injective fieldOfNames_eventNames
  · intro model registers block accepted
    obtain ⟨-, rfl⟩ := InverterBlock.ofRegisters_eq_ok_iff.mp accepted
    have needed := block.layout.eventOffset_add_two
    refine ⟨_, _, block.getElem?_registers (by omega), block.getElem?_registers (by omega), ?_⟩
    intro gateway running cached
    simp only [ask, ofInverter, ofBlock, checkRunning, running, cached, Bool.false_eq_true,
      if_false, Except.bind]
    exact block.eventBits_eq

/-- With the highest bit of the first register and the lowest one of the second the first and the
last event are active. -/
theorem ModbusGateway.first_and_last_event_named :
    let registers : List UInt16 := List.replicate 38 0 ++ [0x8000, 0x0001]
    let block : InverterBlock := ⟨103, .scaledInteger, registers, by decide, by decide⟩
    let gateway : ModbusGateway Unit :=
      { initial ⟨"inverter", .tcp "localhost" 502, 1, 40000, 1000, .default⟩ () with
        cache := { RegisterCache.empty with inverter := some block } }
    InverterBlock.ofRegisters 103 registers = .ok block ∧
      (gateway.ask ⟨fun _ line => (.ok (), line), fun _ _ line => (.silence, line)⟩ .events).1 =
        .ok ["GROUND_FAULT", "EVENT_31"] := by
  intro registers block gateway
  have accepted : InverterBlock.ofRegisters 103 registers = .ok block := by decide
  obtain ⟨first, second, high, low, answer⟩ :=
    (events_named_by_bits ⟨fun _ line => (.ok (), line), fun _ _ line => (.silence, line)⟩).2.2
      103 registers block accepted
  obtain rfl : 0x8000 = first := Option.some.inj high
  obtain rfl : 0x0001 = second := Option.some.inj low
  refine ⟨accepted, (answer gateway rfl rfl).trans ?_⟩
  have highest : (0x8000 : UInt16).toNat.bitIndices = [15] := Nat.bitIndices_two_pow 15
  have lowest : (0x0001 : UInt16).toNat.bitIndices = [0] := Nat.bitIndices_one
  rw [highest, lowest]
  decide

end InverterBridge
