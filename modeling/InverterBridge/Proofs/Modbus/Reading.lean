import InverterBridge.Modbus.Gateway
import Mathlib.Algebra.Ring.Nat

/-!
# Reading a run of registers

A run of registers is read in pieces.  The pieces cover the run, so a reading
that succeeds gives as many registers as were asked for, and it succeeds when
every request is answered in full and the run lies in the register space.
Reading changes nothing of a gateway but the other side of its link.
-/

namespace InverterBridge

variable {δ : Type}

/-! ## Pieces -/

namespace ReadRequest

/-- The first blocks of a run cover the run or are all full. -/
theorem sum_blocks (count blocks : Nat) :
    ((List.range blocks).map fun block => min maxRead (count - block * maxRead)).sum =
      min (blocks * maxRead) count := by
  induction blocks with
  | zero => simp
  | succ blocks ih =>
      rw [List.range_succ, List.map_append, List.sum_append, ih]
      simp only [maxRead, List.map_cons, List.map_nil, List.sum_cons, List.sum_nil]
      omega

/-- The pieces of a run ask for the registers of the run. -/
theorem sum_count_pieces (address count : Nat) :
    ((pieces address count).map ReadRequest.count).sum = count := by
  have blocks := sum_blocks count ((count + (maxRead - 1)) / maxRead)
  rw [pieces, List.map_map]
  apply blocks.trans
  simp only [maxRead]
  omega

/-- No piece begins behind the run. -/
theorem address_lt_of_mem_pieces {address count : Nat} {request : ReadRequest}
    (mem : request ∈ pieces address count) : request.address < address + count := by
  simp only [pieces, List.mem_map, List.mem_range] at mem
  rcases mem with ⟨piece, inside, rfl⟩
  simp only [maxRead] at inside ⊢
  omega

end ReadRequest

/-! ## Replies -/

/-- Every request in a row is answered in full. -/
def AllAnswered (send : ReadRequest → δ → ReadReply × δ) : List ReadRequest → δ → Prop
  | [], _ => True
  | request :: requests, line =>
      (∃ values, (send request line).1 = .registers values ∧ values.length = request.count) ∧
        AllAnswered send requests (send request line).2

theorem ReadRequest.accept_registers {request : ReadRequest} {values : List UInt16}
    (whole : values.length = request.count) (timeout : Duration) :
    request.accept timeout (.registers values) = .ok values := by
  rw [accept, if_pos whole]

/-- A reading that succeeds gives the registers of all its requests. -/
theorem length_of_readPieces {send : ReadRequest → δ → ReadReply × δ} {timeout : Duration}
    {start : Nat} {requests : List ReadRequest} {line : δ} {registers : List UInt16}
    (done : (readPieces send timeout start requests line).1 = .ok registers) :
    registers.length = (requests.map ReadRequest.count).sum := by
  induction requests generalizing line registers with
  | nil =>
      cases done
      rfl
  | cons request requests ih =>
      unfold readPieces at done
      split at done
      · simp only at done
        split at done
        · contradiction
        next values accepted =>
          simp only at done
          cases rest : (readPieces send timeout start requests (send request line).2).1 with
          | error error =>
              rw [rest] at done
              contradiction
          | ok later =>
              rw [rest] at done
              cases done
              simp [ReadRequest.length_of_accept accepted, ih rest]
      · contradiction

/-- Requests that are answered in full are read. -/
theorem readPieces_of_allAnswered {send : ReadRequest → δ → ReadReply × δ}
    {requests : List ReadRequest} {line : δ} (answered : AllAnswered send requests line)
    (inside : ∀ request ∈ requests, request.address < addressBound) (timeout : Duration)
    (start : Nat) :
    ∃ registers, (readPieces send timeout start requests line).1 = .ok registers := by
  induction requests generalizing line with
  | nil => exact ⟨[], rfl⟩
  | cons request requests ih =>
      rcases answered with ⟨⟨values, replied, whole⟩, later⟩
      have insideLater : ∀ request ∈ requests, request.address < addressBound :=
        fun request mem => inside request (List.mem_cons_of_mem _ mem)
      rcases ih later insideLater with ⟨registers, rest⟩
      refine ⟨values ++ registers, ?_⟩
      unfold readPieces
      rw [if_pos (inside request List.mem_cons_self)]
      simp only [replied, ReadRequest.accept_registers whole, rest]
      rfl

/-! ## Reading over a link -/

namespace ModbusGateway

/-- The requests of a run of registers are answered in full, over a link that is up. -/
structure Answered (wire : Wire δ) (address count : Nat) (gateway : ModbusGateway δ) : Prop where
  running : gateway.supervisor.shuttingDown = false
  linked : gateway.supervisor.linked = true
  requests : AllAnswered (wire.send gateway.device.unitId)
    (ReadRequest.pieces address count) gateway.line

/-- Reading changes the other side of the link alone. -/
theorem read_eq (wire : Wire δ) (address count : Nat) (gateway : ModbusGateway δ) :
    (gateway.read wire address count).2 =
      { gateway with line := (gateway.read wire address count).2.line } := by
  unfold read
  split
  · rfl
  · split <;> rfl

@[simp]
theorem cache_read (wire : Wire δ) (address count : Nat) (gateway : ModbusGateway δ) :
    (gateway.read wire address count).2.cache = gateway.cache := by
  rw [read_eq]

theorem length_of_read {wire : Wire δ} {address count : Nat} {gateway : ModbusGateway δ}
    {registers : List UInt16} (done : (gateway.read wire address count).1 = .ok registers) :
    registers.length = count := by
  unfold read at done
  split at done
  · contradiction
  · split at done
    · rw [length_of_readPieces done, ReadRequest.sum_count_pieces]
    · contradiction

/-- A run inside the register space is read when its requests are answered. -/
theorem read_of_answered {wire : Wire δ} {address count : Nat} {gateway : ModbusGateway δ}
    (answered : gateway.Answered wire address count) (inside : address + count ≤ addressBound) :
    ∃ registers, (gateway.read wire address count).1 = .ok registers := by
  have insidePieces : ∀ request ∈ ReadRequest.pieces address count,
      request.address < addressBound := by
    intro request mem
    have := ReadRequest.address_lt_of_mem_pieces mem
    omega
  obtain ⟨registers, done⟩ :=
    readPieces_of_allAnswered answered.requests insidePieces gateway.device.timeout address
  refine ⟨registers, ?_⟩
  unfold read
  rw [if_neg (by simp [answered.running]), if_pos answered.linked]
  exact done

end ModbusGateway

end InverterBridge
