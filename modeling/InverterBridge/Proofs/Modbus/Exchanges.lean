import InverterBridge.Proofs.Modbus.Acceptance

/-!
# Exchanges over a link

`Wire.logged` is a wire with a log of the exchanges over it, the request and
what came back.  The gateway cannot tell the difference: it checks a device over
the logged wire exactly as it does over the wire itself
(`ModbusGateway.validate_forget`).
-/

namespace InverterBridge

/-- A request and what came back. -/
structure Exchange where
  request : ReadRequest
  reply : ReadReply
  deriving DecidableEq, Repr

/-- The other side of a link with the exchanges so far, oldest first. -/
structure LoggedLine (δ : Type) where
  line : δ
  log : List Exchange

variable {δ α β : Type}

/-- The wire with a log. -/
def Wire.logged (wire : Wire δ) : Wire (LoggedLine δ) where
  openLink := fun connection logged =>
    let (result, line) := wire.openLink connection logged.line
    (result, { logged with line := line })
  send := fun unit request logged =>
    let (reply, line) := wire.send unit request logged.line
    (reply, ⟨line, logged.log ++ [⟨request, reply⟩]⟩)

@[simp]
theorem Wire.fst_send_logged (wire : Wire δ) (unit : UInt8) (request : ReadRequest)
    (logged : LoggedLine δ) :
    (wire.logged.send unit request logged).1 = (wire.send unit request logged.line).1 :=
  rfl

@[simp]
theorem Wire.line_send_logged (wire : Wire δ) (unit : UInt8) (request : ReadRequest)
    (logged : LoggedLine δ) :
    (wire.logged.send unit request logged).2.line = (wire.send unit request logged.line).2 :=
  rfl

theorem readPieces_logged (wire : Wire δ) (unit : UInt8) (timeout : Duration) (start : Nat)
    (requests : List ReadRequest) (logged : LoggedLine δ) :
    readPieces (wire.send unit) timeout start requests logged.line =
      ((readPieces (wire.logged.send unit) timeout start requests logged).1,
        (readPieces (wire.logged.send unit) timeout start requests logged).2.line) := by
  induction requests generalizing logged with
  | nil => rfl
  | cons request requests ih =>
      by_cases inside : request.address < addressBound
      · have later := ih (wire.logged.send unit request logged).2
        rw [Wire.line_send_logged] at later
        simp only [readPieces, inside, if_true, Wire.fst_send_logged, later]
        cases request.accept timeout (wire.send unit request logged.line).1 <;> rfl
      · simp only [readPieces, inside, if_false]

/-- Only registers are accepted. -/
theorem ReadRequest.eq_registers_of_accept {request : ReadRequest} {timeout : Duration}
    {reply : ReadReply} {values : List UInt16}
    (accepted : request.accept timeout reply = .ok values) : reply = .registers values := by
  cases reply with
  | registers replied =>
      simp only [accept] at accepted
      split at accepted <;> cases accepted
      rfl
  | _ => contradiction

namespace ModbusGateway

/-- The gateway with an empty log of its exchanges. -/
def logged (gateway : ModbusGateway δ) : ModbusGateway (LoggedLine δ) :=
  { gateway with line := ⟨gateway.line, []⟩ }

/-- The gateway without the log of its exchanges. -/
def forget (gateway : ModbusGateway (LoggedLine δ)) : ModbusGateway δ :=
  { gateway with line := gateway.line.line }

/-- What a step over the logged wire comes to without the log. -/
def shown (step : GatewayResult α × ModbusGateway (LoggedLine δ)) :
    GatewayResult α × ModbusGateway δ :=
  (step.1, step.2.forget)

variable (wire : Wire δ) (gateway : ModbusGateway (LoggedLine δ))

/-! ## Without the log -/

theorem andThen_shown {step : GatewayResult α × ModbusGateway (LoggedLine δ)}
    {next : α → ModbusGateway (LoggedLine δ) → GatewayResult β × ModbusGateway (LoggedLine δ)}
    {nextShown : α → ModbusGateway δ → GatewayResult β × ModbusGateway δ}
    (shows : ∀ value gateway, nextShown value gateway.forget = shown (next value gateway)) :
    andThen (shown step) nextShown = shown (andThen step next) := by
  rcases step with ⟨result, gateway⟩
  cases result with
  | error error => rfl
  | ok value => exact shows value gateway

theorem read_forget (address count : Nat) :
    gateway.forget.read wire address count = shown (gateway.read wire.logged address count) := by
  have pieces := readPieces_logged wire gateway.device.unitId gateway.device.timeout address
    (ReadRequest.pieces address count) gateway.line
  simp only [read, forget, pieces]
  split
  · rfl
  · split <;> rfl

theorem walk_forget (headers address : Nat) :
    walk wire headers address gateway.forget =
      shown (walk wire.logged headers address gateway) := by
  induction headers generalizing address gateway with
  | zero => rfl
  | succ headers ih =>
      unfold walk
      split
      · rw [read_forget]
        apply andThen_shown
        intro registers gateway
        simp only
        split
        · rfl
        · rw [ih]
          exact andThen_shown fun models gateway => rfl
      · rfl

/-- A check of the device comes to the same without the log. -/
theorem validate_forget :
    gateway.forget.validate wire = shown (gateway.validate wire.logged) := by
  simp only [validate, read_forget]
  apply andThen_shown
  intro marker gateway
  split
  · rw [walk_forget]
    apply andThen_shown
    intro models gateway
    split <;> rfl
  · rfl

/-! ## The log of a reading -/

/-- Two registers are read over a link that is up with one request. -/
theorem read_two (address : Nat) (gateway : ModbusGateway δ) :
    gateway.read wire address 2 =
      if gateway.supervisor.shuttingDown then (.error .shuttingDown, gateway)
      else if gateway.supervisor.linked then
        if address < addressBound then
          let (reply, line) := wire.send gateway.device.unitId ⟨address, 2⟩ gateway.line
          (ReadRequest.accept ⟨address, 2⟩ gateway.device.timeout reply,
            { gateway with line := line })
        else (.error (beyondRegisters address 0), gateway)
      else (.error (.transient .notConnected), gateway) := by
  have one : ReadRequest.pieces address 2 = [⟨address, 2⟩] :=
    ReadRequest.pieces_of_le (by decide) (by decide)
  unfold read
  split
  · rfl
  · split
    · rw [one]
      by_cases inside : address < addressBound
      · simp only [readPieces, inside, if_true]
        cases ReadRequest.accept ⟨address, 2⟩ gateway.device.timeout
            (wire.send gateway.device.unitId ⟨address, 2⟩ gateway.line).1 with
        | error error => rfl
        | ok values => simp [Except.map]
      · simp only [readPieces, inside, if_false, Nat.sub_self]
    · rfl

/-- A header that is read leaves its exchange in the log. -/
theorem log_of_read {address : Nat} {registers : List UInt16}
    (done : (gateway.read wire.logged address 2).1 = .ok registers) :
    (gateway.read wire.logged address 2).2.line.log =
      gateway.line.log ++ [⟨⟨address, 2⟩, .registers registers⟩] := by
  rw [read_two] at done ⊢
  split at done
  · contradiction
  next running =>
    split at done
    next linked =>
      split at done
      next inside =>
        rw [if_neg running, if_pos linked, if_pos inside]
        have replied := ReadRequest.eq_registers_of_accept done
        simp only [Wire.logged] at replied ⊢
        rw [replied]
      next => contradiction
    next => contradiction

/-- Two registers are read with one request at most. -/
theorem exists_log_read (address : Nat) :
    ∃ news, (gateway.read wire.logged address 2).2.line.log = gateway.line.log ++ news ∧
      news.length ≤ 1 ∧ ∀ exchange ∈ news, exchange.request = ⟨address, 2⟩ := by
  have nothing : ∃ news : List Exchange, gateway.line.log = gateway.line.log ++ news ∧
      news.length ≤ 1 ∧ ∀ exchange ∈ news, exchange.request = ⟨address, 2⟩ :=
    ⟨[], by simp⟩
  rw [read_two]
  split
  · exact nothing
  · split
    · split
      · exact ⟨[_], rfl, Nat.le_refl 1, by simp⟩
      · exact nothing
    · exact nothing

end ModbusGateway

end InverterBridge
