import InverterBridge.Gateway.Error

/-!
# Read requests

Holding registers are read in requests of at most 125 registers.  A longer run
of registers is cut into pieces, and the first piece that does not come back
whole ends the reading.
-/

namespace InverterBridge

/-- The most registers a request may ask for. -/
def maxRead : Nat := 125

/-- The number of register addresses. -/
def addressBound : Nat := 65536

/-- A request for registers in a row. -/
structure ReadRequest where
  address : Nat
  count : Nat
  deriving DecidableEq, Repr

/-- What comes back for a request. -/
inductive ReadReply where
  | registers (values : List UInt16)
  /-- The device refuses with an exception code. -/
  | exception (code : UInt8)
  /-- The link fails. -/
  | failure (message : String)
  /-- Nothing comes back in time. -/
  | silence
  deriving DecidableEq, Repr

/-- The name of an exception code. -/
def exceptionName (code : UInt8) : String :=
  match code.toNat with
  | 1 => "IllegalFunction"
  | 2 => "IllegalDataAddress"
  | 3 => "IllegalDataValue"
  | 4 => "ServerDeviceFailure"
  | 5 => "Acknowledge"
  | 6 => "ServerDeviceBusy"
  | 8 => "MemoryParityError"
  | 10 => "GatewayPathUnavailable"
  | 11 => "GatewayTargetDevice"
  | other => "Custom(" ++ natText other ++ ")"

namespace ReadRequest

/-- The pieces of a run of registers, in order. -/
def pieces (address count : Nat) : List ReadRequest :=
  (List.range ((count + (maxRead - 1)) / maxRead)).map fun piece =>
    ⟨address + piece * maxRead, min maxRead (count - piece * maxRead)⟩

theorem pieces_zero (address : Nat) : pieces address 0 = [] := by
  simp [pieces, maxRead]

theorem pieces_of_le {address count : Nat} (positive : 0 < count) (short : count ≤ maxRead) :
    pieces address count = [⟨address, count⟩] := by
  have one : (count + (maxRead - 1)) / maxRead = 1 := by
    simp only [maxRead] at short ⊢
    omega
  simp [pieces, one, List.range_succ, Nat.min_eq_right short]

/-- The registers of a reply, if the reply is whole. -/
def accept (request : ReadRequest) (timeout : Duration) : ReadReply → GatewayResult (List UInt16)
  | .silence => .error (.transient (.timeout timeout))
  | .failure message => .error (.transient (.read request.address request.count message))
  | .exception code => .error (.transient (.exception request.address (exceptionName code)))
  | .registers values =>
      if values.length = request.count then .ok values
      else
        .error (.transient (.read request.address request.count
          ("device returned " ++ natText values.length ++ " registers")))

theorem length_of_accept {request : ReadRequest} {timeout : Duration} {reply : ReadReply}
    {values : List UInt16} (accepted : request.accept timeout reply = .ok values) :
    values.length = request.count := by
  cases reply with
  | registers replied =>
      simp only [accept] at accepted
      split at accepted
      · rename_i whole
        injection accepted with same
        exact same ▸ whole
      · simp at accepted
  | exception code => simp [accept] at accepted
  | failure message => simp [accept] at accepted
  | silence => simp [accept] at accepted

end ReadRequest

/-- The error of a register beyond the last address. -/
def beyondRegisters (address offset : Nat) : GatewayError :=
  .transient (.outOfRange ("register " ++ natText address ++ " + " ++ natText offset))

/-- Read pieces of a run that begins at `start`, with a state `δ` of the other
side that every request may change. -/
def readPieces {δ : Type} (send : ReadRequest → δ → ReadReply × δ) (timeout : Duration)
    (start : Nat) : List ReadRequest → δ → GatewayResult (List UInt16) × δ
  | [], line => (.ok [], line)
  | request :: requests, line =>
      if request.address < addressBound then
        let (reply, line) := send request line
        match request.accept timeout reply with
        | .error error => (.error error, line)
        | .ok values =>
            let (rest, line) := readPieces send timeout start requests line
            (rest.map (values ++ ·), line)
      else (.error (beyondRegisters start (request.address - start)), line)

@[simp]
theorem readPieces_nil {δ : Type} (send : ReadRequest → δ → ReadReply × δ)
    (timeout : Duration) (start : Nat) (line : δ) :
    readPieces send timeout start [] line = (.ok [], line) :=
  rfl

end InverterBridge
