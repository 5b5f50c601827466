import InverterBridge.Json.Access
import InverterBridge.Modbus.Gateway

/-!
# A register server

A device for trying out gateways: its registers and its faults are laid down in
advance, and the requests it gets are recorded.  The network may let no
connection through at all.
-/

namespace InverterBridge

/-- What a server does instead of answering properly. -/
inductive ServerFault where
  | exception (code : UInt8)
  /-- Answer with another number of registers. -/
  | count (count : Nat)
  | silence
  deriving DecidableEq, Repr

/-- A server with registers.  Of several entries for an address the first one
counts; the requests are in reverse order. -/
structure RegisterServer where
  reachable : Bool
  memory : List (Nat × Option UInt16)
  /-- The faults by the address at which a request begins. -/
  faults : List (Nat × ServerFault)
  requests : List (UInt8 × ReadRequest)
  deriving DecidableEq, Repr

namespace RegisterServer

/-- A server without registers. -/
def empty (reachable : Bool) : RegisterServer :=
  ⟨reachable, [], [], []⟩

/-- The register of an address. -/
def register? (server : RegisterServer) (address : Nat) : Option UInt16 :=
  (server.memory.lookup address).join

/-- Write registers in a row. -/
def write (server : RegisterServer) (address : Nat) (values : List UInt16) : RegisterServer :=
  { server with
    memory := (values.mapIdx fun index value => (address + index, some value)) ++ server.memory }

/-- Remove registers in a row. -/
def unmap (server : RegisterServer) (address count : Nat) : RegisterServer :=
  { server with
    memory := ((List.range count).map fun index => (address + index, none)) ++ server.memory }

/-- Lay down a fault. -/
def fail (server : RegisterServer) (address : Nat) (fault : ServerFault) : RegisterServer :=
  { server with faults := (address, fault) :: server.faults }

/-- The registers of a request, as far as all of them are there. -/
def registers? (server : RegisterServer) (request : ReadRequest) : Option (List UInt16) :=
  (List.range request.count).mapM fun index => server.register? (request.address + index)

/-- Answer a request. -/
def reply (server : RegisterServer) (request : ReadRequest) : ReadReply :=
  match server.faults.lookup request.address with
  | some (.exception code) => .exception code
  | some (.count count) =>
      .registers ((List.range count).map fun index =>
        (server.register? (request.address + index)).getD 0)
  | some .silence => .silence
  | none =>
      match server.registers? request with
      | some values => .registers values
      | none => .exception 2

/-- Answer a request and record it. -/
def send (unit : UInt8) (request : ReadRequest) (server : RegisterServer) :
    ReadReply × RegisterServer :=
  (server.reply request, { server with requests := (unit, request) :: server.requests })

/-- Open a link: a host name holds no zero character, and there are no serial
lines. -/
def openLink (connection : ConnectionConfig) (server : RegisterServer) :
    Except LinkFailure Unit × RegisterServer :=
  match connection with
  | .tcp host _ =>
      if host.toList.contains (Char.ofNat 0) then
        (.error (.unusableHost "file name contained an unexpected NUL byte"), server)
      else if server.reachable then (.ok (), server)
      else (.error (.refused "Connection refused (os error 111)"), server)
  | .rtu _ => (.error (.serial "No such file or directory"), server)

/-- The server at the other side of a link. -/
def wire : Wire RegisterServer where
  openLink := openLink
  send := send

/-- The requests since they were last taken, oldest first. -/
def takeRequests (server : RegisterServer) : List (UInt8 × ReadRequest) × RegisterServer :=
  (server.requests.reverse, { server with requests := [] })

/-! ## Instructions -/

/-- The fault of a description. -/
def faultOf (description : Json) : ServerFault :=
  match (description.member "kind").asText with
  | "exception" => .exception (description.member "code").asByte
  | "count" => .count (description.member "count").asNat
  | _ => .silence

/-- Write a block: an address with the registers from there on. -/
def writeBlock (server : RegisterServer) (block : Json) : RegisterServer :=
  match block.items with
  | [address, values] => server.write address.asNat values.asRegisters
  | _ => server

/-- Write the blocks and lay down the faults of an instruction. -/
def follow (server : RegisterServer) (instruction : Json) : RegisterServer :=
  (instruction.member "faults").items.foldl
    (fun server description => server.fail (description.member "at").asNat (faultOf description))
    ((instruction.member "memory").items.foldl writeBlock server)

end RegisterServer

end InverterBridge
