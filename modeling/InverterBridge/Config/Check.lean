import InverterBridge.Config.Bridge

/-!
# What a configuration has to satisfy

A text may have the right shape and still ask for something impossible.  The
checks are made in a fixed order, and the first one that fails is reported.
-/

namespace InverterBridge

/-- What is wrong with a configuration of the right shape. -/
inductive ConfigFault where
  | zeroCapacity
  | deviceName (fault : NameFault)
  | unitId (device : String)
  | zeroTimeout (device : String)
  | zeroInterval
  | reconnectDelay (device : String)
  | emptyHost (device : String)
  | parity (device word : String)
  | dataBits (device : String)
  | stopBits (device : String)
  deriving DecidableEq, Repr

namespace ConfigFault

/-- A complaint about a device. -/
def aboutDevice (device complaint : String) : String :=
  "Device '" ++ device ++ "': " ++ complaint

/-- The fault in words. -/
def message : ConfigFault → String
  | .zeroCapacity => "queue capacity must be at least 1"
  | .deviceName fault => "Device name: Invalid key expression: " ++ fault.message
  | .unitId device => aboutDevice device "unit_id must be 1-247"
  | .zeroTimeout device => aboutDevice device "timeout_ms must be greater than 0"
  | .zeroInterval => "update_interval_secs must be at least 1"
  | .reconnectDelay device =>
      aboutDevice device "reconnect delay must satisfy 1 <= min_secs <= max_secs"
  | .emptyHost device => aboutDevice device "TCP host cannot be empty"
  | .parity device word =>
      aboutDevice device ("invalid parity '" ++ word ++ "' (use none, even, or odd)")
  | .dataBits device => aboutDevice device "data_bits must be 5-8"
  | .stopBits device => aboutDevice device "stop_bits must be 1 or 2"

end ConfigFault

/-- A check that fails with a fault unless a condition holds. -/
def demand (condition : Bool) (fault : ConfigFault) : Except ConfigFault Unit :=
  if condition then .ok () else .error fault

@[simp]
theorem demand_eq_ok_iff {condition : Bool} {fault : ConfigFault} :
    demand condition fault = .ok () ↔ condition = true := by
  cases condition <;> simp [demand]

/-- Check the settings of the queues. -/
def QueueConfig.check (config : QueueConfig) : Except ConfigFault Unit :=
  demand (config.capacity != 0) .zeroCapacity

/-- The parities of a serial line. -/
def parities : List String :=
  ["none", "even", "odd"]

/-- Whether a word names a parity.

Capital letters count as small ones; only ASCII letters have the letters of
these words as their small forms. -/
def isParity (word : String) : Bool :=
  parities.contains (String.ofList (word.toList.map Char.toLower))

namespace ConnectionConfig

/-- Check where a device is. -/
def check (device : String) : ConnectionConfig → Except ConfigFault Unit
  | .tcp host _ => demand (!host.isEmpty) (.emptyHost device)
  | .rtu line => do
      demand (isParity line.parity) (.parity device line.parity)
      demand (5 ≤ line.dataBits.toNat && line.dataBits.toNat ≤ 8) (.dataBits device)
      demand (line.stopBits == 1 || line.stopBits == 2) (.stopBits device)

end ConnectionConfig

namespace BridgeConfig

/-- Check what is polled. -/
def checkPoll (config : PollConfig) : Except ConfigFault Unit := do
  let device := config.device
  (checkDeviceName device.name).mapError ConfigFault.deviceName
  demand (1 ≤ device.unitId.toNat && device.unitId.toNat ≤ 247) (.unitId device.name)
  demand (device.timeoutMilliseconds != 0) (.zeroTimeout device.name)
  demand (config.intervalSeconds != 0) .zeroInterval
  demand (device.reconnect.minSeconds != 0 &&
      device.reconnect.minSeconds.toNat ≤ device.reconnect.maxSeconds.toNat)
    (.reconnectDelay device.name)
  device.connection.check device.name

/-- Check a configuration, the queues first. -/
def check (config : BridgeConfig) : Except ConfigFault Unit := do
  config.poll.queue.check
  checkPoll config.poll

end BridgeConfig

end InverterBridge
