import InverterBridge.Json.Record

/-!
# Document channels

Every device has four channels.  A document belongs to exactly one of them,
and the channel is the last chunk of the key under which it is published.
-/

namespace InverterBridge

/-- A channel of a device. -/
inductive Channel where
  /-- Measurements, one document a poll. -/
  | values
  /-- Operating state and active events. -/
  | events
  /-- Identity, once a connection. -/
  | device
  /-- Changes between online and offline. -/
  | availability
  deriving DecidableEq, Repr

namespace Channel

/-- All channels in the order in which a poll serves them. -/
def all : List Channel :=
  [.device, .values, .events, .availability]

/-- The name of a channel in keys. -/
def name : Channel → String
  | .values => "values"
  | .events => "events"
  | .device => "device"
  | .availability => "availability"

theorem name_injective {first second : Channel} (same : first.name = second.name) :
    first = second := by
  cases first <;> cases second <;> first | rfl | exact absurd same (by decide)

/-- The channels by their names. -/
def alternatives : List (String × Channel) :=
  [("values", .values), ("events", .events), ("device", .device),
    ("availability", .availability)]

/-- Read a channel. -/
def decode (dialect : Dialect) : Decoder Channel :=
  dialect.choice alternatives

end Channel

end InverterBridge
