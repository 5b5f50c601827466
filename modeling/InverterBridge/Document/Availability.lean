import InverterBridge.Json.Printer
import InverterBridge.Json.Record

/-!
# The availability document

Whether a device is online is published at every change, with the time of the
change in milliseconds since the epoch.
-/

namespace InverterBridge

/-- Whether a device can be read. -/
inductive Availability where
  | online
  | offline
  deriving DecidableEq, Repr

namespace Availability

/-- The availability of a device that is or is not online. -/
def ofOnline (online : Bool) : Availability :=
  if online then .online else .offline

/-- The name of an availability. -/
def name : Availability → String
  | .online => "online"
  | .offline => "offline"

/-- The availabilities by their names. -/
def alternatives : List (String × Availability) :=
  [("online", .online), ("offline", .offline)]

@[simp]
theorem lookup_name (availability : Availability) :
    alternatives.lookup availability.name = some availability := by
  cases availability <;> rfl

end Availability

/-- The document of the `availability` channel. -/
structure AvailabilityDocument where
  status : Availability
  time : Int
  deriving DecidableEq, Repr

namespace AvailabilityDocument

/-- The document as a JSON value. -/
def toJson (document : AvailabilityDocument) : Json :=
  .object [("status", .text document.status.name), ("time", .integer document.time)]

/-- The text of the document. -/
def text (document : AvailabilityDocument) : String :=
  document.toJson.render

/-- Read an availability document. -/
def decode (dialect : Dialect) : Decoder AvailabilityDocument :=
  dialect.record "struct AvailabilityDocument"
    (AvailabilityDocument.mk
      <$> Fields.required "status" (dialect.choice Availability.alternatives)
      <*> Fields.required "time" dialect.int64)

end AvailabilityDocument

end InverterBridge
