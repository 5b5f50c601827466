import InverterBridge.Document.Snapshot

/-!
# The events and device documents

The documents of the `events` and `device` channels carry the fields of their
snapshots unchanged.  They are read back under names of their own.
-/

namespace InverterBridge

/-- The document of the `events` channel. -/
structure EventsDocument where
  snapshot : EventSnapshot
  deriving DecidableEq, Repr

namespace EventsDocument

/-- The document of a snapshot. -/
def ofSnapshot (events : EventSnapshot) : EventsDocument :=
  ⟨events⟩

/-- The text of the document. -/
def text (document : EventsDocument) : String :=
  document.snapshot.toJson.render

/-- Read an events document. -/
def decode (dialect : Dialect) : Decoder EventsDocument := fun node =>
  (EventSnapshot.decodeAs "struct EventsDocument" dialect node).map EventsDocument.mk

end EventsDocument

/-- The document of the `device` channel. -/
structure DeviceDocument where
  snapshot : DeviceSnapshot
  deriving DecidableEq, Repr

namespace DeviceDocument

/-- The document of a snapshot. -/
def ofSnapshot (device : DeviceSnapshot) : DeviceDocument :=
  ⟨device⟩

/-- The text of the document. -/
def text (document : DeviceDocument) : String :=
  document.snapshot.toJson.render

/-- Read a device document. -/
def decode (dialect : Dialect) : Decoder DeviceDocument := fun node =>
  (DeviceSnapshot.decodeAs "struct DeviceDocument" dialect node).map DeviceDocument.mk

end DeviceDocument

end InverterBridge
