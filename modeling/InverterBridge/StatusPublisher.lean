import InverterBridge.Queue.Basic
import InverterBridge.Status

/-!
# Publishing the status

The status goes straight to the sink and not through a queue, so that the last
document is attempted even after the drain tasks have ended.
-/

namespace InverterBridge

/-- Who publishes a status, and where. -/
structure StatusPublisher where
  key : String
  bridge : String
  version : String
  deriving DecidableEq, Repr

namespace StatusPublisher

/-- The message of a status. -/
def message (publisher : StatusPublisher) (status : BridgeStatus) : OutboundMessage :=
  ⟨publisher.key, status.text⟩

/-- The message of a running bridge, with metadata if there are any. -/
def running (publisher : StatusPublisher) (metadata : Option Json) : OutboundMessage :=
  let status := BridgeStatus.running publisher.bridge publisher.version
  publisher.message (metadata.elim status status.withMetadata)

/-- The message of a bridge that has stopped. -/
def offline (publisher : StatusPublisher) : OutboundMessage :=
  publisher.message (.offline publisher.bridge publisher.version)

/-- The message of a bridge that has failed. -/
def error (publisher : StatusPublisher) (reason : String) : OutboundMessage :=
  publisher.message (.error publisher.bridge publisher.version reason)

end StatusPublisher

end InverterBridge
