import InverterBridge.Json.Record
import InverterBridge.Json.Relaxed
import InverterBridge.Json.Strict

/-!
# Decoding texts

Documents are strict texts, configuration files relaxed ones.
-/

namespace InverterBridge

/-- Decode a document. -/
def readStrict {α : Type} (decode : Dialect → Decoder α) (text : String) :
    Except DecodeError α :=
  decodeStrict (decode .strict) (Strict.read text)

/-- Decode a configuration text; its grammar is checked before anything else. -/
def readRelaxed {α : Type} (decode : Dialect → Decoder α) (text : String) :
    Except DecodeError α :=
  (Relaxed.read text).bind (decode .relaxed)

/-- Any value of a configuration text, its objects sorted by key. -/
def Json.decodeAny (_ : Dialect) : Decoder Json := fun node =>
  node.content.map Json.sorted

end InverterBridge
