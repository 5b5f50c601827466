import InverterBridge.Config.Bridge
import InverterBridge.Json.Read
import InverterBridge.Proofs.Json.Steady

/-!
# Configurations of ASCII characters

No part of a configuration is decoded in any other way than by the decoders that do not break down,
so a text of ASCII characters is either read as a configuration or refused with a report
(`BridgeConfig.isSteady_of_isAscii`).
-/

namespace InverterBridge

open Fields Dialect

variable (dialect : Dialect)

theorem BusConfig.isSteady_decode : Decoder.IsSteady (BusConfig.decode dialect) :=
  dialect.isSteady_record (.seq (.seq (.map (isSteady_withDefault (dialect.isSteady_choice _)) _)
    (isSteady_withDefault (isSteady_list isSteady_text)))
    (isSteady_withDefault (isSteady_list isSteady_text))) _

theorem LoggingConfig.isSteady_decode : Decoder.IsSteady (LoggingConfig.decode dialect) :=
  dialect.isSteady_record (.seq (.map (isSteady_withDefault isSteady_text) _)
    (isSteady_withDefault (dialect.isSteady_choice _))) _

theorem QueueConfig.isSteady_decode : Decoder.IsSteady (QueueConfig.decode dialect) :=
  dialect.isSteady_record (.seq (.map (isSteady_withDefault dialect.isSteady_size) _)
    (isSteady_withDefault dialect.isSteady_uint64)) _

theorem ReconnectConfig.isSteady_decode : Decoder.IsSteady (ReconnectConfig.decode dialect) :=
  dialect.isSteady_record (.seq (.seq (.map (isSteady_withDefault dialect.isSteady_uint64) _)
    (isSteady_withDefault dialect.isSteady_uint64)) (isSteady_withDefault isSteady_bool)) _

namespace ConnectionConfig

theorem isSteady_decodeTcp : Decoder.IsSteady (decodeTcp dialect) :=
  dialect.isSteady_record (.seq (.map (isSteady_required isSteady_text) _)
    (isSteady_withDefault dialect.isSteady_uint16)) _

theorem isSteady_decodeRtu : Decoder.IsSteady (decodeRtu dialect) := fun node narrow =>
  (dialect.isSteady_record (.seq (.seq (.seq (.seq (.map (isSteady_required isSteady_text) _)
    (isSteady_withDefault dialect.isSteady_uint32)) (isSteady_withDefault dialect.isSteady_uint8))
    (isSteady_withDefault isSteady_text)) (isSteady_withDefault dialect.isSteady_uint8)) _
    node narrow).map _

theorem isSteady_decode : Decoder.IsSteady (decode dialect) :=
  isSteady_tagged (fun kind => match kind with
    | .tcp => isSteady_decodeTcp .buffered
    | .rtu => isSteady_decodeRtu .buffered) _ _

end ConnectionConfig

theorem DeviceConfig.isSteady_decode : Decoder.IsSteady (DeviceConfig.decode dialect) :=
  dialect.isSteady_record (.seq (.seq (.seq (.seq (.seq (.map (isSteady_required isSteady_text) _)
    (isSteady_required (ConnectionConfig.isSteady_decode dialect)))
    (isSteady_withDefault dialect.isSteady_uint8)) (isSteady_withDefault dialect.isSteady_uint16))
    (isSteady_withDefault dialect.isSteady_uint64))
    (isSteady_withDefault (ReconnectConfig.isSteady_decode dialect))) _

theorem PollConfig.isSteady_decode : Decoder.IsSteady (PollConfig.decode dialect) :=
  dialect.isSteady_record (.seq (.seq (.seq (.map (isSteady_withDefault isSteady_text) _)
    (isSteady_required (DeviceConfig.isSteady_decode dialect)))
    (isSteady_withDefault dialect.isSteady_uint64))
    (isSteady_withDefault (QueueConfig.isSteady_decode dialect))) _

namespace BridgeConfig

theorem isSteady_decode : Decoder.IsSteady (BridgeConfig.decode dialect) :=
  dialect.isSteady_record (.seq (.seq (.map
    (isSteady_withDefault (BusConfig.isSteady_decode dialect)) _)
    (isSteady_required (PollConfig.isSteady_decode dialect)))
    (isSteady_withDefault (LoggingConfig.isSteady_decode dialect))) _

/-- Reading a text of ASCII characters does not break down. -/
theorem isSteady_of_isAscii {text : String} (ascii : Relaxed.IsAscii text.toList) :
    IsSteady (readRelaxed decode text) := by
  rw [readRelaxed]
  cases found : Relaxed.read text with
  | error cause => exact (Relaxed.isSteady_read text).error found
  | ok node => exact isSteady_decode .relaxed node (Relaxed.isNarrow_of_read ascii found)

end BridgeConfig

end InverterBridge
