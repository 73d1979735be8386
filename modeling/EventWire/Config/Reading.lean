import EventWire.Config.Basic
import EventWire.Json.Document

namespace EventWire

/-!
# Reading settings

A document states the settings that differ from the usual ones.  Each group of
settings is an object, or an array in the order in which the settings are
listed here; a setting that is not stated keeps its usual value.
-/

namespace Json

/-- A setting that may be missing. -/
def setting?
    {Value : Type}
    (usual : Value)
    (read : Json → Option Value) :
    Option Json → Option Value
  | none => some usual
  | some stated => read stated

/-- A number of 32 bits. -/
def word32? : Json → Option Nat :=
  natural? UInt32.size

/-- A number of 64 bits. -/
def word64? : Json → Option Nat :=
  natural? UInt64.size

end Json

namespace Duration

/-- A duration states its seconds and its nanoseconds, and nothing else. -/
def ofJson? (json : Json) : Option Duration := do
  match ← json.parts? ["secs", "nanos"] with
  | [some seconds, some nanoseconds] =>
    if json.width = 2 then ofParts? (← seconds.word64?) (← nanoseconds.word32?)
    else none
  | _ => none

end Duration

namespace StreamConfig

/-- The names of the settings of a stream, in order. -/
def settingNames : List String :=
  ["negotiate", "compression", "compression_level", "compression_buffer", "coarse",
    "advertise_coarse", "handshake_timeout", "ack_limit", "termination", "max_event_size"]

/-- The settings of a stream. -/
def ofJson? (json : Json) : Option StreamConfig := do
  match ← json.parts? settingNames with
  | [negotiate, compression, level, buffer, coarse, advertiseCoarse, timeout, ackLimit,
      termination, maxEventSize] =>
    return {
      negotiate := ← Json.setting? default.negotiate Json.boolean? negotiate
      compression := ← Json.setting? default.compression Json.boolean? compression
      compressionLevel := ← Json.setting? default.compressionLevel Json.word32? level
      compressionBuffer := ← Json.setting? default.compressionBuffer Json.word64? buffer
      coarse := ← Json.setting? default.coarse Json.boolean? coarse
      advertiseCoarse := ← Json.setting? default.advertiseCoarse Json.boolean? advertiseCoarse
      handshakeTimeout := ← Json.setting? default.handshakeTimeout Duration.ofJson? timeout
      ackLimit := UInt32.ofNat (← Json.setting? default.ackLimit.toNat Json.word32? ackLimit)
      termination :=
        ← Json.setting? default.termination
          (Json.choice? Frame.Termination.all Frame.Termination.text) termination
      maxEventSize := ← Json.setting? default.maxEventSize Json.word64? maxEventSize }
  | _ => none

end StreamConfig

namespace EndpointConfig

/-- The settings of an endpoint: its address and its role. -/
def ofJson? (json : Json) : Option EndpointConfig := do
  match ← json.parts? ["address", "role"] with
  | [address, role] =>
    return {
      address := ← Json.setting? default.address Json.text? address
      role := ← Json.setting? default.role (Json.choice? Role.all Role.text) role }
  | _ => none

end EndpointConfig

namespace BrokerConfig

/-- The settings of a broker: its endpoint, its streams and its log filter. -/
def ofJson? (json : Json) : Option BrokerConfig := do
  match ← json.parts? ["endpoint", "stream", "log_filter"] with
  | [endpoint, stream, logFilter] =>
    return {
      endpoint := ← Json.setting? default.endpoint EndpointConfig.ofJson? endpoint
      stream := ← Json.setting? default.stream StreamConfig.ofJson? stream
      logFilter := ← Json.setting? default.logFilter Json.text? logFilter }
  | _ => none

/-- The settings that a reader finds in a document, corrected where they make no sense. -/
def ofTextBy
    (read? : String → Option BrokerConfig)
    (document : String) :
    Noted (Except ConfigError BrokerConfig) :=
  match read? document with
  | none => .silent (.error .malformed)
  | some config => do
    let stream ← config.stream.validated
    return .ok { config with stream := stream }

/-- The settings that a document states, corrected where they make no sense. -/
def ofText : String → Noted (Except ConfigError BrokerConfig) :=
  ofTextBy fun document => Json.ofText? document >>= ofJson?

def loadedNotice : Notice where
  level := .debug
  target := StreamConfig.target
  message := "loaded configuration"
  details := []

/-- The settings in a file, given its octets if there is one. -/
def load (contents : Option Bytes) : Noted (Except ConfigError BrokerConfig) := do
  match contents >>= fun octets => String.fromUTF8? octets.toByteArray with
  | none => return .error .unreadable
  | some document =>
    let result ← ofText document
    match result with
    | .error error => return .error error
    | .ok config =>
      Noted.give loadedNotice
      return .ok config

end BrokerConfig

end EventWire
