import EventWire.Notice
import EventWire.Stream.Config
import EventWire.Text.Quoted

namespace EventWire

/-!
# Settings of an endpoint

What an endpoint is told before it starts: where it listens, which side of the
handshake it plays, how its streams behave, and what it logs.  Settings that
make no sense are corrected, and each correction is reported.
-/

/-- Why settings cannot be used. -/
inductive ConfigError where
  /-- The document cannot be read, or is not text. -/
  | unreadable
  /-- The document is not JSON, or a setting has the wrong form. -/
  | malformed
  /-- The log filter has a directive that does not parse. -/
  | logFilter (filter : String)
  deriving DecidableEq

namespace ConfigError

/-- The sentence that reports an error, where it does not depend on what read the document. -/
def message? : ConfigError → Option String
  | unreadable => none
  | malformed => none
  | logFilter filter => some ("invalid configuration: log filter " ++ Text.Quoted.encode filter)

end ConfigError

/-- Where an endpoint listens, and which side of the handshake it plays. -/
structure EndpointConfig where
  address : String
  role : Role
  deriving DecidableEq

namespace EndpointConfig

/-- The endpoint of a broker that has been told nothing. -/
def default : EndpointConfig where
  address := "127.0.0.1:5669"
  role := .responder

end EndpointConfig

/-- Everything a broker is told. -/
structure BrokerConfig where
  endpoint : EndpointConfig
  stream : StreamConfig
  logFilter : String
  deriving DecidableEq

namespace BrokerConfig

/-- The settings of a broker that has been told nothing. -/
def default : BrokerConfig where
  endpoint := .default
  stream := .default
  logFilter := "info"

end BrokerConfig

namespace StreamConfig

def target : String := "vigil::config"

/-- The highest compression level. -/
def maxCompressionLevel : Nat := 9

def levelNotice (level : Nat) : Notice where
  level := .warn
  target := target
  message := "compression_level exceeds maximum, clamping"
  details := [("level", .count level), ("max", .count maxCompressionLevel)]

def timeoutNotice : Notice where
  level := .warn
  target := target
  message := "handshake_timeout is zero, using default"
  details := [("default", .text default.handshakeTimeout.secondsText)]

def coarseNotice : Notice where
  level := .warn
  target := target
  message := "coarse streams skip negotiation, compression will never be used"
  details := []

/-- Lower a compression level that is too high. -/
def limitLevel (config : StreamConfig) : Noted StreamConfig := do
  if maxCompressionLevel < config.compressionLevel then
    Noted.give (levelNotice config.compressionLevel)
    return { config with compressionLevel := maxCompressionLevel }
  else return config

/-- Replace a handshake timeout that leaves no time at all. -/
def allowHandshake (config : StreamConfig) : Noted StreamConfig := do
  if config.handshakeTimeout.isZero then
    Noted.give timeoutNotice
    return { config with handshakeTimeout := default.handshakeTimeout }
  else return config

/-- Correct settings that make no sense. -/
def validated (config : StreamConfig) : Noted StreamConfig := do
  let limited ← config.limitLevel
  let patient ← limited.allowHandshake
  Noted.giveIf (patient.coarse && patient.compression) coarseNotice
  return patient

/-- Settings keep their compression level within the limit once they are corrected. -/
theorem compressionLevel_validated (config : StreamConfig) :
    config.validated.value.compressionLevel ≤ maxCompressionLevel := by
  simp only [validated, limitLevel, allowHandshake, Noted.value_bind]
  split <;> split <;> simp only [Noted.value_bind, Noted.value_pure] at * <;> omega

end StreamConfig

end EventWire
