import EventWire.Duration
import EventWire.Frame.Decoder
import EventWire.Protocol.Control

namespace EventWire

/-!
# Settings of a stream

How a stream opens, what it offers to its peer, and how it frames events.
-/

/-- Which side of the handshake an end plays; the initiator speaks first. -/
inductive Role where
  | initiator
  | responder
  deriving DecidableEq

namespace Role

/-- How a role is described. -/
def description : Role → String
  | initiator => "Initiator"
  | responder => "Responder"

/-- How a role is written in a configuration. -/
def text : Role → String
  | initiator => "initiator"
  | responder => "responder"

/-- All roles. -/
def all : List Role := [initiator, responder]

end Role

namespace Frame.Termination

/-- How a termination policy is written in a configuration. -/
def text : Termination → String
  | emptyFrame => "empty_frame"
  | implicit => "implicit"

/-- All termination policies. -/
def all : List Termination := [emptyFrame, implicit]

end Frame.Termination

/-- The settings of a stream. -/
structure StreamConfig where
  /-- Exchange negotiation records before any event. -/
  negotiate : Bool
  /-- Offer compression. -/
  compression : Bool
  compressionLevel : Nat
  /-- How many octets are gathered for a compressed block. -/
  compressionBuffer : Nat
  /-- Carry opaque octets from the start, without a handshake. -/
  coarse : Bool
  /-- Offer to carry opaque octets after the handshake. -/
  advertiseCoarse : Bool
  handshakeTimeout : Duration
  /-- Acknowledge after this many events; zero leaves it to the user. -/
  ackLimit : UInt32
  termination : Frame.Termination
  maxEventSize : Nat
  deriving DecidableEq

namespace StreamConfig

/-- The settings of a stream that has been told nothing. -/
def default : StreamConfig where
  negotiate := true
  compression := false
  compressionLevel := 6
  compressionBuffer := 0
  coarse := false
  advertiseCoarse := false
  handshakeTimeout := .ofSeconds 5
  ackLimit := 1000
  termination := .emptyFrame
  maxEventSize := Frame.Decoder.defaultMaxEventSize

/-- The extensions that a stream offers. -/
def advertised (config : StreamConfig) : Extensions where
  compression := config.compression
  coarse := config.advertiseCoarse

end StreamConfig

end EventWire
