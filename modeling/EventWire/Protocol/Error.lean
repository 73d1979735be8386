import EventWire.Event.Error

namespace EventWire

/-!
# What can go wrong between two ends

A protocol error means that the two ends disagree about the protocol, or that
an event cannot be put on the wire.  Damaged frames are none: they are passed
over without an error.
-/

/-- The version fields by which a negotiation record is judged. -/
structure VersionClaim where
  magic : UInt32
  major : UInt16
  minor : UInt16
  patch : UInt16
  deriving DecidableEq

namespace VersionClaim

/-- A 32-bit word as eight hexadecimal digits behind `0x`. -/
def magicText (claim : VersionClaim) : String :=
  let digits := Nat.toDigits 16 claim.magic.toNat
  "0x" ++ String.ofList (List.replicate (8 - digits.length) '0' ++ digits)

/-- The three version numbers joined by points. -/
def versionText (claim : VersionClaim) : String :=
  toString claim.major.toNat ++ "." ++ toString claim.minor.toNat ++ "." ++
    toString claim.patch.toNat

end VersionClaim

/-- Why a protocol step failed. -/
inductive ProtocolError where
  /-- The peer closed before its negotiation record arrived. -/
  | incomplete
  /-- The peer's negotiation record did not arrive in time. -/
  | handshakeTimeout
  /-- The peer's negotiation record claims another protocol or an incompatible version. -/
  | versionMismatch (claim : VersionClaim)
  /-- An event to be written is of a type that is not registered. -/
  | unknownType (eventType : EventType)
  /-- An event to be written has no body. -/
  | event (error : EventError)
  /-- The first event to arrive is not a negotiation record. -/
  | unexpectedEvent (eventType : EventType)
  deriving DecidableEq

namespace ProtocolError

/-- The sentence that reports an error. -/
def message : ProtocolError → String
  | incomplete => "peer closed the stream before the handshake completed"
  | handshakeTimeout => "timed out waiting for the peer's negotiation record"
  | versionMismatch claim =>
    "protocol version mismatch: peer sent " ++ claim.versionText ++ " with magic " ++
      claim.magicText
  | unknownType eventType => "cannot serialize unknown event type " ++ eventType.text
  | event error => error.message
  | unexpectedEvent eventType =>
    "invalid message: expected a negotiation record, got event type " ++ eventType.text

end ProtocolError

end EventWire
