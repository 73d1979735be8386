namespace EventWire

/-!
# What can go wrong on a connection
-/

/-- The greatest length of a compressed block that is accepted. -/
def maxBlock : Nat := 67108864

/-- Why octets could not be sent, received or waited for. -/
inductive TransportError where
  /-- The peer has dropped its end. -/
  | peerDropped
  /-- This end has been closed for sending. -/
  | shutDown
  /-- A block announces more octets than any block may have. -/
  | blockTooLong (length : Nat)
  /-- A block is not a compressed stream. -/
  | corruptBlock
  /-- An address cannot be listened on. -/
  | listenFailed
  /-- An address cannot be reached. -/
  | connectFailed
  deriving DecidableEq

namespace TransportError

/-- The sentence that reports an error, where it does not depend on the system's own words. -/
def message? : TransportError → Option String
  | peerDropped => some "connection closed: peer dropped"
  | shutDown => some "transport shut down"
  | blockTooLong length =>
    some ("compression failed: compressed block of " ++ toString length ++
      " bytes exceeds " ++ toString maxBlock)
  | corruptBlock => none
  | listenFailed => none
  | connectFailed => none

end TransportError

end EventWire
