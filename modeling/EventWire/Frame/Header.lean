import EventWire.Event.Record
import EventWire.Frame.Checksum

namespace EventWire

/-!
# Frame headers

A frame is a header of sixteen octets and a payload.  The header holds, in this
order, the checksum, the chunk size, the event type, the source and the
destination.  The checksum covers every octet of the frame but its own two.
Any sixteen octets are a header; whether they are a valid one shows when the
payload behind them is checked.
-/

/-- What ties the frames of one event together. -/
structure Identity where
  eventType : EventType
  route : Route
  deriving DecidableEq

namespace Frame

/-- The number of octets of a header. -/
def headerLength : Nat := 16

/-- The greatest number of octets that one frame carries. -/
def maxChunk : Nat := 65535

/-- The chunk size that says: a full chunk, and more frames of this event follow. -/
def moreFollow : UInt16 := 0xFFFF

/-- A frame header. -/
structure Header where
  checksum : UInt16
  chunkSize : UInt16
  identity : Identity
  deriving DecidableEq

namespace Header

/-- A header that has not been sealed for a payload. -/
def unsealed (identity : Identity) (chunkSize : UInt16) : Header where
  checksum := 0
  chunkSize := chunkSize
  identity := identity

/-- The octets of a header that the checksum covers. -/
def coveredBytes (header : Header) : Bytes :=
  BigEndian.encode16 header.chunkSize ++
    BigEndian.encode16 header.identity.eventType.category ++
    BigEndian.encode16 header.identity.eventType.element ++
    BigEndian.encode32 header.identity.route.source ++
    BigEndian.encode32 header.identity.route.destination

/-- The octets of a header. -/
def bytes (header : Header) : Bytes :=
  BigEndian.encode16 header.checksum ++ header.coveredBytes

/-- The header at the front of octets, and the octets behind it. -/
def parse? : Bytes → Option (Header × Bytes)
  | c0 :: c1 :: n0 :: n1 :: k0 :: k1 :: e0 :: e1 ::
      s0 :: s1 :: s2 :: s3 :: d0 :: d1 :: d2 :: d3 :: rest =>
    some
      ({ checksum := BigEndian.decode16 c0 c1
         chunkSize := BigEndian.decode16 n0 n1
         identity :=
          { eventType := ⟨BigEndian.decode16 k0 k1, BigEndian.decode16 e0 e1⟩
            route := ⟨BigEndian.decode32 s0 s1 s2 s3, BigEndian.decode32 d0 d1 d2 d3⟩ } },
        rest)
  | _ => none

/-- The number of octets behind the header that belong to its frame. -/
def payloadLength (header : Header) : Nat :=
  header.chunkSize.toNat

/-- The number of octets of the whole frame. -/
def length (header : Header) : Nat :=
  headerLength + header.payloadLength

/-- Whether more frames of the same event follow. -/
def continues (header : Header) : Bool :=
  header.chunkSize == moreFollow

/-- The checksum a header should carry in front of a payload. -/
def expectedChecksum (header : Header) (payload : Bytes) : UInt16 :=
  Checksum.final
    (Checksum.feed (Checksum.feed Checksum.initial header.coveredBytes) payload)

/-- The same header with the checksum for a payload. -/
def sealFor (header : Header) (payload : Bytes) : Header :=
  { header with checksum := header.expectedChecksum payload }

/-- Whether a header carries the checksum for a payload. -/
def verifies (header : Header) (payload : Bytes) : Bool :=
  header.checksum == header.expectedChecksum payload

/-- A header with some payload length is never empty. -/
theorem length_pos (header : Header) : 0 < header.length := by
  unfold length headerLength
  omega

end Header

end Frame

end EventWire
