import EventWire.BigEndian

namespace EventWire

/-!
# Reading bits

Compressed octets are read bit by bit, the low bit of each octet first.
-/

namespace Compression

/-- The bits of octets that have not been read yet. -/
structure BitReader where
  /-- The unread bits of the octet under way, as a number. -/
  current : Nat
  /-- How many bits of it are unread. -/
  unread : Nat
  /-- The octets behind it. -/
  rest : Bytes

namespace BitReader

/-- A reader in front of the first bit of octets. -/
def ofBytes (octets : Bytes) : BitReader where
  current := 0
  unread := 0
  rest := octets

/-- The number of bits that are left. -/
def size (reader : BitReader) : Nat :=
  reader.unread + 8 * reader.rest.length

/-- Read one bit. -/
def next? (reader : BitReader) : Option (Nat × BitReader) :=
  match reader.unread, reader.rest with
  | unread + 1, rest => some (reader.current % 2, ⟨reader.current / 2, unread, rest⟩)
  | 0, octet :: rest => some (octet.toNat % 2, ⟨octet.toNat / 2, 7, rest⟩)
  | 0, [] => none

/-- Read a number of the given width, low bit first. -/
def number? : Nat → BitReader → Option (Nat × BitReader)
  | 0, reader => some (0, reader)
  | width + 1, reader => do
    let (low, reader) ← reader.next?
    let (high, reader) ← number? width reader
    return (low + 2 * high, reader)

/-- Pass over the unread bits of the octet under way. -/
def align (reader : BitReader) : BitReader :=
  { reader with current := 0, unread := 0 }

/-- Read whole octets, after passing over the rest of the one under way. -/
def octets? (count : Nat) (reader : BitReader) : Option (Bytes × BitReader) :=
  let taken := reader.rest.take count
  if taken.length = count then some (taken, ⟨0, 0, reader.rest.drop count⟩) else none

end BitReader

end Compression

end EventWire
