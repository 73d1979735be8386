namespace EventWire

/-!
# Octets and big-endian words

Every number on the wire is written high octet first.  This module fixes the
octet sequence used by all other layers and the two word widths they need.
-/

/-- A run of octets in the order in which they travel. -/
abbrev Bytes := List UInt8

namespace BigEndian

/-- The two octets of a 16-bit word, high octet first. -/
def encode16 (word : UInt16) : Bytes :=
  [(word >>> 8).toUInt8, word.toUInt8]

/-- The four octets of a 32-bit word, highest octet first. -/
def encode32 (word : UInt32) : Bytes :=
  [(word >>> 24).toUInt8, (word >>> 16).toUInt8, (word >>> 8).toUInt8, word.toUInt8]

/-- The 16-bit word written by two octets. -/
def decode16 (high low : UInt8) : UInt16 :=
  (high.toUInt16 <<< 8) ||| low.toUInt16

/-- The 32-bit word written by four octets. -/
def decode32 (first second third fourth : UInt8) : UInt32 :=
  (first.toUInt32 <<< 24) ||| (second.toUInt32 <<< 16) |||
    (third.toUInt32 <<< 8) ||| fourth.toUInt32

@[simp] theorem length_encode16 (word : UInt16) : (encode16 word).length = 2 :=
  rfl

@[simp] theorem length_encode32 (word : UInt32) : (encode32 word).length = 4 :=
  rfl

end BigEndian

end EventWire
