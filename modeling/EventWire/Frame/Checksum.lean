import EventWire.BigEndian

namespace EventWire

/-!
# The frame checksum

A cyclic redundancy check of sixteen bits: polynomial `x^16 + x^12 + x^5 + 1`,
low bit first, register and result inverted.  The register is carried from
octet to octet, so the checksum of a concatenation continues that of its front.
-/

namespace Frame.Checksum

/-- The polynomial without its leading term, low bit first. -/
def polynomial : UInt16 := 0x8408

/-- Move the register by one bit, reducing it by the polynomial when a bit leaves. -/
def shift (register : UInt16) : UInt16 :=
  if register &&& 1 = 0 then register >>> 1 else (register >>> 1) ^^^ polynomial

/-- Take one octet into the register. -/
def step (register : UInt16) (octet : UInt8) : UInt16 :=
  shift (shift (shift (shift (shift (shift (shift (shift
    (register ^^^ octet.toUInt16))))))))

/-- Take octets into the register, first octet first. -/
def feed (register : UInt16) (octets : Bytes) : UInt16 :=
  octets.foldl step register

/-- The register before the first octet. -/
def initial : UInt16 := 0xFFFF

/-- The checksum that a register stands for after the last octet. -/
def final (register : UInt16) : UInt16 :=
  register ^^^ 0xFFFF

/-- The checksum of octets. -/
def ofBytes (octets : Bytes) : UInt16 :=
  final (feed initial octets)

@[simp] theorem feed_nil (register : UInt16) : feed register [] = register :=
  rfl

theorem feed_append (register : UInt16) (front back : Bytes) :
    feed register (front ++ back) = feed (feed register front) back :=
  List.foldl_append

end Frame.Checksum

end EventWire
