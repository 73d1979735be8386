import EventWire.Compression.Deflate

namespace EventWire

/-!
# Zlib streams

A zlib stream is a deflated stream between a two-octet header and a checksum of
what it stands for.  Any compressor that a decompressor undoes will do for the
layers above, so they are written against `Compressor`.
-/

/-- A way of making octets shorter and of getting them back. -/
structure Compressor where
  compress : Bytes → Bytes
  decompress : Bytes → Option Bytes

namespace Compressor

/-- Decompressing undoes compressing. -/
def Lossless (compressor : Compressor) : Prop :=
  ∀ octets, compressor.decompress (compressor.compress octets) = some octets

end Compressor

namespace Compression.Zlib

/-- The modulus of the two sums of a checksum. -/
def modulus : Nat := 65521

/-- Take an octet into the two sums. -/
def checksumStep (sums : Nat × Nat) (octet : UInt8) : Nat × Nat :=
  let low := (sums.1 + octet.toNat) % modulus
  (low, (sums.2 + low) % modulus)

/-- The checksum of octets. -/
def checksum (octets : Bytes) : UInt32 :=
  let sums := octets.foldl checksumStep (1, 0)
  UInt32.ofNat (65536 * sums.2 + sums.1)

/--
Whether two octets open a zlib stream: deflated with a window of at most 32768
octets, without a preset dictionary, and divisible by 31 when read as one number.
-/
def opens (method flags : UInt8) : Bool :=
  method.toNat % 16 == 8 && method.toNat / 16 ≤ 7 && flags.toNat / 32 % 2 == 0 &&
    (256 * method.toNat + flags.toNat) % 31 == 0

/-- The octets that a zlib stream stands for; what follows the stream is not looked at. -/
def decompress? (octets : Bytes) : Option Bytes :=
  match octets with
  | method :: flags :: deflated =>
    if opens method flags then
      match Inflate.inflate? deflated with
      | some (inflated, c0 :: c1 :: c2 :: c3 :: _) =>
        if BigEndian.decode32 c0 c1 c2 c3 = checksum inflated then some inflated else none
      | _ => none
    else none
  | _ => none

/-- The second octet of the header: how hard a level tries, and what makes the header divisible. -/
def levelFlags (level : Nat) : UInt8 :=
  if level ≤ 1 then 0x01
  else if level ≤ 5 then 0x5E
  else if level = 6 then 0x9C
  else 0xDA

/-- A zlib stream that stands for the given octets. -/
def compress (level : Nat) (octets : Bytes) : Bytes :=
  0x78 :: levelFlags level ::
    Deflate.deflate level octets ++ BigEndian.encode32 (checksum octets)

/-- Zlib streams as a compressor. -/
def compressor (level : Nat) : Compressor where
  compress := compress level
  decompress := decompress?

end Compression.Zlib

end EventWire
