import EventWire.Compression.Inflate

namespace EventWire

/-!
# Deflating

Few octets are deflated into one block of literals in the fixed code.  Many
octets, and all octets at level zero, go into stored blocks as they are.
-/

namespace Compression.Deflate

/-- The octets that bits make up, the low bit of each octet first; bits that lack are zero. -/
def packBits : List Nat → Bytes
  | bit0 :: bit1 :: bit2 :: bit3 :: bit4 :: bit5 :: bit6 :: bit7 :: rest =>
    packed [bit0, bit1, bit2, bit3, bit4, bit5, bit6, bit7] :: packBits rest
  | [] => []
  | few => [packed few]
where
  /-- The octet that at most eight bits make up. -/
  packed (bits : List Nat) : UInt8 :=
    UInt8.ofNat (bits.foldr (fun bit high => bit + 2 * high) 0)

/-- The symbol that ends a block. -/
def endOfBlock : Nat := 256

/-- A last block that holds the given octets as literals in the fixed code. -/
def literalBlock (octets : Bytes) : Bytes :=
  let symbols := octets.map UInt8.toNat ++ [endOfBlock]
  packBits
    ([1, 1, 0] ++ symbols.flatMap fun symbol => (Inflate.fixedLiterals.word? symbol).getD [])

/-- The number of octets in every stored block but the last, which holds fewer. -/
def storedLength : Nat := 31745

/-- A stored block: whether it is the last, its length, the complement, its octets. -/
def storedBlock (last : Bool) (octets : Bytes) : Bytes :=
  let length := UInt16.ofNat octets.length
  (if last then 1 else 0) :: length.toUInt8 :: (length >>> 8).toUInt8 ::
    (~~~ length).toUInt8 :: (~~~ length >>> 8).toUInt8 :: octets

/-- The octets of stored blocks that hold the given octets. -/
def storedBlocks (octets : Bytes) : Bytes :=
  let front := octets.take storedLength
  if front.length < storedLength then storedBlock true front
  else storedBlock false front ++ storedBlocks (octets.drop storedLength)
termination_by octets.length
decreasing_by
  rw [List.length_drop]
  simp only [storedLength, front, List.length_take] at *
  omega

/-- The greatest number of octets that are worth coding. -/
def maxCoded : Nat := 32

/-- A deflated stream that stands for the given octets. -/
def deflate (level : Nat) (octets : Bytes) : Bytes :=
  if 0 < level ∧ octets.length ≤ maxCoded then literalBlock octets
  else storedBlocks octets

end Compression.Deflate

end EventWire
