import EventWire.Compression.PrefixCode

namespace EventWire

/-!
# Inflating

A deflated stream is a run of blocks: stored octets, or literals and copies of
earlier output written in prefix codes, either fixed ones or ones the block
brings along.  Output before the first octet reads as zeros.
-/

namespace Compression.Inflate

/-- What a stream has yielded so far. -/
abbrev Output := Array UInt8

/-- The least copy length of each length symbol, and the width of what is added to it. -/
def lengthCodes : List (Nat × Nat) :=
  [(3, 0), (4, 0), (5, 0), (6, 0), (7, 0), (8, 0), (9, 0), (10, 0), (11, 1), (13, 1),
    (15, 1), (17, 1), (19, 2), (23, 2), (27, 2), (31, 2), (35, 3), (43, 3), (51, 3),
    (59, 3), (67, 4), (83, 4), (99, 4), (115, 4), (131, 5), (163, 5), (195, 5),
    (227, 5), (258, 0)]

/-- The least distance of each distance symbol, and the width of what is added to it. -/
def distanceCodes : List (Nat × Nat) :=
  [(1, 0), (2, 0), (3, 0), (4, 0), (5, 1), (7, 1), (9, 2), (13, 2), (17, 3), (25, 3),
    (33, 4), (49, 4), (65, 5), (97, 5), (129, 6), (193, 6), (257, 7), (385, 7),
    (513, 8), (769, 8), (1025, 9), (1537, 9), (2049, 10), (3073, 10), (4097, 11),
    (6145, 11), (8193, 12), (12289, 12), (16385, 13), (24577, 13)]

/-- The order in which a block gives the word lengths of its length code. -/
def lengthOrder : List Nat :=
  [16, 17, 18, 0, 8, 7, 9, 6, 10, 5, 11, 4, 12, 3, 13, 2, 14, 1, 15]

/-- The fixed code of literals and lengths. -/
def fixedLiterals : PrefixCode :=
  .ofLengths
    (List.replicate 144 8 ++ List.replicate 112 9 ++ List.replicate 24 7 ++
      List.replicate 8 8)

/-- The fixed code of distances. -/
def fixedDistances : PrefixCode :=
  .ofLengths (List.replicate 32 5)

/-- Repeat, octet by octet, what stands the given distance back. -/
def copy (distance : Nat) : Nat → Output → Output
  | 0, output => output
  | count + 1, output =>
    let octet :=
      if distance ≤ output.size then output.getD (output.size - distance) 0 else 0
    copy distance count (output.push octet)

/--
Decode literals and copies up to the end of a block.

Each round reads at least one bit, so the number of bits left bounds the rounds.
-/
def symbols?
    (literals distances : PrefixCode) :
    Nat → BitReader → Output → Option (BitReader × Output)
  | 0, _, _ => none
  | rounds + 1, reader, output =>
    match literals.symbol? reader with
    | none => none
    | some (symbol, reader) =>
      if symbol < 256 then
        symbols? literals distances rounds reader (output.push (UInt8.ofNat symbol))
      else if symbol = 256 then some (reader, output)
      else
        let copied : Option (Nat × Nat × BitReader) := do
          let (leastLength, width) ← lengthCodes[symbol - 257]?
          let (more, reader) ← reader.number? width
          let (distanceSymbol, reader) ← distances.symbol? reader
          let (leastDistance, width) ← distanceCodes[distanceSymbol]?
          let (further, reader) ← reader.number? width
          return (leastLength + more, leastDistance + further, reader)
        match copied with
        | none => none
        | some (length, distance, reader) =>
          symbols? literals distances rounds reader (copy distance length output)

/-- Octets that a block holds as they are: their count, its complement, and themselves. -/
def stored? (reader : BitReader) (output : Output) : Option (BitReader × Output) := do
  let (count, reader) ← reader.align.number? 16
  let (complement, reader) ← reader.number? 16
  if count + complement = 65535 then
    let (octets, reader) ← reader.octets? count
    return (reader, octets.foldl Array.push output)
  else none

/-- The word lengths of the length code, given in an order of their own. -/
def lengthCode? (count : Nat) (reader : BitReader) : Option (PrefixCode × BitReader) := do
  let step := fun (state : List (Nat × Nat) × BitReader) (symbol : Nat) => do
    let (length, reader) ← state.2.number? 3
    return ((symbol, length) :: state.1, reader)
  let (given, reader) ← (lengthOrder.take count).foldlM step ([], reader)
  let lengths := (List.range 19).map fun symbol => (given.lookup symbol).getD 0
  let code := PrefixCode.ofLengths lengths
  if code.isComplete then return (code, reader) else none

/--
Word lengths written in the length code, last first, until there are `count`.

A symbol below sixteen is a length; the others repeat the length before them or
zero.  A repetition must not run past the count.
-/
def wordLengths?
    (code : PrefixCode)
    (count : Nat) :
    Nat → List Nat → BitReader → Option (List Nat × BitReader)
  | 0, _, _ => none
  | rounds + 1, lengths, reader =>
    if lengths.length = count then some (lengths.reverse, reader)
    else if count < lengths.length then none
    else
      let run : Option (List Nat × BitReader) := do
        let (symbol, reader) ← code.symbol? reader
        if symbol < 16 then return ([symbol], reader)
        else if symbol = 16 then
          let last ← lengths.head?
          let (more, reader) ← reader.number? 2
          return (List.replicate (3 + more) last, reader)
        else if symbol = 17 then
          let (more, reader) ← reader.number? 3
          return (List.replicate (3 + more) 0, reader)
        else
          let (more, reader) ← reader.number? 7
          return (List.replicate (11 + more) 0, reader)
      match run with
      | none => none
      | some (more, reader) => wordLengths? code count rounds (more ++ lengths) reader

/-- The codes of literals and of distances that a block brings along. -/
def ownCodes? (reader : BitReader) : Option (PrefixCode × PrefixCode × BitReader) := do
  let (literalCount, reader) ← reader.number? 5
  let (distanceCount, reader) ← reader.number? 5
  let (lengthCount, reader) ← reader.number? 4
  if 286 < 257 + literalCount ∨ 30 < 1 + distanceCount then none
  else
    let (code, reader) ← lengthCode? (4 + lengthCount) reader
    let total := 257 + literalCount + (1 + distanceCount)
    let (lengths, reader) ← wordLengths? code total (total + 1) [] reader
    let literals := PrefixCode.ofLengths (lengths.take (257 + literalCount))
    let distances := PrefixCode.ofLengths (lengths.drop (257 + literalCount))
    if literals.isAcceptable ∧ distances.isAcceptable then
      return (literals, distances, reader)
    else none

/-- One block behind its first three bits. -/
def block? (kind : Nat) (reader : BitReader) (output : Output) :
    Option (BitReader × Output) :=
  match kind with
  | 0 => stored? reader output
  | 1 => symbols? fixedLiterals fixedDistances (reader.size + 1) reader output
  | 2 => do
    let (literals, distances, reader) ← ownCodes? reader
    symbols? literals distances (reader.size + 1) reader output
  | _ => none

/--
Blocks up to the one that is marked as the last.

Each block reads at least one bit, so the number of bits left bounds the blocks.
-/
def blocks? : Nat → BitReader → Output → Option (BitReader × Output)
  | 0, _, _ => none
  | rounds + 1, reader, output =>
    let begun : Option (Nat × Nat × BitReader) := do
      let (last, reader) ← reader.next?
      let (kind, reader) ← reader.number? 2
      return (last, kind, reader)
    match begun with
    | none => none
    | some (last, kind, reader) =>
      match block? kind reader output with
      | none => none
      | some (reader, output) =>
        if last = 1 then some (reader, output) else blocks? rounds reader output

/-- The octets a deflated stream stands for, and the octets behind the stream. -/
def inflate? (octets : Bytes) : Option (Bytes × Bytes) := do
  let reader := BitReader.ofBytes octets
  let (reader, output) ← blocks? (reader.size + 1) reader #[]
  return (output.toList, reader.rest)

end Compression.Inflate

end EventWire
