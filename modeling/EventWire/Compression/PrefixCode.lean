import EventWire.Compression.BitReader

namespace EventWire

/-!
# Canonical prefix codes

A canonical prefix code is given by the length of each symbol's code word.
Words of one length are consecutive numbers in the order of their symbols, and
shorter words come before longer ones, so the counts of words by length and
the symbols in order say everything needed to decode.
-/

namespace Compression

/-- A canonical prefix code whose words have at most fifteen bits. -/
structure PrefixCode where
  /-- The number of words of one bit, two bits and so on. -/
  counts : List Nat
  /-- The symbols in the order of their words. -/
  symbols : Array Nat

namespace PrefixCode

/-- The greatest length of a code word. -/
def maxLength : Nat := 15

/-- The symbols whose word has the given length, in order. -/
def symbolsOfLength (lengths : List Nat) (length : Nat) : List Nat :=
  lengths.zipIdx.filterMap fun symbol =>
    if symbol.1 = length then some symbol.2 else none

/-- The code in which each symbol's word has the given length; length zero means no word. -/
def ofLengths (lengths : List Nat) : PrefixCode :=
  let groups := (List.range maxLength).map fun index => symbolsOfLength lengths (index + 1)
  ⟨groups.map List.length, groups.flatten.toArray⟩

/--
How much of the space of bit strings the words take up, in words of the
greatest length: all of them when every bit string has a word as a prefix.
-/
def weight (code : PrefixCode) : Nat :=
  code.counts.foldl (fun weight count => 2 * weight + count) 0

/-- Whether every bit string that is long enough begins with exactly one word. -/
def isComplete (code : PrefixCode) : Bool :=
  code.weight == 1 <<< maxLength

/--
Whether a code may stand in a stream: it is complete, or has no words, or has a
single word of one bit.
-/
def isAcceptable (code : PrefixCode) : Bool :=
  code.isComplete || code.symbols.isEmpty ||
    (code.symbols.size == 1 && code.counts.head? == some 1)

/--
Read a word bit by bit.

`word` is what has been read, `first` the first word of the length at hand and
`index` the number of shorter words; `counts` are those of this length and the
longer ones.
-/
def symbolFrom?
    (symbols : Array Nat) :
    List Nat → Nat → Nat → Nat → BitReader → Option (Nat × BitReader)
  | [], _, _, _, _ => none
  | count :: counts, word, first, index, reader => do
    let (bit, reader) ← reader.next?
    let extended := word + bit
    if extended < first + count then
      let symbol ← symbols[index + (extended - first)]?
      return (symbol, reader)
    else
      symbolFrom? symbols counts (2 * extended) (2 * (first + count)) (index + count) reader

/-- Read the symbol of the next word. -/
def symbol? (code : PrefixCode) (reader : BitReader) : Option (Nat × BitReader) :=
  symbolFrom? code.symbols code.counts 0 0 0 reader

/-- A number in binary with the given count of digits, most significant first. -/
def binary (number : Nat) : Nat → List Nat
  | 0 => []
  | width + 1 => (number >>> width) % 2 :: binary number width

/--
Find the word of a symbol among those of the length at hand and the longer ones.

`width` is the length at hand, and the rest is as for reading.
-/
def wordFrom? (symbols : Array Nat) (symbol : Nat) :
    List Nat → Nat → Nat → Nat → Option (List Nat)
  | [], _, _, _ => none
  | count :: counts, width, first, index =>
    match (List.range count).find? fun offset => symbols[index + offset]? == some symbol with
    | some offset => some (binary (first + offset) width)
    | none => wordFrom? symbols symbol counts (width + 1) (2 * (first + count)) (index + count)

/-- The word of a symbol, bit by bit. -/
def word? (code : PrefixCode) (symbol : Nat) : Option (List Nat) :=
  wordFrom? code.symbols symbol code.counts 1 0 0

end PrefixCode

end Compression

end EventWire
