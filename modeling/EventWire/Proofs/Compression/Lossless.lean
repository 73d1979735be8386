import EventWire.Compression.Zlib
import EventWire.Proofs.BigEndian
import EventWire.Proofs.Compression.Codes

namespace EventWire

/-!
# What is compressed is decompressed

A block of literals and a run of stored blocks are both inflated to the octets
that they hold, and what stands behind them is left over.  With the checksum
behind it a zlib stream is therefore decompressed to what was compressed.
-/

namespace Compression

open BitReader

namespace Deflate

open Inflate

/-- Behind the first three bits of a block stands what they announce. -/
theorem blocks?_of_begun
    {reader middle inner : BitReader}
    {last kind : Nat}
    (first : reader.next? = some (last, middle))
    (second : middle.number? 2 = some (kind, inner))
    (rounds : Nat)
    (output : Output) :
    blocks? (rounds + 1) reader output =
      match block? kind inner output with
      | none => none
      | some (reader, output) =>
        if last = 1 then some (reader, output) else blocks? rounds reader output := by
  rw [blocks?, first, Option.bind_eq_bind, Option.bind_some]
  dsimp only
  rw [second]
  rfl

section Literals

variable {reader : BitReader} {bits : List Nat} {behind : Bytes} {output : Output}

theorem fits_fixedLiterals : PrefixCode.fits fixedLiterals.counts 1 0 = true := by
  decide +kernel

/-- Every octet and the end of a block have a word in the fixed code. -/
theorem exists_word?_fixedLiterals
    {symbol : Nat}
    (among : symbol ≤ endOfBlock) :
    ∃ word, fixedLiterals.word? symbol = some word := by
  let lengths :=
    List.replicate 144 8 ++ List.replicate 112 9 ++ List.replicate 24 7 ++ List.replicate 8 8
  have bounded : ∀ length ∈ lengths, 0 < length ∧ length ≤ PrefixCode.maxLength := by
    decide +kernel
  have long : endOfBlock < lengths.length := by decide +kernel
  obtain ⟨length, given⟩ : ∃ length, lengths[symbol]? = some length :=
    ⟨_, List.getElem?_eq_getElem (Nat.lt_of_le_of_lt among long)⟩
  obtain ⟨positive, small⟩ := bounded length (List.mem_of_getElem? given)
  exact Option.isSome_iff_exists.mp (PrefixCode.isSome_word?_ofLengths given positive small)

/-- The words of symbols, one behind the other. -/
def words (symbols : List Nat) : List Nat :=
  symbols.flatMap fun symbol => (fixedLiterals.word? symbol).getD []

/-- The word of a symbol in front of other words is read back as the symbol. -/
theorem exists_symbol?_words
    {symbol : Nat}
    {symbols : List Nat}
    (among : symbol ≤ endOfBlock)
    (before : reader.Before (words (symbol :: symbols) ++ bits) behind) :
    ∃ next,
      fixedLiterals.symbol? reader = some (symbol, next) ∧
        next.Before (words symbols ++ bits) behind := by
  obtain ⟨word, found⟩ := exists_word?_fixedLiterals among
  rw [words, List.flatMap_cons, found, Option.getD_some, List.append_assoc] at before
  exact PrefixCode.symbol?_of_word? fits_fixedLiterals found before

/-- The symbols of a block of literals. -/
def literals (octets : Bytes) : List Nat :=
  octets.map UInt8.toNat ++ [endOfBlock]

theorem literals_cons (octet : UInt8) (octets : Bytes) :
    literals (octet :: octets) = octet.toNat :: literals octets :=
  rfl

theorem length_literals (octets : Bytes) : (literals octets).length = octets.length + 1 := by
  rw [literals, List.length_append, List.length_map, List.length_singleton]

theorem le_endOfBlock_of_mem_literals
    {octets : Bytes}
    {symbol : Nat}
    (member : symbol ∈ literals octets) :
    symbol ≤ endOfBlock := by
  rcases List.mem_append.mp member with held | last
  · obtain ⟨octet, -, rfl⟩ := List.mem_map.mp held
    exact Nat.le_of_lt octet.toNat_lt
  · exact Nat.le_of_eq (List.mem_singleton.mp last)

/-- Words are bits, and there are at least as many of them as symbols. -/
theorem binary_words
    {symbols : List Nat}
    (among : ∀ symbol ∈ symbols, symbol ≤ endOfBlock) :
    (∀ bit ∈ words symbols, bit < 2) ∧ symbols.length ≤ (words symbols).length := by
  induction symbols with
  | nil => exact ⟨nofun, Nat.le_refl 0⟩
  | cons symbol symbols inductionHypothesis =>
      obtain ⟨first, others⟩ := List.forall_mem_cons.mp among
      obtain ⟨binary, longer⟩ := inductionHypothesis others
      obtain ⟨word, found⟩ := exists_word?_fixedLiterals first
      obtain ⟨some, binaryWord⟩ := PrefixCode.binary_of_word? found
      have positive := List.length_pos_iff.mpr some
      rw [words, List.flatMap_cons, found, Option.getD_some]
      refine ⟨List.forall_mem_append.mpr ⟨binaryWord, binary⟩, ?_⟩
      rw [List.length_append, List.length_cons]
      change _ ≤ word.length + (words symbols).length
      omega

theorem symbols?_of_octet
    {code distances : PrefixCode}
    {next : BitReader}
    {octet : UInt8}
    (read : code.symbol? reader = some (octet.toNat, next))
    (rounds : Nat) :
    symbols? code distances (rounds + 1) reader output =
      symbols? code distances rounds next (output.push octet) := by
  -- One round is computed here: the equations of the recursion are too deep to rewrite with.
  conv => lhs; whnf
  rw [read]
  dsimp only
  rw [if_pos octet.toNat_lt, UInt8.ofNat_toNat]

theorem symbols?_of_end
    {code distances : PrefixCode}
    {next : BitReader}
    (read : code.symbol? reader = some (endOfBlock, next))
    (rounds : Nat) :
    symbols? code distances (rounds + 1) reader output = some (next, output) := by
  conv => lhs; whnf
  rw [read]
  dsimp only
  rw [if_neg (show ¬ endOfBlock < 256 from Nat.lt_irrefl 256),
    if_pos (show endOfBlock = 256 from rfl)]

/-- Literals are decoded one by one up to the end of their block. -/
theorem symbols?_literals
    {octets : Bytes}
    {rounds : Nat}
    (enough : octets.length < rounds)
    (before : reader.Before (words (literals octets) ++ bits) behind)
    (distances : PrefixCode) :
    ∃ next,
      symbols? fixedLiterals distances rounds reader output =
          some (next, octets.foldl Array.push output) ∧
        next.Before bits behind := by
  induction octets generalizing reader rounds output with
  | nil =>
      obtain ⟨rounds, rfl⟩ := Nat.exists_eq_add_of_lt enough
      rw [show literals [] = [endOfBlock] from rfl] at before
      obtain ⟨next, read, beforeNext⟩ := exists_symbol?_words (Nat.le_refl endOfBlock) before
      exact ⟨next, symbols?_of_end read _, beforeNext⟩
  | cons octet octets inductionHypothesis =>
      obtain ⟨rounds, rfl⟩ := Nat.exists_eq_add_of_lt enough
      rw [literals_cons] at before
      obtain ⟨middle, read, beforeMiddle⟩ :=
        exists_symbol?_words (Nat.le_of_lt octet.toNat_lt) before
      obtain ⟨next, decoded, beforeNext⟩ :=
        @inductionHypothesis middle (output.push octet) ((octet :: octets).length + rounds)
          (Nat.lt_of_lt_of_le (Nat.lt_succ_self _) (Nat.le_add_right _ _)) beforeMiddle
      exact ⟨next, (symbols?_of_octet read _).trans decoded, beforeNext⟩

/-- A block of literals is inflated to the octets it holds. -/
theorem blocks?_literalBlock (octets behind : Bytes) (rounds : Nat) :
    ∃ next,
      blocks? (rounds + 1) (ofBytes (literalBlock octets ++ behind)) output =
          some (next, octets.foldl Array.push output) ∧
        next.rest = behind := by
  obtain ⟨binary, longer⟩ :=
    @binary_words (literals octets) fun symbol => le_endOfBlock_of_mem_literals
  obtain ⟨padding, few, shape⟩ :=
    @exists_bitsOf_packBits ([1, 1, 0] ++ words (literals octets))
      (List.forall_mem_append.mpr ⟨by decide, binary⟩)
  have before := before_ofBytes (literalBlock octets) behind
  rw [show bitsOf (literalBlock octets) = _ from shape, List.append_assoc] at before
  obtain ⟨middle, last, beforeKind⟩ := before.next?
  obtain ⟨inner, kind, beforeWords⟩ := @Before.number? middle _ [1, 0] _ beforeKind
  have enough : octets.length < inner.size + 1 := by
    have left := beforeWords.length_le_size
    rw [List.length_append] at left
    rw [length_literals] at longer
    omega
  obtain ⟨next, decoded, beforeNext⟩ := symbols?_literals enough beforeWords fixedDistances
  refine ⟨next, ?_, beforeNext.rest_eq (by rwa [List.length_replicate])⟩
  have inflated :
      block? (ofLowBits [1, 0]) inner output = some (next, octets.foldl Array.push output) :=
    decoded
  rw [blocks?_of_begun last kind, inflated]
  rfl

end Literals

section Stored

variable {behind : Bytes} {output : Output}

/-- The two octets of a word, the low one first. -/
theorem toNat_word (word : UInt16) :
    word.toUInt8.toNat + 256 * (word >>> 8).toUInt8.toNat = word.toNat := by
  have bound := word.toNat_lt
  simp only [UInt16.toNat_toUInt8, UInt16.toNat_shiftRight, UInt16.reduceToNat, Nat.reduceMod,
    Nat.shiftRight_eq_div_pow]
  omega

/-- What a stored block holds is taken over, behind its length and the complement of that. -/
theorem stored?_storedBlock
    {reader : BitReader}
    {octets : Bytes}
    (short : octets.length < 65536)
    (last : Bool)
    (aligned : reader.align = ofBytes ((storedBlock last octets).tail ++ behind)) :
    stored? reader output = some (ofBytes behind, octets.foldl Array.push output) := by
  let length := UInt16.ofNat octets.length
  have counted : length.toNat = octets.length := UInt16.toNat_ofNat_of_lt' short
  have before := before_ofBytes [] ((storedBlock last octets).tail ++ behind)
  obtain ⟨middle, count, beforeComplement⟩ := before.word?
  obtain ⟨inner, complement, beforeOctets⟩ := beforeComplement.word?
  have rest := beforeOctets.rest_eq (by decide)
  have taken :
      inner.octets? length.toNat = some (octets, ofBytes behind) := by
    have front : inner.rest.take octets.length = octets := by
      rw [rest]
      exact List.take_left' rfl
    have others : inner.rest.drop octets.length = behind := by
      rw [rest]
      exact List.drop_left' rfl
    rw [counted, octets?, front, others, if_pos rfl]
    rfl
  have sum : length.toNat + (~~~ length).toNat = 65535 := by
    rw [UInt16.toNat_not, counted]
    exact Nat.add_sub_cancel' (Nat.le_of_lt_succ short)
  rw [toNat_word] at count complement
  simp only [stored?, aligned, Option.bind_eq_bind]
  rw [show (ofBytes ((storedBlock last octets).tail ++ behind)).number? 16 = _ from count,
    Option.bind_some]
  dsimp only
  rw [complement, Option.bind_some]
  dsimp only
  rw [if_pos sum, taken]
  rfl

/-- A stored block is inflated to the octets it holds. -/
theorem blocks?_storedBlock
    {octets : Bytes}
    (short : octets.length < 65536)
    (last : Bool)
    (rounds : Nat) :
    blocks? (rounds + 1) (ofBytes (storedBlock last octets ++ behind)) output =
      if last then some (ofBytes behind, octets.foldl Array.push output)
      else blocks? rounds (ofBytes behind) (octets.foldl Array.push output) := by
  have bits : bitsOf [if last then 1 else 0] = [last.toNat, 0, 0, 0, 0, 0, 0, 0] := by
    cases last <;> decide
  have before :=
    before_ofBytes [if last then 1 else 0] ((storedBlock last octets).tail ++ behind)
  rw [bits] at before
  obtain ⟨middle, marked, beforeKind⟩ := before.next?
  obtain ⟨inner, kind, beforeRest⟩ := @Before.number? middle _ [0, 0] _ beforeKind
  have inflated :
      block? (ofLowBits [0, 0]) inner output =
        some (ofBytes behind, octets.foldl Array.push output) :=
    stored?_storedBlock short last (beforeRest.align (by decide))
  rw [show storedBlock last octets ++ behind =
      [if last then 1 else 0] ++ ((storedBlock last octets).tail ++ behind) from rfl,
    blocks?_of_begun marked kind, inflated]
  cases last <;> rfl

theorem take_eq_of_few
    {octets : Bytes}
    (few : (octets.take storedLength).length < storedLength) :
    octets.take storedLength = octets := by
  rw [List.length_take] at few
  exact List.take_of_length_le (by omega)

theorem length_drop_lt_of_full
    {octets : Bytes}
    (full : ¬ (octets.take storedLength).length < storedLength) :
    (octets.drop storedLength).length < octets.length := by
  rw [List.length_take, storedLength] at full
  rw [List.length_drop, storedLength]
  omega

/-- Stored blocks are inflated one after the other, up to the one that is marked as the last. -/
theorem blocks?_storedBlocks
    {octets : Bytes}
    {rounds : Nat}
    (output : Output)
    (enough : octets.length < rounds) :
    blocks? rounds (ofBytes (storedBlocks octets ++ behind)) output =
      some (ofBytes behind, octets.foldl Array.push output) := by
  obtain ⟨rounds, rfl⟩ := Nat.exists_eq_add_of_lt enough
  have fits : (octets.take storedLength).length < 65536 :=
    Nat.lt_of_le_of_lt (List.length_take_le _ _) (by decide)
  rw [storedBlocks]
  split
  · next few =>
      rw [take_eq_of_few few] at fits ⊢
      exact blocks?_storedBlock fits true _
  · next full =>
      have shorter := length_drop_lt_of_full full
      have later :=
        blocks?_storedBlocks ((octets.take storedLength).foldl Array.push output)
          (Nat.lt_of_lt_of_le shorter (Nat.le_add_right octets.length rounds))
      rw [List.append_assoc, blocks?_storedBlock fits, if_neg Bool.false_ne_true, later,
        ← List.foldl_append, List.take_append_drop]
termination_by octets.length
decreasing_by exact shorter

theorem length_storedBlock (last : Bool) (octets : Bytes) :
    (storedBlock last octets).length = octets.length + 5 :=
  rfl

/-- Stored blocks are no shorter than what they hold. -/
theorem length_le_storedBlocks (octets : Bytes) : octets.length ≤ (storedBlocks octets).length := by
  rw [storedBlocks]
  split
  · next few =>
      rw [take_eq_of_few few, length_storedBlock]
      exact Nat.le_add_right _ 5
  · next full =>
      have shorter := length_drop_lt_of_full full
      have later := length_le_storedBlocks (octets.drop storedLength)
      rw [List.length_append, length_storedBlock]
      rw [List.length_drop] at later
      rw [List.length_take]
      omega
termination_by octets.length
decreasing_by exact shorter

end Stored

/-- What is deflated is inflated to the same octets, and what stands behind it is left over. -/
theorem inflate?_deflate (level : Nat) (octets behind : Bytes) :
    inflate? (deflate level octets ++ behind) = some (octets, behind) := by
  have yields :
      ∃ next,
        blocks? ((ofBytes (deflate level octets ++ behind)).size + 1)
            (ofBytes (deflate level octets ++ behind)) #[] =
          some (next, octets.foldl Array.push #[]) ∧
        next.rest = behind := by
    rw [deflate]
    split
    · exact blocks?_literalBlock octets behind _
    · refine ⟨_, blocks?_storedBlocks #[] (Nat.lt_succ_of_le ?_), rfl⟩
      have held := length_le_storedBlocks octets
      rw [size, ofBytes, List.length_append]
      omega
  obtain ⟨next, inflated, rest⟩ := yields
  rw [inflate?, Option.bind_eq_bind, inflated, Option.bind_some, List.foldl_push_eq_append']
  dsimp only
  rw [rest, Array.empty_append]
  rfl

end Deflate

namespace Zlib

theorem opens_levelFlags (level : Nat) : opens 0x78 (levelFlags level) = true := by
  rw [levelFlags]
  split
  · decide
  · split
    · decide
    · split <;> decide

/-- What is compressed, at whatever level, is decompressed to the same octets. -/
theorem lossless_compressor (level : Nat) : (compressor level).Lossless := by
  intro octets
  have inflated :=
    Deflate.inflate?_deflate level octets (BigEndian.encode32 (checksum octets))
  change decompress?
    (0x78 :: levelFlags level ::
      (Deflate.deflate level octets ++ BigEndian.encode32 (checksum octets))) = _
  rw [decompress?, if_pos (opens_levelFlags level), inflated]
  dsimp only [BigEndian.encode32]
  rw [BigEndian.decode32_encode32, if_pos rfl]

end Zlib

end Compression

end EventWire
