import EventWire.Proofs.Compression.Bits

namespace EventWire

/-!
# Code words read back

The words of a canonical code are numbered from the shortest on.  A number that
begins below the words of its own length lies behind all shorter words, so the
bits of a word are never taken for a shorter one, and the word is read back as
its symbol.
-/

namespace Compression.PrefixCode

/-- A symbol has the word of this number, with so many lengths behind the one at hand. -/
inductive Codes
    (symbols : Array Nat)
    (symbol : Nat) :
    List Nat → Nat → Nat → Nat → Nat → Prop where
  | here
      {count first index offset : Nat}
      {counts : List Nat}
      (among : offset < count)
      (stands : symbols[index + offset]? = some symbol) :
      Codes symbols symbol (count :: counts) first index (first + offset) 0
  | longer
      {count first index number further : Nat}
      {counts : List Nat}
      (later :
        Codes symbols symbol counts (2 * (first + count)) (index + count) number further) :
      Codes symbols symbol (count :: counts) first index number (further + 1)

/-- There are no more words of any length than fit behind the shorter ones. -/
def fits : List Nat → Nat → Nat → Bool
  | [], _, _ => true
  | count :: counts, width, first =>
    first + count ≤ 2 ^ width && fits counts (width + 1) (2 * (first + count))

section Words

variable
  {symbols : Array Nat} {symbol width first index number further : Nat} {counts word : List Nat}

theorem length_binary (number width : Nat) : (binary number width).length = width := by
  induction width with
  | zero => rfl
  | succ width inductionHypothesis => rw [binary, List.length_cons, inductionHypothesis]

theorem lt_two_of_mem_binary
    {bit : Nat}
    (member : bit ∈ binary number width) :
    bit < 2 := by
  induction width with
  | zero => exact nomatch member
  | succ width inductionHypothesis =>
      rcases List.mem_cons.mp member with rfl | later
      · exact Nat.mod_lt _ Nat.two_pos
      · exact inductionHypothesis later

/-- The front of a number followed by its next bit. -/
theorem extended_eq (number further : Nat) :
    2 * (number >>> (further + 1)) + (number >>> further) % 2 = number >>> further := by
  rw [Nat.shiftRight_succ]
  exact Nat.div_add_mod _ 2

/-- A word that is found is the number of its symbol in binary. -/
theorem exists_codes_of_wordFrom?
    (found : wordFrom? symbols symbol counts width first index = some word) :
    ∃ number further,
      Codes symbols symbol counts first index number further ∧
        word = binary number (width + further) := by
  induction counts generalizing width first index with
  | nil => exact nomatch found
  | cons count counts inductionHypothesis =>
      rw [wordFrom?] at found
      split at found
      · next offset among =>
          obtain rfl : binary (first + offset) width = word := Option.some.inj found
          have stands := List.find?_some among
          have below := List.mem_range.mp (List.mem_of_find?_eq_some among)
          exact ⟨_, 0, .here below (beq_iff_eq.mp stands), rfl⟩
      · obtain ⟨number, further, codes, shape⟩ := inductionHypothesis found
        refine ⟨number, further + 1, .longer codes, ?_⟩
        rw [shape, Nat.succ_add]
        rfl

/-- A symbol that stands among those counted has a word. -/
theorem isSome_wordFrom?
    {place : Nat}
    (stands : symbols[place]? = some symbol)
    (behind : index ≤ place)
    (counted : place < index + counts.sum) :
    (wordFrom? symbols symbol counts width first index).isSome := by
  induction counts generalizing width first index with
  | nil => exact absurd counted (Nat.not_lt_of_le behind)
  | cons count counts inductionHypothesis =>
      rw [wordFrom?]
      split
      · rfl
      · next missing =>
          refine inductionHypothesis ?_ ?_
          · refine Nat.le_of_not_lt fun among => ?_
            have absent := List.find?_eq_none.mp missing (place - index)
              (List.mem_range.mpr (by omega))
            rw [Nat.add_sub_cancel' behind, stands] at absent
            exact absent BEq.rfl
          · rw [List.sum_cons] at counted
            omega

namespace Codes

variable (codes : Codes symbols symbol counts first index number further)
include codes

/-- The front of a word is no less than the first word of that length. -/
theorem first_le : first ≤ number >>> further := by
  induction codes with
  | here _ _ => exact Nat.le_add_right _ _
  | @longer count first _ number further _ _ inductionHypothesis =>
      rw [Nat.shiftRight_succ]
      omega

theorem lt_two_pow (enough : fits counts width first = true) : number < 2 ^ (width + further) := by
  induction codes generalizing width with
  | here among _ =>
      obtain ⟨room, -⟩ := Bool.and_eq_true_iff.mp enough
      exact Nat.lt_of_lt_of_le (Nat.add_lt_add_left among _) (of_decide_eq_true room)
  | @longer _ _ _ _ further _ _ inductionHypothesis =>
      obtain ⟨-, others⟩ := Bool.and_eq_true_iff.mp enough
      rw [← Nat.succ_add_eq_add_succ]
      exact inductionHypothesis others

/-- The rest of a word is read back as its symbol, and nothing behind it is read. -/
theorem symbolFrom?
    {reader : BitReader}
    {bits : List Nat}
    {behind : Bytes}
    (before : reader.Before (binary number (further + 1) ++ bits) behind) :
    ∃ next,
      PrefixCode.symbolFrom? symbols counts (2 * (number >>> (further + 1))) first index reader =
          some (symbol, next) ∧
        next.Before bits behind := by
  induction codes generalizing reader with
  | @here count first index offset counts among stands =>
      obtain ⟨next, read, beforeNext⟩ := before.next?
      refine ⟨next, ?_, beforeNext⟩
      rw [PrefixCode.symbolFrom?, read, Option.bind_eq_bind, Option.bind_some]
      dsimp only
      rw [extended_eq, Nat.shiftRight_zero, if_pos (Nat.add_lt_add_left among first),
        Nat.add_sub_cancel_left, stands]
      rfl
  | @longer count first index number further counts later inductionHypothesis =>
      obtain ⟨middle, read, beforeMiddle⟩ := before.next?
      obtain ⟨next, symbolRead, beforeNext⟩ := inductionHypothesis beforeMiddle
      have behind : ¬ number >>> (further + 1) < first + count := by
        have least := later.first_le
        rw [Nat.shiftRight_succ]
        omega
      refine ⟨next, ?_, beforeNext⟩
      rw [PrefixCode.symbolFrom?, read, Option.bind_eq_bind, Option.bind_some]
      dsimp only
      rw [extended_eq, if_neg behind]
      exact symbolRead

end Codes

end Words

/-- The word of a symbol, whatever follows it, is read back as the symbol. -/
theorem symbol?_of_word?
    {code : PrefixCode}
    {symbol : Nat}
    {word bits : List Nat}
    {reader : BitReader}
    {behind : Bytes}
    (enough : fits code.counts 1 0 = true)
    (found : code.word? symbol = some word)
    (before : reader.Before (word ++ bits) behind) :
    ∃ next, code.symbol? reader = some (symbol, next) ∧ next.Before bits behind := by
  obtain ⟨number, further, codes, rfl⟩ := exists_codes_of_wordFrom? found
  have small := codes.lt_two_pow enough
  rw [Nat.add_comm] at before small
  have nothingYet : 2 * (number >>> (further + 1)) = 0 := by
    rw [Nat.shiftRight_eq_div_pow, Nat.div_eq_of_lt small]
  obtain ⟨next, read, beforeNext⟩ := codes.symbolFrom? before
  rw [nothingYet] at read
  exact ⟨next, read, beforeNext⟩

/-- A word has bits, and nothing else. -/
theorem binary_of_word?
    {code : PrefixCode}
    {symbol : Nat}
    {word : List Nat}
    (found : code.word? symbol = some word) :
    word ≠ [] ∧ ∀ bit ∈ word, bit < 2 := by
  obtain ⟨number, further, -, rfl⟩ := exists_codes_of_wordFrom? found
  refine ⟨?_, fun bit => lt_two_of_mem_binary⟩
  rw [← List.length_pos_iff, length_binary]
  exact Nat.lt_of_lt_of_le Nat.one_pos (Nat.le_add_right 1 further)

/-- A symbol has a word when it is given a length. -/
theorem isSome_word?_ofLengths
    {lengths : List Nat}
    {symbol length : Nat}
    (given : lengths[symbol]? = some length)
    (positive : 0 < length)
    (bounded : length ≤ maxLength) :
    ((ofLengths lengths).word? symbol).isSome := by
  let groups := (List.range maxLength).map fun index => symbolsOfLength lengths (index + 1)
  have among : symbol ∈ symbolsOfLength lengths length :=
    List.mem_filterMap.mpr
      ⟨(length, symbol), List.mk_mem_zipIdx_iff_getElem?.mpr given, if_pos rfl⟩
  have grouped : symbolsOfLength lengths length ∈ groups := by
    refine List.mem_map.mpr ⟨length - 1, List.mem_range.mpr (by omega), ?_⟩
    rw [Nat.sub_add_cancel positive]
  obtain ⟨place, stands⟩ :=
    List.mem_iff_getElem?.mp (List.mem_flatten.mpr ⟨_, grouped, among⟩)
  obtain ⟨below, -⟩ := List.getElem?_eq_some_iff.mp stands
  rw [List.length_flatten] at below
  exact isSome_wordFrom? (List.getElem?_toArray.trans stands) (Nat.zero_le place)
    ((Nat.zero_add _).symm ▸ below)

end Compression.PrefixCode

end EventWire
