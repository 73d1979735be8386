import EventWire.Compression.Deflate
import Mathlib.Algebra.GroupWithZero.Nat

namespace EventWire

/-!
# Bits in octets

Bits that are packed into octets are read back one after the other, with zeros
behind them up to the end of the last octet.
-/

namespace Compression

/-- The bits of a number, the low one first. -/
def lowBits (number : Nat) : Nat → List Nat
  | 0 => []
  | width + 1 => number % 2 :: lowBits (number / 2) width

/-- The number that bits make up, the low one first. -/
def ofLowBits (bits : List Nat) : Nat :=
  bits.foldr (fun bit high => bit + 2 * high) 0

@[simp] theorem length_lowBits (number width : Nat) : (lowBits number width).length = width := by
  induction width generalizing number with
  | zero => rfl
  | succ width inductionHypothesis => rw [lowBits, List.length_cons, inductionHypothesis]

theorem lowBits_zero (width : Nat) : lowBits 0 width = .replicate width 0 := by
  induction width with
  | zero => rfl
  | succ width inductionHypothesis =>
      rw [lowBits, Nat.zero_mod, Nat.zero_div, inductionHypothesis, List.replicate_succ]

theorem ofLowBits_lowBits
    {number width : Nat}
    (fits : number < 2 ^ width) :
    ofLowBits (lowBits number width) = number := by
  induction width generalizing number with
  | zero => exact (Nat.lt_one_iff.mp fits).symm
  | succ width inductionHypothesis =>
      have half : number / 2 < 2 ^ width := by
        rw [Nat.pow_succ] at fits
        exact Nat.div_lt_of_lt_mul (Nat.mul_comm 2 _ ▸ fits)
      change number % 2 + 2 * ofLowBits (lowBits (number / 2) width) = number
      rw [inductionHypothesis half, Nat.mod_add_div]

theorem ofLowBits_append (low high : List Nat) :
    ofLowBits (low ++ high) = ofLowBits low + 2 ^ low.length * ofLowBits high := by
  induction low with
  | nil =>
      rw [List.nil_append, List.length_nil, Nat.pow_zero, Nat.one_mul]
      exact (Nat.zero_add _).symm
  | cons bit rest inductionHypothesis =>
      change bit + 2 * ofLowBits (rest ++ high) =
        bit + 2 * ofLowBits rest + 2 ^ (rest.length + 1) * ofLowBits high
      rw [inductionHypothesis, Nat.mul_add, ← Nat.add_assoc, Nat.pow_succ, Nat.mul_comm _ 2,
        Nat.mul_assoc]

section Packing

variable {bits : List Nat} (binary : ∀ bit ∈ bits, bit < 2)
include binary

theorem ofLowBits_lt : ofLowBits bits < 2 ^ bits.length := by
  induction bits with
  | nil => exact Nat.one_pos
  | cons bit rest inductionHypothesis =>
      obtain ⟨small, others⟩ := List.forall_mem_cons.mp binary
      have high := inductionHypothesis others
      change bit + 2 * ofLowBits rest < 2 ^ (rest.length + 1)
      rw [Nat.pow_succ]
      omega

/-- A number that bits make up has these bits, and zeros above them. -/
theorem lowBits_ofLowBits (above : Nat) :
    lowBits (ofLowBits bits) (bits.length + above) = bits ++ .replicate above 0 := by
  induction bits with
  | nil =>
      rw [List.length_nil, Nat.zero_add, List.nil_append]
      exact lowBits_zero above
  | cons bit rest inductionHypothesis =>
      obtain ⟨small, others⟩ := List.forall_mem_cons.mp binary
      have low : (bit + 2 * ofLowBits rest) % 2 = bit := by
        rw [Nat.add_mul_mod_self_left, Nat.mod_eq_of_lt small]
      have high : (bit + 2 * ofLowBits rest) / 2 = ofLowBits rest := by
        rw [Nat.add_mul_div_left _ _ Nat.two_pos, Nat.div_eq_of_lt small, Nat.zero_add]
      change lowBits (bit + 2 * ofLowBits rest) (rest.length + 1 + above) = _
      rw [Nat.succ_add, lowBits, low, high, inductionHypothesis others, List.cons_append]

end Packing

/-- The bits of octets, in the order in which they are read. -/
def bitsOf (octets : Bytes) : List Nat :=
  octets.flatMap fun octet => lowBits octet.toNat 8

theorem bitsOf_cons (octet : UInt8) (rest : Bytes) :
    bitsOf (octet :: rest) = lowBits octet.toNat 8 ++ bitsOf rest :=
  List.flatMap_cons

@[simp] theorem length_bitsOf (octets : Bytes) : (bitsOf octets).length = 8 * octets.length := by
  induction octets with
  | nil => rfl
  | cons octet rest inductionHypothesis =>
      rw [bitsOf_cons, List.length_append, length_lowBits, inductionHypothesis, List.length_cons]
      omega

namespace Deflate

/-- An octet that few bits make up has these bits, and zeros behind them. -/
theorem lowBits_packed
    {bits : List Nat}
    (binary : ∀ bit ∈ bits, bit < 2)
    (few : bits.length ≤ 8) :
    lowBits (packBits.packed bits).toNat 8 = bits ++ .replicate (8 - bits.length) 0 := by
  have small : ofLowBits bits < 2 ^ 8 :=
    Nat.lt_of_lt_of_le (ofLowBits_lt binary) (Nat.pow_le_pow_right Nat.two_pos few)
  have packed : (packBits.packed bits).toNat = ofLowBits bits := UInt8.toNat_ofNat_of_lt' small
  have filled := lowBits_ofLowBits binary (8 - bits.length)
  rwa [Nat.add_sub_cancel' few, ← packed] at filled

/-- Bits that are packed into octets are followed by zeros, but by less than an octet of them. -/
theorem exists_bitsOf_packBits
    {bits : List Nat}
    (binary : ∀ bit ∈ bits, bit < 2) :
    ∃ padding < 8, bitsOf (packBits bits) = bits ++ .replicate padding 0 := by
  fun_induction packBits bits with
  | case1 bit0 bit1 bit2 bit3 bit4 bit5 bit6 bit7 rest inductionHypothesis =>
      let eight := [bit0, bit1, bit2, bit3, bit4, bit5, bit6, bit7]
      obtain ⟨front, behind⟩ := (@List.forall_mem_append _ (· < 2) eight rest).mp binary
      obtain ⟨padding, few, shape⟩ := inductionHypothesis behind
      refine ⟨padding, few, ?_⟩
      rw [bitsOf_cons, shape, lowBits_packed front (Nat.le_refl 8)]
      rfl
  | case2 => exact ⟨0, by decide, rfl⟩
  | case3 few notEight some =>
      have one := List.length_pos_iff.mpr some
      have short : few.length < 8 := by
        rcases few with _ | ⟨bit0, _ | ⟨bit1, _ | ⟨bit2, _ | ⟨bit3, _ | ⟨bit4, _ | ⟨bit5, _ |
          ⟨bit6, _ | ⟨bit7, rest⟩⟩⟩⟩⟩⟩⟩⟩
        case cons.cons.cons.cons.cons.cons.cons.cons =>
          exact (notEight bit0 bit1 bit2 bit3 bit4 bit5 bit6 bit7 rest rfl).elim
        all_goals exact of_decide_eq_true rfl
      refine ⟨8 - few.length, by omega, ?_⟩
      rw [bitsOf_cons, lowBits_packed binary (Nat.le_of_lt short)]
      exact List.append_nil _

end Deflate

namespace BitReader

/-- A reader stands before these bits, and behind them there are whole octets. -/
structure Before (reader : BitReader) (bits : List Nat) (behind : Bytes) : Prop where
  begun : reader.unread < 8
  split :
    ∃ octets,
      reader.rest = octets ++ behind ∧
        lowBits reader.current reader.unread ++ bitsOf octets = bits

theorem before_ofBytes (octets behind : Bytes) :
    (ofBytes (octets ++ behind)).Before (bitsOf octets) behind where
  begun := Nat.zero_lt_succ 7
  split := ⟨octets, rfl, rfl⟩

namespace Before

variable {reader : BitReader} {bit : Nat} {bits front : List Nat} {behind : Bytes}

theorem next?
    (before : reader.Before (bit :: bits) behind) :
    ∃ next, reader.next? = some (bit, next) ∧ next.Before bits behind := by
  obtain ⟨current, unread, rest⟩ := reader
  obtain ⟨begun, octets, rest_eq, split⟩ := before
  cases unread with
  | succ unread =>
      obtain ⟨first, others⟩ := List.cons_eq_cons.mp split
      subst first
      exact ⟨⟨current / 2, unread, rest⟩, rfl, Nat.lt_of_succ_lt begun, octets, rest_eq, others⟩
  | zero =>
      cases octets with
      | nil => exact nomatch split
      | cons octet later =>
          obtain ⟨first, others⟩ := List.cons_eq_cons.mp split
          obtain rfl : rest = octet :: (later ++ behind) := rest_eq
          subst first
          exact ⟨⟨octet.toNat / 2, 7, later ++ behind⟩, rfl, Nat.lt_succ_self 7, later, rfl, others⟩

/-- A number is read from as many bits as it is wide. -/
theorem number?
    (before : reader.Before (front ++ bits) behind) :
    ∃ next,
      reader.number? front.length = some (ofLowBits front, next) ∧ next.Before bits behind := by
  induction front generalizing reader with
  | nil => exact ⟨reader, rfl, before⟩
  | cons bit rest inductionHypothesis =>
      obtain ⟨middle, low, beforeRest⟩ := before.next?
      obtain ⟨next, high, beforeNext⟩ := inductionHypothesis beforeRest
      refine ⟨next, ?_, beforeNext⟩
      simp only [List.length_cons, BitReader.number?, low, high, Option.bind_eq_bind,
        Option.bind_some]
      rfl

/-- Before less than an octet's worth of bits the reader has taken the last octet. -/
theorem rest_eq
    (before : reader.Before bits behind)
    (few : bits.length < 8) :
    reader.rest = behind := by
  obtain ⟨-, octets, rest, split⟩ := before
  have lengths := congrArg List.length split
  rw [List.length_append, length_lowBits, length_bitsOf] at lengths
  obtain rfl : octets = [] := List.length_eq_zero_iff.mp (by omega)
  exact rest

theorem align
    (before : reader.Before bits behind)
    (few : bits.length < 8) :
    reader.align = ofBytes behind := by
  rw [BitReader.align, before.rest_eq few, ofBytes]

/-- Behind the last bit of an octet a reader goes on with the next octets. -/
theorem resume
    {octets : Bytes}
    (before : reader.Before [] (octets ++ behind)) :
    reader.Before (bitsOf octets) behind := by
  have rest := before.rest_eq (by decide)
  obtain ⟨begun, others, -, split⟩ := before
  obtain ⟨nothing, -⟩ := List.append_eq_nil_iff.mp split
  refine ⟨begun, octets, rest, ?_⟩
  rw [nothing, List.nil_append]

/-- Two octets are read as one number, the low one first. -/
theorem word?
    {low high : UInt8}
    (before : reader.Before [] (low :: high :: behind)) :
    ∃ next,
      reader.number? 16 = some (low.toNat + 256 * high.toNat, next) ∧ next.Before [] behind := by
  have word : ofLowBits (bitsOf [low, high]) = low.toNat + 256 * high.toNat := by
    rw [bitsOf_cons, ofLowBits_append, length_lowBits, bitsOf_cons, ofLowBits_append,
      ofLowBits_lowBits low.toNat_lt, ofLowBits_lowBits high.toNat_lt]
    rfl
  have resumed := @resume _ _ [low, high] before
  rw [← List.append_nil (bitsOf [low, high])] at resumed
  rw [← word]
  exact resumed.number?

/-- The bits that are left are no more than the reader counts. -/
theorem length_le_size (before : reader.Before bits behind) : bits.length ≤ reader.size := by
  obtain ⟨-, octets, rest, split⟩ := before
  rw [← split, List.length_append, length_lowBits, length_bitsOf, size, rest, List.length_append]
  omega

end Before

end BitReader

end Compression

end EventWire
