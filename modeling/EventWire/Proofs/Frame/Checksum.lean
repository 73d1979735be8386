import EventWire.Frame.Checksum
import EventWire.Proofs.BigEndian
import Mathlib.Logic.Function.Basic

namespace EventWire

/-!
# What the checksum tells apart

Moving the register loses nothing: the bit that leaves comes back as the highest
one, which the polynomial sets.  So registers that differ stay different whatever
they take.  Moving it is also linear, so that two octets enter it as one word of
its own width.  One octet or two neighbours therefore leave the checksum different
from what any others in their place would leave.
-/

namespace Frame.Checksum

/-- The bit that leaves a register is its lowest. -/
theorem and_one_eq_zero_iff (register : UInt16) :
    register &&& 1 = 0 ↔ register.toBitVec[0] = false := by
  rw [← UInt16.toBitVec_inj, UInt16.toBitVec_and]
  constructor
  · intro empty
    have low := congrArg (·[0]) empty
    simpa using low
  · intro clear
    refine BitVec.eq_of_getElem_eq fun bit inside => ?_
    cases bit with
    | zero => simpa using clear
    | succ bit => simp [BitVec.getElem_one]

/-- A bit of a moved register is the next higher one, reduced by the polynomial. -/
theorem getElem_shift
    (register : UInt16)
    {bit : Nat}
    (inside : bit < 16) :
    (shift register).toBitVec[bit] =
      (register.toBitVec.getLsbD (bit + 1) ^^
        (register.toBitVec[0] && polynomial.toBitVec[bit])) := by
  rw [shift]
  cases low : register.toBitVec[0] with
  | false =>
      rw [if_pos ((and_one_eq_zero_iff register).mpr low)]
      simp [Nat.add_comm]
  | true =>
      have leaves : ¬ register &&& 1 = 0 := fun clear =>
        nomatch low.symm.trans ((and_one_eq_zero_iff register).mp clear)
      rw [if_neg leaves]
      simp [Nat.add_comm]

theorem shift_injective : Function.Injective shift := by
  intro one other same
  have bits {bit : Nat} (inside : bit < 16) :
      (one.toBitVec.getLsbD (bit + 1) ^^ (one.toBitVec[0] && polynomial.toBitVec[bit])) =
        (other.toBitVec.getLsbD (bit + 1) ^^ (other.toBitVec[0] && polynomial.toBitVec[bit])) := by
    rw [← getElem_shift one inside, ← getElem_shift other inside, same]
  -- Nothing moves into the highest bit, so it shows what left.
  have low : one.toBitVec[0] = other.toBitVec[0] := by
    have top := bits (show 15 < 16 by decide)
    have highest : polynomial.toBitVec[15] = true := rfl
    rw [highest, Bool.and_true, Bool.and_true, BitVec.getLsbD_of_ge _ 16 (by decide),
      BitVec.getLsbD_of_ge _ 16 (by decide), Bool.false_xor, Bool.false_xor] at top
    exact top
  refine UInt16.toBitVec_inj.mp (BitVec.eq_of_getLsbD_eq fun bit inside => ?_)
  cases bit with
  | zero => exact low
  | succ bit =>
      have equal := bits (Nat.lt_of_succ_lt inside)
      rw [low] at equal
      exact Bool.xor_left_inj.mp equal

/-- Where a step leads tells what the register was joined to before it moved. -/
theorem xor_eq_of_step_eq
    {one other : UInt16}
    {octet another : UInt8}
    (same : step one octet = step other another) :
    one ^^^ octet.toUInt16 = other ^^^ another.toUInt16 := by
  iterate 8 replace same := shift_injective same
  exact same

theorem step_injective (octet : UInt8) : Function.Injective (step · octet) :=
  fun _ _ same => (UInt16.xor_left_inj _).mp (xor_eq_of_step_eq same)

theorem step_injective_octet (register : UInt16) : Function.Injective (step register) :=
  fun _ _ same => UInt8.toUInt16_inj.mp ((UInt16.xor_right_inj _).mp (xor_eq_of_step_eq same))

/-- Registers that differ stay different. -/
theorem feed_injective (octets : Bytes) : Function.Injective (feed · octets) := by
  induction octets with
  | nil => exact fun _ _ same => same
  | cons octet rest inductionHypothesis =>
      exact fun _ _ same => step_injective octet (inductionHypothesis same)

/-- Registers that are joined move like each alone. -/
theorem shift_xor (one other : UInt16) :
    shift (one ^^^ other) = shift one ^^^ shift other := by
  refine UInt16.toBitVec_inj.mp (BitVec.eq_of_getElem_eq fun bit inside => ?_)
  rw [UInt16.toBitVec_xor, BitVec.getElem_xor, getElem_shift _ inside, getElem_shift _ inside,
    getElem_shift _ inside, UInt16.toBitVec_xor, BitVec.getLsbD_xor, BitVec.getElem_xor,
    Bool.and_xor_distrib_right, Bool.xor_assoc, Bool.xor_assoc,
    Bool.xor_left_comm (other.toBitVec.getLsbD _)]

theorem step_xor (one other : UInt16) (octet another : UInt8) :
    step (one ^^^ other) (octet ^^^ another) = step one octet ^^^ step other another := by
  have joined :
      one ^^^ other ^^^ (octet ^^^ another).toUInt16 =
        (one ^^^ octet.toUInt16) ^^^ (other ^^^ another.toUInt16) := by
    rw [UInt8.toUInt16_xor]
    ac_rfl
  simp only [step, joined, shift_xor]

/-- An octet in the upper half of the register comes down whole, for no bit leaves. -/
theorem step_shiftLeft (octet : UInt8) : step (octet.toUInt16 <<< 8) 0 = octet.toUInt16 := by
  have all :
      ∀ number < 256,
        step ((UInt8.ofNat number).toUInt16 <<< 8) 0 = (UInt8.ofNat number).toUInt16 := by
    decide +kernel
  have came := all octet.toNat octet.toNat_lt
  rwa [UInt8.ofNat_toNat] at came

theorem step_eq_step_zero (register : UInt16) (octet : UInt8) :
    step register octet = step (register ^^^ octet.toUInt16) 0 := by
  rw [step, step, show (0 : UInt8).toUInt16 = 0 from rfl, UInt16.xor_zero]

/-- Two octets enter the register as one word, the first as its lower half. -/
theorem step_step (register : UInt16) (octet another : UInt8) :
    step (step register octet) another =
      step (step (register ^^^ (octet.toUInt16 ^^^ another.toUInt16 <<< 8)) 0) 0 := by
  have upper := step_xor (register ^^^ octet.toUInt16) (another.toUInt16 <<< 8) 0 0
  rw [UInt8.xor_zero, step_shiftLeft, ← step_eq_step_zero] at upper
  rw [← UInt16.xor_assoc, upper, ← step_eq_step_zero]

/-- A word is made of one pair of octets only. -/
theorem eq_of_word_eq
    {low high otherLow otherHigh : UInt8}
    (same :
      low.toUInt16 ^^^ high.toUInt16 <<< 8 = otherLow.toUInt16 ^^^ otherHigh.toUInt16 <<< 8) :
    low = otherLow ∧ high = otherHigh := by
  have lower (low high : UInt8) : (low.toUInt16 ^^^ high.toUInt16 <<< 8).toUInt8 = low := by
    have empty : (high.toUInt16 <<< 8).toUInt8 = 0 := by
      apply UInt8.toNat_inj.mp
      simp [Nat.shiftLeft_eq]
    rw [UInt16.toUInt8_xor, empty, UInt8.xor_zero, UInt8.toUInt8_toUInt16]
  have lows : low = otherLow := by
    rw [← lower low high, same, lower]
  subst lows
  have highs := (UInt16.xor_right_inj _).mp same
  refine ⟨rfl, UInt8.toUInt16_inj.mp ?_⟩
  rw [← step_shiftLeft, highs, step_shiftLeft]

/-- At most two octets are told from any others in their place. -/
theorem eq_of_feed_eq
    {register : UInt16}
    {part other : Bytes}
    (sameLength : part.length = other.length)
    (short : part.length ≤ 2)
    (same : feed register part = feed register other) :
    part = other := by
  match part, other with
  | [], [] => rfl
  | [octet], [another] => rw [step_injective_octet register same]
  | [first, second], [otherFirst, otherSecond] =>
      have words :
          step (step register first) second = step (step register otherFirst) otherSecond :=
        same
      rw [step_step, step_step register otherFirst] at words
      obtain ⟨rfl, rfl⟩ :=
        eq_of_word_eq ((UInt16.xor_right_inj _).mp (step_injective 0 (step_injective 0 words)))
      rfl
  | _ :: _ :: _ :: _, _ => simp at short

theorem final_injective : Function.Injective final :=
  fun _ _ same => (UInt16.xor_left_inj _).mp same

end Frame.Checksum

/-- The first two octets are the checksum of all others. -/
def Frame.Checked (octets : Bytes) : Prop :=
  octets.take 2 = BigEndian.encode16 (Checksum.ofBytes (octets.drop 2))

/-- What stands behind octets that are replaced by as many others stays where it is. -/
theorem Frame.drop_eq_of_replaced
    {front part other back : Bytes}
    {count : Nat}
    (sameLength : part.length = other.length)
    (before : front.length + part.length ≤ count) :
    (front ++ part ++ back).drop count = (front ++ other ++ back).drop count := by
  have behind (middle : Bytes) (before : front.length + middle.length ≤ count) :
      (front ++ middle ++ back).drop count =
        back.drop (count - (front.length + middle.length)) := by
    rw [← List.length_append] at before ⊢
    rw [List.drop_append, List.drop_of_length_le before, List.nil_append]
  rw [behind part before, behind other (sameLength ▸ before), sameLength]

/--
One octet or two neighbours cannot be replaced and leave the checksum right, be they
in the checksum or among what it covers.
-/
theorem Frame.Checked.eq_of_append
    {front part other back : Bytes}
    (checked : Checked (front ++ part ++ back))
    (otherChecked : Checked (front ++ other ++ back))
    (sameLength : part.length = other.length)
    (short : part.length ≤ 2)
    (place : front.length + part.length ≤ 2 ∨ 2 ≤ front.length) :
    part = other := by
  rw [Checked] at checked otherChecked
  rcases place with inChecksum | covered
  · -- What the checksum covers is the same, so the checksum is.
    have behind : (front ++ part ++ back).drop 2 = (front ++ other ++ back).drop 2 :=
      drop_eq_of_replaced sameLength inChecksum
    have checksum := checked.trans (behind ▸ otherChecked.symm)
    have whole : front ++ part ++ back = front ++ other ++ back := by
      rw [← List.take_append_drop 2 (front ++ part ++ back), checksum, behind,
        List.take_append_drop]
    exact List.append_cancel_left (List.append_cancel_right whole)
  · -- The checksum is the same, so what it covers is not different.
    rw [List.append_assoc, List.take_append_of_le_length covered,
      List.drop_append_of_le_length covered] at checked otherChecked
    have checksum := BigEndian.eq_of_encode16_eq (checked.symm.trans otherChecked)
    have registers := Checksum.final_injective checksum
    rw [Checksum.feed_append, Checksum.feed_append, Checksum.feed_append,
      Checksum.feed_append] at registers
    exact Checksum.eq_of_feed_eq sameLength short (Checksum.feed_injective back registers)

end EventWire
