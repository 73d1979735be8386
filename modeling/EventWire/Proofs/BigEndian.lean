import EventWire.BigEndian

namespace EventWire

/-!
# Words read back

Reading the octets of a word gives the word, and writing the word that octets
stand for gives the octets.  Both follow from the number that octets stand for,
each octet weighing 256 times the next.
-/

namespace BigEndian

/-- Moving an octet up inside a wider word loses nothing. -/
theorem shiftLeft_mod_eq
    (octet : UInt8)
    {shift size : Nat}
    (fits : 256 <<< shift ≤ size) :
    octet.toNat <<< shift % size = octet.toNat <<< shift := by
  apply Nat.mod_eq_of_lt
  rw [Nat.shiftLeft_eq] at fits ⊢
  exact Nat.lt_of_lt_of_le
    (Nat.mul_lt_mul_of_pos_right octet.toNat_lt (Nat.two_pow_pos shift)) fits

/-- The number that two octets stand for. -/
theorem toNat_decode16 (high low : UInt8) :
    (decode16 high low).toNat = 256 * high.toNat + low.toNat := by
  simp only [decode16, UInt16.toNat_or, UInt16.toNat_shiftLeft, UInt8.toNat_toUInt16,
    UInt16.reduceToNat, Nat.reduceMod]
  rw [shiftLeft_mod_eq high (by decide),
    ← Nat.shiftLeft_add_eq_or_of_lt low.toNat_lt, Nat.shiftLeft_eq]
  omega

/-- The number that four octets stand for. -/
theorem toNat_decode32 (first second third fourth : UInt8) :
    (decode32 first second third fourth).toNat =
      16777216 * first.toNat + 65536 * second.toNat + 256 * third.toNat + fourth.toNat := by
  have secondBound := second.toNat_lt
  have thirdBound := third.toNat_lt
  have fourthBound := fourth.toNat_lt
  simp only [decode32, UInt32.toNat_or, UInt32.toNat_shiftLeft, UInt8.toNat_toUInt32,
    UInt32.reduceToNat, Nat.reduceMod]
  rw [shiftLeft_mod_eq first (by decide), shiftLeft_mod_eq second (by decide),
    shiftLeft_mod_eq third (by decide), Nat.or_assoc, Nat.or_assoc,
    ← Nat.shiftLeft_add_eq_or_of_lt fourthBound,
    ← Nat.shiftLeft_add_eq_or_of_lt (i := 16) (by rw [Nat.shiftLeft_eq]; omega),
    ← Nat.shiftLeft_add_eq_or_of_lt (i := 24) (by simp only [Nat.shiftLeft_eq]; omega)]
  simp only [Nat.shiftLeft_eq]
  omega

/-- A 16-bit word is the one its octets stand for. -/
@[simp] theorem decode16_encode16 (word : UInt16) :
    decode16 (word >>> 8).toUInt8 word.toUInt8 = word := by
  apply UInt16.toNat_inj.mp
  have bound := word.toNat_lt
  simp [toNat_decode16, Nat.shiftRight_eq_div_pow]
  omega

/-- Words with the same octets are the same. -/
theorem eq_of_encode16_eq {one other : UInt16} (same : encode16 one = encode16 other) :
    one = other := by
  simp only [encode16, List.cons.injEq, and_true] at same
  rw [← decode16_encode16 one, ← decode16_encode16 other, same.1, same.2]

/-- A 32-bit word is the one its octets stand for. -/
@[simp] theorem decode32_encode32 (word : UInt32) :
    decode32 (word >>> 24).toUInt8 (word >>> 16).toUInt8 (word >>> 8).toUInt8 word.toUInt8 =
      word := by
  apply UInt32.toNat_inj.mp
  have bound := word.toNat_lt
  simp [toNat_decode32, Nat.shiftRight_eq_div_pow]
  omega

/-- Two octets are those of the word they stand for. -/
@[simp] theorem encode16_decode16 (high low : UInt8) :
    encode16 (decode16 high low) = [high, low] := by
  have highBound := high.toNat_lt
  have lowBound := low.toNat_lt
  simp only [encode16, List.cons.injEq, and_true]
  constructor
  · apply UInt8.toNat_inj.mp
    simp [toNat_decode16, Nat.shiftRight_eq_div_pow]
    omega
  · apply UInt8.toNat_inj.mp
    simp [toNat_decode16]

/-- Four octets are those of the word they stand for. -/
@[simp] theorem encode32_decode32 (first second third fourth : UInt8) :
    encode32 (decode32 first second third fourth) = [first, second, third, fourth] := by
  have firstBound := first.toNat_lt
  have secondBound := second.toNat_lt
  have thirdBound := third.toNat_lt
  have fourthBound := fourth.toNat_lt
  simp only [encode32, List.cons.injEq, and_true]
  refine ⟨?_, ?_, ?_, ?_⟩
  all_goals
    apply UInt8.toNat_inj.mp
    simp [toNat_decode32, Nat.shiftRight_eq_div_pow]
    omega

end BigEndian

end EventWire
