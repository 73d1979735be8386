import EventWire.Binary64
import Mathlib.Data.Int.Log
import Mathlib.Data.Rat.Floor
import Mathlib.Tactic.Linarith
import Mathlib.Tactic.Ring

namespace EventWire

/-!
# Rounding to a double

The double nearest to a quotient depends on the quotient alone, not on how it
is written as numerator and denominator.  A quotient that a double stands for
is rounded to that double; one beyond the range of doubles becomes infinite,
and one below half the least double becomes zero.
-/

namespace Binary64

section Bits

theorem magnitudeBits_lt (number : Binary64) :
    number.magnitudeBits < signBit :=
  Nat.mod_lt _ (by decide)

theorem magnitudeBits_ofMagnitude
    (negative : Bool)
    {magnitude : Nat}
    (small : magnitude < signBit) :
    (ofMagnitude negative magnitude).magnitudeBits = magnitude := by
  simp only [signBit] at small
  cases negative <;>
    simp only [magnitudeBits, ofMagnitude, UInt64.toNat_ofNat', signBit, Bool.false_eq_true,
      ↓reduceIte] <;>
    omega

/-- A double is its sign and the bits below it. -/
theorem ofMagnitude_magnitudeBits (number : Binary64) :
    ofMagnitude number.isNegative number.magnitudeBits = number := by
  obtain ⟨bits⟩ := number
  have bound := bits.toNat_lt
  have whole :
      (if signBit ≤ bits.toNat then signBit else 0) + bits.toNat % signBit = bits.toNat := by
    have twice : 2 ^ 64 = signBit + signBit := rfl
    by_cases negative : signBit ≤ bits.toNat
    · rw [if_pos negative, Nat.mod_eq_sub_mod negative, Nat.mod_eq_of_lt (by omega)]
      omega
    · rw [if_neg negative, Nat.mod_eq_of_lt (Nat.lt_of_not_le negative), Nat.zero_add]
  simp only [ofMagnitude, isNegative, magnitudeBits, decide_eq_true_eq, whole, UInt64.ofNat_toNat]

theorem magnitudeBits_eq (number : Binary64) :
    number.magnitudeBits = number.exponentField * fractionSize + number.fraction :=
  (Nat.div_add_mod' ..).symm

theorem fraction_lt (number : Binary64) :
    number.fraction < fractionSize :=
  Nat.mod_lt _ (by decide)

end Bits

/-- The bits below the sign of the double nearest to a quotient. -/
def roundedBits (numerator denominator : Nat) : Nat :=
  if numerator = 0 then 0
  else
    let scale := max (binaryMagnitude numerator denominator - 52) (-1074)
    let scaled := shifted numerator denominator (-scale)
    min infinityBits
      ((scale + 1074).toNat * fractionSize + roundHalfEven scaled.1 scaled.2)

theorem ofRatio_eq
    (negative : Bool)
    (numerator denominator : Nat) :
    ofRatio negative numerator denominator =
      ofMagnitude negative (roundedBits numerator denominator) := by
  unfold ofRatio roundedBits
  split <;> rfl

theorem roundedBits_le (numerator denominator : Nat) :
    roundedBits numerator denominator ≤ infinityBits := by
  unfold roundedBits
  split
  · exact Nat.zero_le _
  · exact Nat.min_le_left _ _

theorem magnitudeBits_ofRatio
    (negative : Bool)
    (numerator denominator : Nat) :
    (ofRatio negative numerator denominator).magnitudeBits =
      roundedBits numerator denominator := by
  rw [ofRatio_eq, magnitudeBits_ofMagnitude]
  exact Nat.lt_of_le_of_lt (roundedBits_le ..) (by decide)

section Shifted

variable (numerator denominator : Nat) (power : Int)

theorem shifted_snd_pos
    {denominator : Nat}
    (positive : 0 < denominator) :
    0 < (shifted numerator denominator power).2 := by
  unfold shifted
  split
  · exact positive
  · rw [Nat.shiftLeft_eq]
    exact Nat.mul_pos positive (Nat.two_pow_pos _)

/-- Shifting multiplies by a power of two. -/
theorem shifted_eq_mul_zpow :
    ((shifted numerator denominator power).1 : ℚ) / (shifted numerator denominator power).2 =
      (numerator : ℚ) / denominator * 2 ^ power := by
  unfold shifted
  split
  · next up =>
      obtain ⟨count, rfl⟩ := Int.eq_ofNat_of_zero_le up
      simp only [Int.toNat_natCast, Nat.shiftLeft_eq, Nat.cast_mul, Nat.cast_pow,
        Nat.cast_ofNat, zpow_natCast]
      ring
  · next down =>
      obtain ⟨count, rfl⟩ : ∃ count : Nat, power = -count :=
        ⟨(-power).toNat, by omega⟩
      simp only [neg_neg, Int.toNat_natCast, Nat.shiftLeft_eq, Nat.cast_mul, Nat.cast_pow,
        Nat.cast_ofNat, zpow_neg, zpow_natCast]
      ring

theorem shifted_snd_le_fst_iff
    {denominator : Nat}
    (divides : 0 < denominator) :
    (shifted numerator denominator (-power)).2 ≤ (shifted numerator denominator (-power)).1 ↔
      (2 : ℚ) ^ power ≤ (numerator : ℚ) / denominator := by
  have scaledPositive :
      (0 : ℚ) < ((shifted numerator denominator (-power)).2 : ℚ) := by
    exact_mod_cast shifted_snd_pos numerator (-power) divides
  have compared :
      (shifted numerator denominator (-power)).2 ≤
          (shifted numerator denominator (-power)).1 ↔
        ((shifted numerator denominator (-power)).2 : ℚ) ≤
          ((shifted numerator denominator (-power)).1 : ℚ) :=
    Nat.cast_le.symm
  rw [compared, ← one_le_div scaledPositive, shifted_eq_mul_zpow, zpow_neg, ← div_eq_mul_inv,
    one_le_div (zpow_pos two_pos power)]

/-- A multiple of a power of two is whole once it is shifted down by that power. -/
theorem shifted_fst_of_eq_mul_zpow
    {numerator denominator whole : Nat}
    {power : Int}
    (divides : 0 < denominator)
    (exact : (numerator : ℚ) / denominator = whole * 2 ^ power) :
    (shifted numerator denominator (-power)).1 =
      whole * (shifted numerator denominator (-power)).2 := by
  have divided := shifted_snd_pos numerator (-power) divides
  have shiftedEq := shifted_eq_mul_zpow numerator denominator (-power)
  have cancel : (2 : ℚ) ^ power * 2 ^ (-power) = 1 := by
    rw [← zpow_add₀ two_ne_zero, add_neg_cancel, zpow_zero]
  rw [exact, mul_assoc, cancel, mul_one, div_eq_iff (by exact_mod_cast Nat.ne_of_gt divided)]
    at shiftedEq
  exact_mod_cast shiftedEq

end Shifted

section Magnitude

theorem two_zpow_log2_le
    {number : Nat}
    (positive : 0 < number) :
    (2 : ℚ) ^ (number.log2 : ℤ) ≤ number := by
  exact_mod_cast Nat.log2_self_le (Nat.ne_of_gt positive)

theorem lt_two_zpow_log2_succ (number : Nat) :
    (number : ℚ) < 2 ^ ((number.log2 : ℤ) + 1) := by
  exact_mod_cast Nat.lt_log2_self

theorem numerator_pos_of_div_pos
    {numerator denominator : Nat}
    (positive : (0 : ℚ) < (numerator : ℚ) / denominator) :
    0 < numerator := by
  refine Nat.pos_of_ne_zero fun zero => ?_
  rw [zero, Nat.cast_zero, zero_div] at positive
  exact lt_irrefl _ positive

/-- The lengths of two numbers give the logarithm of their quotient up to one. -/
theorem two_zpow_le_div_lt_two_zpow
    {numerator denominator : Nat}
    (positive : 0 < numerator)
    (divides : 0 < denominator) :
    (2 : ℚ) ^ ((numerator.log2 : ℤ) - (denominator.log2 : ℤ) - 1) ≤
        (numerator : ℚ) / denominator ∧
      (numerator : ℚ) / denominator <
        2 ^ ((numerator.log2 : ℤ) - (denominator.log2 : ℤ) + 1) := by
  have numeratorPositive : (0 : ℚ) < numerator := by exact_mod_cast positive
  have divisor : (0 : ℚ) < denominator := by exact_mod_cast divides
  constructor
  · have power : (numerator.log2 : ℤ) - (denominator.log2 : ℤ) - 1 =
        (numerator.log2 : ℤ) - ((denominator.log2 : ℤ) + 1) := by ring
    rw [power, zpow_sub₀ two_ne_zero]
    exact div_le_div₀ numeratorPositive.le (two_zpow_log2_le positive) divisor
      (lt_two_zpow_log2_succ denominator).le
  · have power : (numerator.log2 : ℤ) - (denominator.log2 : ℤ) + 1 =
        ((numerator.log2 : ℤ) + 1) - denominator.log2 := by ring
    rw [power, zpow_sub₀ two_ne_zero]
    exact div_lt_div₀ (lt_two_zpow_log2_succ numerator) (two_zpow_log2_le divides)
      (zpow_pos two_pos _).le (zpow_pos two_pos _)

/-- A quotient between two powers of two has the lower one as its logarithm. -/
theorem log_eq_of_bounds
    {value : ℚ}
    {power : Int}
    (reached : (2 : ℚ) ^ power ≤ value)
    (below : value < 2 ^ (power + 1)) :
    Int.log 2 value = power := by
  have positive : 0 < value := lt_of_lt_of_le (zpow_pos two_pos power) reached
  apply le_antisymm
  · rw [← Int.lt_add_one_iff]
    exact (Int.lt_zpow_iff_log_lt (by decide) positive).mp (by exact_mod_cast below)
  · exact (Int.zpow_le_iff_le_log (by decide) positive).mp (by exact_mod_cast reached)

theorem binaryMagnitude_eq_log
    {numerator denominator : Nat}
    (positive : 0 < numerator)
    (divides : 0 < denominator) :
    binaryMagnitude numerator denominator =
      Int.log 2 ((numerator : ℚ) / denominator) := by
  obtain ⟨least, above⟩ := two_zpow_le_div_lt_two_zpow positive divides
  simp only [binaryMagnitude]
  generalize (numerator.log2 : ℤ) - (denominator.log2 : ℤ) = estimate at above least ⊢
  split
  · next whole =>
      have reached := (shifted_snd_le_fst_iff numerator estimate divides).mp whole
      exact (log_eq_of_bounds reached above).symm
  · next short =>
      rw [shifted_snd_le_fst_iff numerator estimate divides, not_le] at short
      exact (log_eq_of_bounds least (by rwa [sub_add_cancel])).symm

theorem binaryMagnitude_of_eq_mul_zpow
    {numerator denominator significand : Nat}
    {scale : Int}
    (divides : 0 < denominator)
    (positive : 0 < significand)
    (exact : (numerator : ℚ) / denominator = significand * 2 ^ scale) :
    binaryMagnitude numerator denominator = (significand.log2 : ℤ) + scale := by
  have scalePositive : (0 : ℚ) < 2 ^ scale := zpow_pos two_pos scale
  have quotientPositive : (0 : ℚ) < (numerator : ℚ) / denominator := by
    rw [exact]
    exact mul_pos (by exact_mod_cast positive) scalePositive
  rw [binaryMagnitude_eq_log (numerator_pos_of_div_pos quotientPositive) divides, exact]
  apply log_eq_of_bounds
  · rw [zpow_add₀ two_ne_zero]
    exact mul_le_mul_of_nonneg_right (two_zpow_log2_le positive) scalePositive.le
  · rw [add_right_comm, zpow_add₀ two_ne_zero]
    exact mul_lt_mul_of_pos_right (lt_two_zpow_log2_succ significand) scalePositive

end Magnitude

/-- A quotient does not change when both of its parts are multiplied. -/
theorem roundHalfEven_mul
    {factor : Nat}
    (positive : 0 < factor)
    (numerator denominator : Nat) :
    roundHalfEven (factor * numerator) (factor * denominator) =
      roundHalfEven numerator denominator := by
  have twice :
      2 * (factor * (numerator % denominator)) = factor * (2 * (numerator % denominator)) := by
    ring
  simp only [roundHalfEven, Nat.mul_div_mul_left _ _ positive, Nat.mul_mod_mul_left, twice,
    Nat.mul_lt_mul_left positive]

theorem roundHalfEven_congr
    {numerator denominator other divisor : Nat}
    (divides : 0 < denominator)
    (dividesOther : 0 < divisor)
    (same : numerator * divisor = other * denominator) :
    roundHalfEven numerator denominator = roundHalfEven other divisor := by
  rw [← roundHalfEven_mul dividesOther numerator, ← roundHalfEven_mul divides other,
    Nat.mul_comm divisor numerator, same, Nat.mul_comm other, Nat.mul_comm divisor]

theorem roundHalfEven_of_eq_mul
    {numerator denominator whole : Nat}
    (divides : 0 < denominator)
    (exact : numerator = whole * denominator) :
    roundHalfEven numerator denominator = whole := by
  simp only [roundHalfEven, exact, Nat.mul_mod_left, Nat.mul_div_cancel _ divides, Nat.mul_zero,
    divides, ↓reduceIte]

theorem div_le_roundHalfEven (numerator denominator : Nat) :
    numerator / denominator ≤ roundHalfEven numerator denominator := by
  simp only [roundHalfEven]
  split
  · exact Nat.le_refl _
  · split
    · exact Nat.le_succ _
    · exact Nat.le_add_right _ _

theorem roundHalfEven_of_two_mul_lt
    {numerator denominator : Nat}
    (small : 2 * numerator < denominator) :
    roundHalfEven numerator denominator = 0 := by
  have below : numerator < denominator := by omega
  simp only [roundHalfEven, Nat.mod_eq_of_lt below, Nat.div_eq_of_lt below, small, ↓reduceIte]

/-- Equal quotients as equal products. -/
theorem mul_eq_mul_iff_div_eq_div
    {numerator denominator other divisor : Nat}
    (divides : 0 < denominator)
    (dividesOther : 0 < divisor) :
    numerator * divisor = other * denominator ↔
      (numerator : ℚ) / denominator = (other : ℚ) / divisor := by
  have first : (denominator : ℚ) ≠ 0 := by exact_mod_cast Nat.ne_of_gt divides
  have second : (divisor : ℚ) ≠ 0 := by exact_mod_cast Nat.ne_of_gt dividesOther
  rw [div_eq_div_iff first second]
  exact_mod_cast Iff.rfl

/-- Rounding sees only the quotient. -/
theorem roundedBits_congr
    {numerator denominator other divisor : Nat}
    (divides : 0 < denominator)
    (dividesOther : 0 < divisor)
    (same : numerator * divisor = other * denominator) :
    roundedBits numerator denominator = roundedBits other divisor := by
  rcases Nat.eq_zero_or_pos numerator with rfl | positive
  · rw [Nat.zero_mul, eq_comm, Nat.mul_eq_zero] at same
    have zero : other = 0 := same.resolve_right (Nat.ne_of_gt divides)
    rw [zero, roundedBits, roundedBits, if_pos rfl, if_pos rfl]
  · have positiveOther : 0 < other := by
      refine Nat.pos_of_ne_zero fun zero => ?_
      rw [zero, Nat.zero_mul] at same
      exact Nat.ne_of_gt (Nat.mul_pos positive dividesOther) same
    have quotients := (mul_eq_mul_iff_div_eq_div divides dividesOther).mp same
    have magnitudes : binaryMagnitude numerator denominator = binaryMagnitude other divisor := by
      rw [binaryMagnitude_eq_log positive divides,
        binaryMagnitude_eq_log positiveOther dividesOther, quotients]
    have rounded : ∀ power,
        roundHalfEven (shifted numerator denominator power).1
            (shifted numerator denominator power).2 =
          roundHalfEven (shifted other divisor power).1 (shifted other divisor power).2 := by
      intro power
      have divided := shifted_snd_pos numerator power divides
      have dividedOther := shifted_snd_pos other power dividesOther
      refine roundHalfEven_congr divided dividedOther ?_
      rw [mul_eq_mul_iff_div_eq_div divided dividedOther, shifted_eq_mul_zpow,
        shifted_eq_mul_zpow, quotients]
    simp only [roundedBits, Nat.ne_of_gt positive, Nat.ne_of_gt positiveOther, ↓reduceIte,
      magnitudes, rounded]

/-- A quotient that has the form of a double is rounded to that double. -/
theorem roundedBits_of_eq_mul_zpow
    {numerator denominator significand : Nat}
    {scale : Int}
    (divides : 0 < denominator)
    (positive : 0 < significand)
    (exact : (numerator : ℚ) / denominator = significand * 2 ^ scale)
    (small : significand < 2 * fractionSize)
    (low : -1074 ≤ scale)
    (normal : scale = -1074 ∨ fractionSize ≤ significand)
    (finite : (scale + 1074).toNat * fractionSize + significand ≤ infinityBits) :
    roundedBits numerator denominator =
      (scale + 1074).toNat * fractionSize + significand := by
  have nonzero : significand ≠ 0 := Nat.ne_of_gt positive
  have quotientPositive : (0 : ℚ) < (numerator : ℚ) / denominator := by
    rw [exact]
    exact mul_pos (by exact_mod_cast positive) (zpow_pos two_pos scale)
  have positiveNumerator := numerator_pos_of_div_pos quotientPositive
  have fewBits : significand.log2 < 53 := (Nat.log2_lt nonzero).mpr small
  have scaleEq : max (binaryMagnitude numerator denominator - 52) (-1074) = scale := by
    rw [binaryMagnitude_of_eq_mul_zpow divides positive exact]
    rcases normal with least | full
    · omega
    · have manyBits : 52 ≤ significand.log2 := (Nat.le_log2 nonzero).mpr full
      omega
  have divided := shifted_snd_pos numerator (-scale) divides
  have whole := shifted_fst_of_eq_mul_zpow divides exact
  simp only [roundedBits, Nat.ne_of_gt positiveNumerator, ↓reduceIte, scaleEq,
    roundHalfEven_of_eq_mul divided whole, Nat.min_eq_right finite]

/-- A quotient beyond the range of doubles becomes infinite. -/
theorem roundedBits_of_two_pow_le
    {numerator denominator : Nat}
    (divides : 0 < denominator)
    (large : (2 : ℚ) ^ (1024 : ℤ) ≤ (numerator : ℚ) / denominator) :
    roundedBits numerator denominator = infinityBits := by
  have positiveQuotient : (0 : ℚ) < (numerator : ℚ) / denominator :=
    lt_of_lt_of_le (zpow_pos two_pos _) large
  have positive := numerator_pos_of_div_pos positiveQuotient
  have magnitude : 1024 ≤ binaryMagnitude numerator denominator := by
    rw [binaryMagnitude_eq_log positive divides]
    exact (Int.zpow_le_iff_le_log (by decide) positiveQuotient).mp (by exact_mod_cast large)
  have reached :
      (2 : ℚ) ^ binaryMagnitude numerator denominator ≤ (numerator : ℚ) / denominator := by
    rw [binaryMagnitude_eq_log positive divides]
    exact_mod_cast Int.zpow_log_le_self (by decide) positiveQuotient
  have scaleEq :
      max (binaryMagnitude numerator denominator - 52) (-1074) =
        binaryMagnitude numerator denominator - 52 := by
    omega
  simp only [roundedBits, Nat.ne_of_gt positive, ↓reduceIte, scaleEq]
  generalize binaryMagnitude numerator denominator = power at magnitude reached
  have divided := shifted_snd_pos numerator (-(power - 52)) divides
  have full :
      fractionSize * (shifted numerator denominator (-(power - 52))).2 ≤
        (shifted numerator denominator (-(power - 52))).1 := by
    have shiftedEq := shifted_eq_mul_zpow numerator denominator (-(power - 52))
    have leading : (2 : ℚ) ^ power * 2 ^ (-(power - 52)) = fractionSize := by
      rw [← zpow_add₀ two_ne_zero, show power + -(power - 52) = (52 : ℕ) by ring, zpow_natCast]
      norm_num [fractionSize]
    have bound := mul_le_mul_of_nonneg_right reached (zpow_pos two_pos (-(power - 52))).le
    rw [leading, ← shiftedEq, le_div_iff₀ (by exact_mod_cast divided)] at bound
    exact_mod_cast bound
  have rounded := Nat.le_trans ((Nat.le_div_iff_mul_le divided).mpr full)
    (div_le_roundHalfEven _ _)
  have steps : 2046 ≤ (power - 52 + 1074).toNat := by omega
  have scaled := Nat.mul_le_mul_right fractionSize steps
  refine Nat.min_eq_left ?_
  simp only [infinityBits]
  omega

/-- A quotient below half the least double becomes zero. -/
theorem roundedBits_of_lt_two_pow
    {numerator denominator : Nat}
    (divides : 0 < denominator)
    (small : (numerator : ℚ) / denominator < 2 ^ (-1076 : ℤ)) :
    roundedBits numerator denominator = 0 := by
  rcases Nat.eq_zero_or_pos numerator with rfl | positive
  · rw [roundedBits, if_pos rfl]
  · have positiveQuotient : (0 : ℚ) < (numerator : ℚ) / denominator :=
      div_pos (by exact_mod_cast positive) (by exact_mod_cast divides)
    have magnitude : binaryMagnitude numerator denominator < -1076 := by
      rw [binaryMagnitude_eq_log positive divides]
      exact (Int.lt_zpow_iff_log_lt (by decide) positiveQuotient).mp (by exact_mod_cast small)
    have scaleEq : max (binaryMagnitude numerator denominator - 52) (-1074) = -1074 := by
      omega
    have divided := shifted_snd_pos numerator 1074 divides
    have tiny :
        2 * (shifted numerator denominator 1074).1 <
          (shifted numerator denominator 1074).2 := by
      have shiftedEq := shifted_eq_mul_zpow numerator denominator 1074
      have quarter : (2 : ℚ) ^ (-1076 : ℤ) * 2 ^ (1074 : ℤ) = 1 / 4 := by
        rw [← zpow_add₀ two_ne_zero]
        norm_num
      have bound := mul_lt_mul_of_pos_right small (zpow_pos two_pos (1074 : ℤ))
      rw [quarter, ← shiftedEq, div_lt_iff₀ (by exact_mod_cast divided)] at bound
      have half :
          2 * ((shifted numerator denominator 1074).1 : ℚ) <
            (shifted numerator denominator 1074).2 := by
        linarith
      exact_mod_cast half
    simp only [roundedBits, Nat.ne_of_gt positive, ↓reduceIte, scaleEq, Int.reduceNeg, neg_neg,
      roundHalfEven_of_two_mul_lt tiny]
    rfl

end Binary64

end EventWire
