import EventWire.Binary64.Numeral
import EventWire.Binary64.Shortest
import EventWire.Proofs.Binary64.Rounding

namespace EventWire

/-!
# Decimals that stand for a double

Rounding a decimal depends on the number it writes alone, so trailing zeros may
be taken off its digits, and the decimal that is exactly a double is rounded to
that double.  A numeral with its leading zeros stands for the double nearest to
the number written, also where the numeral is too far from the point for its
power of ten to be formed.
-/

namespace Binary64

section Ratio

variable (digits : Nat) (exponent : Int)

theorem decimalRatio_snd_pos :
    0 < (decimalRatio digits exponent).2 := by
  unfold decimalRatio
  split
  · exact Nat.one_pos
  · exact Nat.pow_pos (by decide)

theorem decimalRatio_eq_mul_zpow :
    ((decimalRatio digits exponent).1 : ℚ) / (decimalRatio digits exponent).2 =
      digits * 10 ^ exponent := by
  unfold decimalRatio
  split
  · next up =>
      obtain ⟨count, rfl⟩ := Int.eq_ofNat_of_zero_le up
      simp
  · next down =>
      obtain ⟨count, rfl⟩ : ∃ count : Nat, exponent = -count :=
        ⟨(-exponent).toNat, by omega⟩
      simp [div_eq_mul_inv]

end Ratio

theorem ten_pos : (0 : ℚ) < 10 := by
  norm_num

theorem ten_ne_zero : (10 : ℚ) ≠ 0 :=
  ne_of_gt ten_pos

theorem one_le_ten : (1 : ℚ) ≤ 10 := by
  norm_num

/-- The bits below the sign of the double nearest to a decimal. -/
def decimalBits (digits : Nat) (exponent : Int) : Nat :=
  roundedBits (decimalRatio digits exponent).1 (decimalRatio digits exponent).2

theorem ofDecimal_eq
    (negative : Bool)
    (digits : Nat)
    (exponent : Int) :
    ofDecimal negative digits exponent = ofMagnitude negative (decimalBits digits exponent) :=
  ofRatio_eq ..

theorem readsAs_iff
    {decimal : Decimal}
    {number : Binary64} :
    decimal.readsAs number = true ↔
      decimalBits decimal.digits decimal.exponent = number.magnitudeBits := by
  rw [Decimal.readsAs, beq_iff_eq, ofDecimal, magnitudeBits_ofRatio]
  rfl

/-- Two ways to write one number are rounded alike. -/
theorem decimalBits_congr
    {digits other : Nat}
    {exponent power : Int}
    (same : (digits : ℚ) * 10 ^ exponent = other * 10 ^ power) :
    decimalBits digits exponent = decimalBits other power := by
  have divides := decimalRatio_snd_pos digits exponent
  have dividesOther := decimalRatio_snd_pos other power
  refine roundedBits_congr divides dividesOther ?_
  rw [mul_eq_mul_iff_div_eq_div divides dividesOther, decimalRatio_eq_mul_zpow,
    decimalRatio_eq_mul_zpow, same]

theorem decimalBits_zero (exponent : Int) :
    decimalBits 0 exponent = 0 := by
  have zero : (decimalRatio 0 exponent).1 = 0 := by
    unfold decimalRatio
    split
    · exact Nat.zero_mul _
    · rfl
  rw [decimalBits, roundedBits, if_pos zero]

/-- The power of ten beyond which no numeral is formed exceeds the range of doubles. -/
theorem two_pow_le_ten_pow :
    2 ^ 1076 ≤ 10 ^ 400 := by
  decide +kernel

theorem decimalBits_of_large
    {digits : Nat}
    {exponent : Int}
    (large : (10 : ℚ) ^ (400 : ℤ) ≤ digits * 10 ^ exponent) :
    decimalBits digits exponent = infinityBits := by
  apply roundedBits_of_two_pow_le (decimalRatio_snd_pos digits exponent)
  rw [decimalRatio_eq_mul_zpow]
  refine le_trans ?_ large
  refine le_trans (zpow_le_zpow_right₀ one_le_two (by decide : (1024 : ℤ) ≤ 1076)) ?_
  exact_mod_cast two_pow_le_ten_pow

theorem decimalBits_of_small
    {digits : Nat}
    {exponent : Int}
    (small : (digits : ℚ) * 10 ^ exponent < 10 ^ (-400 : ℤ)) :
    decimalBits digits exponent = 0 := by
  apply roundedBits_of_lt_two_pow (decimalRatio_snd_pos digits exponent)
  rw [decimalRatio_eq_mul_zpow]
  refine lt_of_lt_of_le small ?_
  rw [zpow_neg, zpow_neg]
  apply inv_anti₀ (zpow_pos two_pos _)
  exact_mod_cast two_pow_le_ten_pow

namespace Numeral

theorem value_eq_ofDigitChars (digits : List Char) :
    value digits = Nat.ofDigitChars 10 digits 0 :=
  rfl

theorem value_append_replicate_zero
    (digits : List Char)
    (count : Nat) :
    value (digits ++ List.replicate count '0') = value digits * 10 ^ count := by
  rw [value_eq_ofDigitChars, Nat.ofDigitChars_append, Nat.ofDigitChars_replicate_zero,
    Nat.mul_comm]
  rfl

theorem value_replicate_zero_append
    (count : Nat)
    (digits : List Char) :
    value (List.replicate count '0' ++ digits) = value digits := by
  rw [value_eq_ofDigitChars, Nat.ofDigitChars_append, Nat.ofDigitChars_replicate_zero,
    Nat.mul_zero]
  rfl

theorem value_toDigits (number : Nat) :
    value (Nat.toDigits 10 number) = number := by
  rw [value_eq_ofDigitChars, Nat.ofDigitChars_ten_toDigits]

theorem value_cons
    (digit : Char)
    (digits : List Char) :
    value (digit :: digits) = 10 ^ digits.length * digitValue digit + value digits := by
  rw [value_eq_ofDigitChars, Nat.ofDigitChars_cons, Nat.ofDigitChars_eq_ofDigitChars_zero,
    Nat.mul_zero, Nat.zero_add]
  rfl

/-- Leading zeros do not count. -/
theorem value_dropWhile_zero (digits : List Char) :
    value (digits.dropWhile (· == '0')) = value digits := by
  induction digits with
  | nil => rfl
  | cons digit rest inductionHypothesis =>
      by_cases zero : digit = '0'
      · subst zero
        rw [List.dropWhile_cons_of_pos rfl, inductionHypothesis, value_cons]
        simp [digitValue]
      · rw [List.dropWhile_cons_of_neg (by simpa using zero)]

theorem digitValue_le
    {digit : Char}
    (isDigit : digit.isDigit = true) :
    digitValue digit ≤ 9 := by
  have bounds := Char.isDigit_iff_toNat.mp isDigit
  exact Nat.sub_le_of_le_add bounds.2

theorem value_lt
    {digits : List Char}
    (all : ∀ digit ∈ digits, digit.isDigit = true) :
    value digits < 10 ^ digits.length := by
  induction digits with
  | nil => exact Nat.one_pos
  | cons digit rest inductionHypothesis =>
      rw [List.forall_mem_cons] at all
      have first := digitValue_le all.1
      have behind := inductionHypothesis all.2
      rw [value_cons, List.length_cons, Nat.pow_succ]
      have bound := Nat.mul_le_mul_left (10 ^ rest.length) first
      omega

theorem le_value
    {digit : Char}
    {digits : List Char}
    (isDigit : digit.isDigit = true)
    (nonzero : digit ≠ '0') :
    10 ^ digits.length ≤ value (digit :: digits) := by
  have bounds := Char.isDigit_iff_toNat.mp isDigit
  have positive : 0 < digitValue digit := by
    refine Nat.sub_pos_of_lt (Nat.lt_of_le_of_ne bounds.1 fun same => nonzero ?_)
    exact (Char.toNat_inj.mp same).symm
  rw [value_cons]
  exact Nat.le_add_right_of_le (Nat.le_mul_of_pos_right _ positive)

/-- The number that digits without a leading zero write has as many digits. -/
theorem le_value_dropWhile_zero
    {digits : List Char}
    (all : ∀ digit ∈ digits, digit.isDigit = true)
    (nonempty : digits.dropWhile (· == '0') ≠ []) :
    10 ^ ((digits.dropWhile (· == '0')).length - 1) ≤ value digits := by
  have behind := List.dropWhile_suffix (· == '0') (l := digits)
  have first := List.head_dropWhile_not (· == '0') nonempty
  rw [← value_dropWhile_zero]
  cases kept : digits.dropWhile (· == '0') with
  | nil => exact absurd kept nonempty
  | cons digit rest =>
      rw [kept] at behind
      simp only [kept, List.head_cons] at first
      refine le_value (all digit (behind.subset (List.mem_cons_self ..))) ?_
      simpa using first

section OutOfRange

variable {digits : List Char} {power : Int}

theorem decimalBits_value_of_tiny
    (all : ∀ digit ∈ digits, digit.isDigit = true)
    (tiny : ((digits.dropWhile (· == '0')).length : ℤ) + power ≤ -400) :
    decimalBits (value digits) power = 0 := by
  have kept : ∀ digit ∈ digits.dropWhile (· == '0'), digit.isDigit = true :=
    fun digit member => all digit ((List.dropWhile_suffix _).subset member)
  have below := value_lt kept
  rw [value_dropWhile_zero] at below
  generalize (digits.dropWhile (· == '0')).length = length at below tiny
  have bound : (value digits : ℚ) < 10 ^ (length : ℤ) := by exact_mod_cast below
  have scaled := mul_lt_mul_of_pos_right bound (zpow_pos ten_pos power)
  rw [← zpow_add₀ ten_ne_zero] at scaled
  apply decimalBits_of_small
  exact lt_of_lt_of_le scaled (zpow_le_zpow_right₀ one_le_ten tiny)

theorem decimalBits_value_of_huge
    (all : ∀ digit ∈ digits, digit.isDigit = true)
    (nonempty : digits.dropWhile (· == '0') ≠ [])
    (huge : 400 < ((digits.dropWhile (· == '0')).length : ℤ) + power) :
    decimalBits (value digits) power = infinityBits := by
  have reached := le_value_dropWhile_zero all nonempty
  have positive := List.length_pos_of_ne_nil nonempty
  generalize (digits.dropWhile (· == '0')).length = length at reached positive huge
  have bound : (10 : ℚ) ^ ((length : ℤ) - 1) ≤ value digits := by
    rw [show (length : ℤ) - 1 = ((length - 1 : ℕ) : ℤ) by omega, zpow_natCast]
    exact_mod_cast reached
  have scaled := mul_le_mul_of_nonneg_right bound (zpow_pos ten_pos power).le
  rw [← zpow_add₀ ten_ne_zero] at scaled
  apply decimalBits_of_large
  exact le_trans (zpow_le_zpow_right₀ one_le_ten (by omega)) scaled

end OutOfRange

/-- A numeral stands for the double nearest to the number that its digits write. -/
theorem toBinary64_eq
    (negative : Bool)
    {numeral : Numeral}
    (all : ∀ digit ∈ numeral.whole ++ numeral.fraction, digit.isDigit = true) :
    numeral.toBinary64 negative =
      ofDecimal negative (value (numeral.whole ++ numeral.fraction))
        (numeral.exponent - numeral.fraction.length) := by
  unfold toBinary64
  generalize numeral.whole ++ numeral.fraction = digits at all
  generalize numeral.exponent - (numeral.fraction.length : ℤ) = power
  have sameValue := value_dropWhile_zero digits
  rw [ofDecimal_eq]
  dsimp only
  split
  · next low =>
      rcases low with empty | tiny
      · rw [empty] at sameValue
        rw [← sameValue, value_eq_ofDigitChars, Nat.ofDigitChars_nil, decimalBits_zero]
      · rw [decimalBits_value_of_tiny all tiny.le]
  · next notLow =>
      rw [not_or] at notLow
      split
      · next huge =>
          rw [decimalBits_value_of_huge all notLow.1 huge]
          rfl
      · rw [sameValue, ofDecimal_eq]

end Numeral

/-- The digits that trimming takes off write a power of ten. -/
theorem digits_trimmed (decimal : Decimal) :
    ∃ zeros : Nat,
      decimal.digits = decimal.trimmed.digits * 10 ^ zeros ∧
        decimal.trimmed.exponent = decimal.exponent + zeros := by
  let digits := Nat.toDigits 10 decimal.digits
  let zeros := digits.reverse.takeWhile (· == '0')
  have allZero : zeros = List.replicate zeros.length '0' := by
    rw [List.eq_replicate_iff]
    refine ⟨rfl, fun digit member => ?_⟩
    exact eq_of_beq (List.all_eq_true.mp List.all_takeWhile digit member)
  have split : digits = (digits.reverse.dropWhile (· == '0')).reverse ++ zeros.reverse := by
    rw [← List.reverse_append, List.takeWhile_append_dropWhile, List.reverse_reverse]
  have written : decimal.digits =
      Numeral.value (digits.reverse.dropWhile (· == '0')).reverse * 10 ^ zeros.length := by
    rw [← Numeral.value_append_replicate_zero, ← List.reverse_replicate, ← allZero, ← split,
      Numeral.value_toDigits]
  refine ⟨zeros.length, ?_, rfl⟩
  exact (Nat.div_mul_cancel (Dvd.intro_left _ written.symm)).symm

theorem decimalBits_trimmed (decimal : Decimal) :
    decimalBits decimal.trimmed.digits decimal.trimmed.exponent =
      decimalBits decimal.digits decimal.exponent := by
  obtain ⟨zeros, digits, exponent⟩ := digits_trimmed decimal
  apply decimalBits_congr
  rw [digits, exponent, zpow_add₀ ten_ne_zero, zpow_natCast]
  push_cast
  ring

section Finite

variable {number : Binary64}

/-- A finite double other than zero is rounded to itself. -/
theorem roundedBits_ratio
    {numerator denominator : Nat}
    (finite : number.isFinite = true)
    (nonzero : number.significand ≠ 0)
    (divides : 0 < denominator)
    (exact : (numerator : ℚ) / denominator = number.significand * 2 ^ number.scale) :
    roundedBits numerator denominator = number.magnitudeBits := by
  have small := number.fraction_lt
  have range : number.exponentField < 2047 := by simpa [isFinite] using finite
  have form :
      number.significand < 2 * fractionSize ∧
        -1074 ≤ number.scale ∧
        (number.scale = -1074 ∨ fractionSize ≤ number.significand) ∧
        (number.scale + 1074).toNat * fractionSize + number.significand =
          number.exponentField * fractionSize + number.fraction := by
    unfold significand scale
    by_cases least : number.exponentField = 0
    · rw [least, if_pos rfl]
      exact ⟨by omega, by decide, .inl rfl, rfl⟩
    · rw [if_neg least, Nat.max_eq_right (Nat.pos_of_ne_zero least)]
      refine ⟨by omega, by omega, .inr (Nat.le_add_right _ _), ?_⟩
      rw [show ((number.exponentField : ℤ) - 1075 + 1074).toNat = number.exponentField - 1 by omega,
        Nat.sub_mul, Nat.one_mul, ← Nat.add_assoc, Nat.sub_add_cancel]
      exact Nat.le_mul_of_pos_left _ (Nat.pos_of_ne_zero least)
  obtain ⟨bounded, low, normal, whole⟩ := form
  have inRange : number.exponentField * fractionSize + number.fraction ≤ infinityBits := by
    have steps := Nat.mul_le_mul_right fractionSize range
    rw [Nat.succ_mul] at steps
    exact Nat.le_trans (Nat.add_le_add_left small.le _) steps
  rw [roundedBits_of_eq_mul_zpow divides (Nat.pos_of_ne_zero nonzero) exact bounded low normal
    (by rw [whole]; exact inRange), whole, magnitudeBits_eq]

theorem exactDecimal_eq (number : Binary64) :
    (number.exactDecimal.digits : ℚ) * 10 ^ number.exactDecimal.exponent =
      number.significand * 2 ^ number.scale := by
  unfold exactDecimal
  split
  · next whole =>
      obtain ⟨count, countEq⟩ := Int.eq_ofNat_of_zero_le whole
      simp [countEq, Nat.shiftLeft_eq]
  · next broken =>
      obtain ⟨count, countEq⟩ : ∃ count : Nat, number.scale = -count :=
        ⟨(-number.scale).toNat, by omega⟩
      have tenth : (5 : ℚ) ^ count * (10 ^ count)⁻¹ = (2 ^ count)⁻¹ := by
        rw [← div_eq_mul_inv, div_eq_iff (by positivity), show (10 : ℚ) = 2 * 5 by norm_num,
          mul_pow, ← mul_assoc, inv_mul_cancel₀ (by positivity), one_mul]
      simp only [countEq, neg_neg, Int.toNat_natCast, Nat.pow_eq, Nat.cast_mul, Nat.cast_pow,
        Nat.cast_ofNat, zpow_neg, zpow_natCast, mul_assoc, tenth]

theorem readsAs_exactDecimal
    (finite : number.isFinite = true)
    (nonzero : number.significand ≠ 0) :
    number.exactDecimal.readsAs number = true := by
  rw [readsAs_iff]
  apply roundedBits_ratio finite nonzero (decimalRatio_snd_pos _ _)
  rw [decimalRatio_eq_mul_zpow, exactDecimal_eq]

theorem readsAs_of_decimalOfLength?
    {length : Nat}
    {decimal : Decimal}
    (found : number.decimalOfLength? length = some decimal) :
    decimal.readsAs number = true := by
  unfold decimalOfLength? at found
  dsimp only at found
  split at found
  · next below =>
      cases found
      exact below.1
  · split at found
    · next above =>
        cases found
        exact above
    · simp at found

/-- The decimal that is written reads as the double. -/
theorem decimalBits_shortestDecimal
    (finite : number.isFinite = true)
    (nonzero : number.significand ≠ 0) :
    decimalBits number.shortestDecimal.digits number.shortestDecimal.exponent =
      number.magnitudeBits := by
  rw [shortestDecimal, decimalBits_trimmed, ← readsAs_iff]
  cases found : ((List.range 17).map (· + 1)).findSome? number.decimalOfLength? with
  | none => exact readsAs_exactDecimal finite nonzero
  | some decimal =>
      obtain ⟨_, length, _, _, chosen, _⟩ := List.findSome?_eq_some_iff.mp found
      exact readsAs_of_decimalOfLength? chosen

end Finite

end Binary64

end EventWire
