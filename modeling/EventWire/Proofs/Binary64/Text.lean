import EventWire.Proofs.Binary64.Decimal

namespace EventWire

/-!
# Doubles read back

The text of a double that is a number is a numeral, and reading it gives the
double, sign of zero included.  It is written in plain characters, none of which
closes a field.
-/

/-- What a prefix holds out for and the rest does not begin with ends the prefix. -/
theorem span_append
    {Item : Type}
    {holds : Item → Bool}
    {front behind : List Item}
    (all : ∀ item ∈ front, holds item = true)
    (stops : ∀ item ∈ behind.head?, holds item = false) :
    (front ++ behind).span holds = (front, behind) := by
  rw [List.span_eq_takeWhile_dropWhile, List.takeWhile_append_of_pos all,
    List.dropWhile_append_of_pos all]
  cases behind with
  | nil =>
      rw [List.takeWhile_nil, List.dropWhile_nil, List.append_nil]
  | cons item rest =>
      have stopped : ¬ holds item = true := Bool.eq_false_iff.mp (stops item rfl)
      rw [List.takeWhile_cons_of_neg stopped, List.dropWhile_cons_of_neg stopped,
        List.append_nil]

theorem span_of_forall
    {Item : Type}
    {holds : Item → Bool}
    {items : List Item}
    (all : ∀ item ∈ items, holds item = true) :
    items.span holds = (items, []) := by
  have split : (items ++ []).span holds = (items, []) := span_append all nofun
  rwa [List.append_nil] at split

namespace Binary64

namespace Numeral

variable {whole fraction : List Char}

theorem read?_of_digits
    (all : ∀ digit ∈ whole, digit.isDigit = true)
    (nonempty : whole ≠ []) :
    read? whole = some ⟨whole, [], 0⟩ := by
  have split : whole.span Char.isDigit = (whole, []) := span_of_forall all
  simp only [read?, split, List.append_nil, nonempty, ↓reduceIte]

theorem read?_of_point
    (all : ∀ digit ∈ whole ++ fraction, digit.isDigit = true)
    (nonempty : whole ≠ []) :
    read? (whole ++ '.' :: fraction) = some ⟨whole, fraction, 0⟩ := by
  rw [List.forall_mem_append] at all
  have split : (whole ++ '.' :: fraction).span Char.isDigit = (whole, '.' :: fraction) :=
    span_append all.1 (by simp)
  have splitFraction : fraction.span Char.isDigit = (fraction, []) := span_of_forall all.2
  simp only [read?, split, splitFraction, List.append_eq_nil_iff, nonempty, false_and,
    ↓reduceIte]

end Numeral

namespace Decimal

variable (decimal : Decimal) (negative : Bool)

theorem isDigit_toDigits :
    ∀ digit ∈ Nat.toDigits 10 decimal.digits, digit.isDigit = true :=
  fun _ member => Nat.isDigit_of_mem_toDigits (by decide) (by decide) member

theorem isDigit_replicate_zero (count : Nat) :
    ∀ digit ∈ List.replicate count '0', digit.isDigit = true := by
  intro digit member
  rw [List.eq_of_mem_replicate member]
  rfl

/-- A numeral that writes the number of a decimal stands for the double nearest to it. -/
theorem toBinary64_of_value
    {numeral : Numeral}
    (all : ∀ digit ∈ numeral.whole ++ numeral.fraction, digit.isDigit = true)
    (same :
      (Numeral.value (numeral.whole ++ numeral.fraction) : ℚ) *
          10 ^ (numeral.exponent - numeral.fraction.length) =
        decimal.digits * 10 ^ decimal.exponent) :
    numeral.toBinary64 negative =
      ofMagnitude negative (decimalBits decimal.digits decimal.exponent) := by
  rw [Numeral.toBinary64_eq negative all, ofDecimal_eq, decimalBits_congr same]

/-- A decimal in positions reads as the double nearest to it. -/
theorem read?_positional :
    (Numeral.read? decimal.positional).map (Numeral.toBinary64 negative) =
      some (ofMagnitude negative (decimalBits decimal.digits decimal.exponent)) := by
  have digits := decimal.isDigit_toDigits
  have nonempty : Nat.toDigits 10 decimal.digits ≠ [] := Nat.toDigits_ne_nil
  unfold positional
  dsimp only
  split
  · next whole =>
      obtain ⟨count, countEq⟩ := Int.eq_ofNat_of_zero_le whole
      have all := List.forall_mem_append.mpr
        ⟨digits, isDigit_replicate_zero decimal.exponent.toNat⟩
      rw [Numeral.read?_of_digits all (List.append_ne_nil_of_left_ne_nil nonempty _),
        Option.map_some]
      congr 1
      apply toBinary64_of_value
      · rw [List.append_nil]
        exact all
      · rw [List.append_nil, Numeral.value_append_replicate_zero, Numeral.value_toDigits, countEq]
        simp
  · next broken =>
      obtain ⟨places, placesEq⟩ : ∃ places : Nat, decimal.exponent = -places :=
        ⟨(-decimal.exponent).toNat, by omega⟩
      have placesNat : (-decimal.exponent).toNat = places := by omega
      rw [placesNat]
      split
      · next few =>
          have all := List.forall_mem_append.mpr
            ⟨isDigit_replicate_zero (places - (Nat.toDigits 10 decimal.digits).length), digits⟩
          have allWithZero :=
            List.forall_mem_append.mpr ⟨isDigit_replicate_zero 1, all⟩
          rw [List.cons_append, List.cons_append]
          change (Numeral.read? (List.replicate 1 '0' ++ '.' :: _)).map _ = _
          rw [Numeral.read?_of_point allWithZero (by simp), Option.map_some]
          congr 1
          apply toBinary64_of_value decimal negative allWithZero
          rw [Numeral.value_replicate_zero_append, Numeral.value_replicate_zero_append,
            Numeral.value_toDigits, List.length_append, List.length_replicate,
            Nat.sub_add_cancel few, placesEq, zero_sub]
      · next many =>
          have whole := List.take_append_drop
            ((Nat.toDigits 10 decimal.digits).length - places) (Nat.toDigits 10 decimal.digits)
          have all := digits
          rw [← whole] at all
          rw [Numeral.read?_of_point all, Option.map_some]
          · congr 1
            apply toBinary64_of_value decimal negative all
            rw [whole, Numeral.value_toDigits, List.length_drop, placesEq, zero_sub,
              Nat.sub_sub_self (Nat.le_of_not_le many)]
          · rw [ne_eq, List.take_eq_nil_iff]
            rintro (short | empty)
            · exact many (Nat.sub_eq_zero_iff_le.mp short)
            · exact nonempty empty

/-- A decimal in positions begins with a digit. -/
theorem head?_positional :
    ∃ digit ∈ decimal.positional.head?, digit.isDigit = true := by
  have digits := decimal.isDigit_toDigits
  have first : ∀ count rest,
      0 < count →
        ∃ digit ∈ ((Nat.toDigits 10 decimal.digits).take count ++ rest).head?,
          digit.isDigit = true := by
    intro count rest positive
    cases written : Nat.toDigits 10 decimal.digits with
    | nil => exact absurd written Nat.toDigits_ne_nil
    | cons digit others =>
        obtain ⟨count, rfl⟩ := Nat.exists_eq_add_of_lt positive
        rw [written] at digits
        exact ⟨digit, by simp, digits digit (List.mem_cons_self ..)⟩
  unfold positional
  dsimp only
  split
  · have whole := first (Nat.toDigits 10 decimal.digits).length
      (List.replicate decimal.exponent.toNat '0') Nat.length_toDigits_pos
    rwa [List.take_length] at whole
  · split
    · exact ⟨'0', rfl, rfl⟩
    · next many => exact first _ _ (Nat.sub_pos_of_lt (Nat.lt_of_not_le many))

end Decimal

theorem toLower_of_isDigit
    {digit : Char}
    (isDigit : digit.isDigit = true) :
    digit.toLower = digit := by
  have bounds := Char.isDigit_iff_toNat.mp isDigit
  have noCapital : ¬ (digit.val ≥ 'A'.val ∧ digit.val ≤ 'Z'.val) := by
    rintro ⟨above, -⟩
    have large : 'A'.toNat ≤ digit.toNat := UInt32.le_iff_toNat_le.mp above
    exact absurd (Nat.le_trans large bounds.2) (by decide)
  exact dif_neg noCapital

/-- A text that begins with a digit is no word. -/
theorem readMagnitude?_of_digit
    {text : List Char}
    (begins : ∃ digit ∈ text.head?, digit.isDigit = true)
    (negative : Bool) :
    readMagnitude? negative text =
      (Numeral.read? text).map (Numeral.toBinary64 negative) := by
  obtain ⟨digit, first, isDigit⟩ := begins
  obtain ⟨rest, rfl⟩ := List.head?_eq_some_iff.mp first
  have noWord : ∀ letter word,
      letter.isDigit = false →
        (digit :: rest).map Char.toLower ≠ letter :: word := by
    intro letter word noDigit same
    rw [List.map_cons, toLower_of_isDigit isDigit] at same
    rw [(List.cons.inj same).1, noDigit] at isDigit
    exact Bool.noConfusion isDigit
  have noInf : (digit :: rest).map Char.toLower ≠ "inf".toList :=
    noWord 'i' ['n', 'f'] rfl
  have noInfinity : (digit :: rest).map Char.toLower ≠ "infinity".toList :=
    noWord 'i' ['n', 'f', 'i', 'n', 'i', 't', 'y'] rfl
  have noNaN : (digit :: rest).map Char.toLower ≠ "nan".toList :=
    noWord 'n' ['a', 'n'] rfl
  rw [readMagnitude?, if_neg (not_or.mpr ⟨noInf, noInfinity⟩), if_neg noNaN]

section Magnitude

variable {number : Binary64}

theorem magnitudeBits_of_infinite
    (isNumber : number.isNaN = false)
    (infinite : ¬ number.isFinite = true) :
    number.magnitudeBits = infinityBits := by
  have bound : number.exponentField < 2048 :=
    Nat.div_lt_of_lt_mul number.magnitudeBits_lt
  rw [isFinite, decide_eq_true_eq] at infinite
  have full : number.exponentField = 2047 := by omega
  rw [isNaN, full, beq_self_eq_true, Bool.true_and, bne_eq_false_iff_eq] at isNumber
  rw [magnitudeBits_eq, full, isNumber]
  rfl

theorem magnitudeBits_of_zero
    (zero : number.significand = 0) :
    number.magnitudeBits = 0 := by
  unfold significand at zero
  split at zero
  · next least => rw [magnitudeBits_eq, least, zero, Nat.zero_mul]
  · exact absurd zero (by simp [fractionSize])

/-- The text of the magnitude reads as the double of either sign. -/
theorem readMagnitude?_magnitudeText
    (isNumber : number.isNaN = false)
    (negative : Bool) :
    readMagnitude? negative number.magnitudeText =
      some (ofMagnitude negative number.magnitudeBits) := by
  unfold magnitudeText
  split
  · next infinite =>
      rw [magnitudeBits_of_infinite isNumber infinite, readMagnitude?,
        if_pos (.inl (by decide))]
      rfl
  · next finite =>
      rw [Classical.not_not] at finite
      split
      · next zero =>
          have written : ['0'] = (Decimal.mk 0 0).positional := rfl
          rw [written, readMagnitude?_of_digit (Decimal.head?_positional _),
            Decimal.read?_positional, decimalBits_zero, magnitudeBits_of_zero zero]
      · next nonzero =>
          rw [readMagnitude?_of_digit (Decimal.head?_positional _), Decimal.read?_positional,
            decimalBits_shortestDecimal finite nonzero]

theorem head?_magnitudeText (number : Binary64) :
    ∃ first ∈ number.magnitudeText.head?, first ≠ '-' ∧ first ≠ '+' := by
  have digit : ∀ decimal : Decimal,
      ∃ first ∈ decimal.positional.head?, first ≠ '-' ∧ first ≠ '+' := by
    intro decimal
    obtain ⟨first, member, isDigit⟩ := decimal.head?_positional
    refine ⟨first, member, ?_, ?_⟩
    · rintro rfl
      exact absurd isDigit (by decide)
    · rintro rfl
      exact absurd isDigit (by decide)
  unfold magnitudeText
  split
  · exact ⟨'i', rfl, by decide, by decide⟩
  · split
    · exact digit ⟨0, 0⟩
    · exact digit _

end Magnitude

theorem read?_of_unsigned
    {text : List Char}
    (unsigned : ∃ first ∈ text.head?, first ≠ '-' ∧ first ≠ '+') :
    read? text = readMagnitude? false text := by
  obtain ⟨first, member, noMinus, noPlus⟩ := unsigned
  obtain ⟨rest, rfl⟩ := List.head?_eq_some_iff.mp member
  unfold read?
  split
  · next minus => exact absurd (List.cons.inj minus).1 noMinus
  · next plus => exact absurd (List.cons.inj plus).1 noPlus
  · rfl

/-- Reading the text of a double that is a number gives the double. -/
theorem read?_text
    {number : Binary64}
    (isNumber : number.isNaN = false) :
    read? number.text = some number := by
  have magnitude := readMagnitude?_magnitudeText isNumber number.isNegative
  rw [ofMagnitude_magnitudeBits] at magnitude
  unfold text
  rw [if_neg (Bool.eq_false_iff.mp isNumber)]
  split
  · next negative =>
      rw [negative] at magnitude
      exact magnitude
  · next positive =>
      rw [Bool.eq_false_iff.mpr positive] at magnitude
      rw [read?_of_unsigned number.head?_magnitudeText]
      exact magnitude

/-- Every double's text is a numeral; that of not-a-number may read as another one. -/
theorem exists_read?_text (number : Binary64) :
    ∃ read, read? number.text = some read := by
  cases isNaN : number.isNaN with
  | false => exact ⟨number, read?_text isNaN⟩
  | true =>
      refine ⟨quietNaN false, ?_⟩
      rw [text, if_pos isNaN]
      rfl

/-- A character that is written in one octet, and not in a NUL. -/
def IsPlain (character : Char) : Prop :=
  0 < character.toNat ∧ character.toNat < 128

instance (character : Char) : Decidable (IsPlain character) :=
  inferInstanceAs (Decidable (_ ∧ _))

theorem forall_isPlain_of_all
    {characters : List Char}
    (all : characters.all (fun character => decide (IsPlain character)) = true) :
    ∀ character ∈ characters, IsPlain character := by
  intro character member
  exact of_decide_eq_true (List.all_eq_true.mp all character member)

theorem isPlain_of_isDigit
    {digit : Char}
    (isDigit : digit.isDigit = true) :
    IsPlain digit := by
  have bounds := Char.isDigit_iff_toNat.mp isDigit
  exact ⟨Nat.lt_of_lt_of_le (by decide) bounds.1, Nat.lt_of_le_of_lt bounds.2 (by decide)⟩

theorem Decimal.isPlain_positional
    (decimal : Decimal) :
    ∀ character ∈ decimal.positional, IsPlain character := by
  have digits := decimal.isDigit_toDigits
  have zeros := Decimal.isDigit_replicate_zero
  have point : IsPlain '.' := ⟨by decide, by decide⟩
  have zero : IsPlain '0' := ⟨by decide, by decide⟩
  intro character member
  unfold positional at member
  dsimp only at member
  split at member
  · rcases List.mem_append.mp member with digit | filler
    · exact isPlain_of_isDigit (digits character digit)
    · exact isPlain_of_isDigit (zeros _ character filler)
  · split at member
    · rw [List.cons_append, List.cons_append, List.mem_cons, List.mem_cons, List.mem_append]
        at member
      rcases member with rfl | rfl | filler | digit
      · exact zero
      · exact point
      · exact isPlain_of_isDigit (zeros _ character filler)
      · exact isPlain_of_isDigit (digits character digit)
    · rw [List.mem_append, List.mem_cons] at member
      rcases member with whole | rfl | fraction
      · exact isPlain_of_isDigit (digits character (List.mem_of_mem_take whole))
      · exact point
      · exact isPlain_of_isDigit (digits character (List.mem_of_mem_drop fraction))

theorem isPlain_text (number : Binary64) :
    ∀ character ∈ number.text, IsPlain character := by
  have magnitude : ∀ character ∈ number.magnitudeText, IsPlain character := by
    unfold magnitudeText
    split
    · exact forall_isPlain_of_all rfl
    · split
      · exact forall_isPlain_of_all rfl
      · exact number.shortestDecimal.isPlain_positional
  unfold text
  split
  · exact forall_isPlain_of_all rfl
  · split
    · rw [List.forall_mem_cons]
      exact ⟨⟨by decide, by decide⟩, magnitude⟩
    · exact magnitude

end Binary64

end EventWire
