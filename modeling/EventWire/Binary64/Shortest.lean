import EventWire.Binary64

namespace EventWire

/-!
# The shortest decimal

A double is written with the fewest significant digits that read back as the
same double; of several such decimals the one nearest to the double is taken,
and of two equally near ones the greater.  The decimal is always written out
in positions, without an exponent and without a point where it is whole.
-/

namespace Binary64

/-- A decimal number `digits * 10 ^ exponent`. -/
structure Decimal where
  digits : Nat
  exponent : Int
  deriving DecidableEq

namespace Decimal

/-- Whether reading a decimal yields a double of the given magnitude. -/
def readsAs (decimal : Decimal) (number : Binary64) : Bool :=
  (ofDecimal false decimal.digits decimal.exponent).magnitudeBits ==
    number.magnitudeBits

/-- The same decimal without trailing zeros among its digits. -/
def trimmed (decimal : Decimal) : Decimal :=
  let digits := Nat.toDigits 10 decimal.digits
  let zeros := (digits.reverse.takeWhile (· == '0')).length
  ⟨decimal.digits / Nat.pow 10 zeros, decimal.exponent + zeros⟩

/-- A decimal written out in positions. -/
def positional (decimal : Decimal) : List Char :=
  let digits := Nat.toDigits 10 decimal.digits
  if 0 ≤ decimal.exponent then
    digits ++ List.replicate decimal.exponent.toNat '0'
  else
    let places := (-decimal.exponent).toNat
    if digits.length ≤ places then
      '0' :: '.' :: List.replicate (places - digits.length) '0' ++ digits
    else
      digits.take (digits.length - places) ++
        '.' :: digits.drop (digits.length - places)

end Decimal

/--
The number of digits before the point of a positive double, negative if zeros
follow the point.

Every positive double is above `10 ^ -350`, so scaling by that power leaves
its leading digits in the whole part.
-/
def decimalMagnitude (number : Binary64) : Int :=
  let ratio := number.ratio
  ((Nat.toDigits 10 (Nat.pow 10 350 * ratio.1 / ratio.2)).length : Int) - 350

/--
The decimal of the given number of significant digits that reads as the given
double and is nearest to it, if there is one.

Of all decimals of that many digits the two around the double are nearest to
it, so if any reads as the double, one of them does.
-/
def decimalOfLength? (number : Binary64) (length : Nat) : Option Decimal :=
  let exponent := number.decimalMagnitude - length
  let ratio := number.ratio
  let unit := Decimal.mk 1 exponent
  let unitRatio := decimalRatio unit.digits unit.exponent
  let numerator := ratio.1 * unitRatio.2
  let denominator := ratio.2 * unitRatio.1
  let below : Decimal := ⟨numerator / denominator, exponent⟩
  let above : Decimal := ⟨numerator / denominator + 1, exponent⟩
  let belowIsNearer := 2 * (numerator % denominator) < denominator
  if below.readsAs number ∧ (belowIsNearer ∨ ¬ above.readsAs number) then some below
  else if above.readsAs number then some above
  else none

/-- The decimal that is exactly a finite double. -/
def exactDecimal (number : Binary64) : Decimal :=
  if 0 ≤ number.scale then ⟨number.significand <<< number.scale.toNat, 0⟩
  else ⟨number.significand * Nat.pow 5 (-number.scale).toNat, number.scale⟩

/--
The shortest decimal that reads as a positive double.

Seventeen digits always suffice; the exact decimal stands behind them.
-/
def shortestDecimal (number : Binary64) : Decimal :=
  ((((List.range 17).map (· + 1)).findSome? number.decimalOfLength?).getD
    number.exactDecimal).trimmed

/-- How a double is written without its sign. -/
def magnitudeText (number : Binary64) : List Char :=
  if ¬ number.isFinite then "inf".toList
  else if number.significand = 0 then ['0']
  else number.shortestDecimal.positional

/-- How a double is written; the sign of a zero is kept, that of not-a-number is not. -/
def text (number : Binary64) : List Char :=
  if number.isNaN then "NaN".toList
  else if number.isNegative then '-' :: number.magnitudeText
  else number.magnitudeText

end Binary64

end EventWire
