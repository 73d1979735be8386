namespace EventWire

/-!
# Binary64 numbers

A double is kept as its 64 bits: a sign, an 11-bit exponent field and a 52-bit
fraction.  A finite one stands for `significand * 2 ^ scale`, so everything
this library does with doubles is exact arithmetic on naturals, and two
doubles are equal exactly when their bits are.
-/

/-- An IEEE 754 double, given by its bits. -/
structure Binary64 where
  bits : UInt64
  deriving DecidableEq, Inhabited

namespace Binary64

/-- What the sign bit is worth: `2 ^ 63`. -/
def signBit : Nat := 9223372036854775808

/-- The number of fractions: `2 ^ 52`. -/
def fractionSize : Nat := 4503599627370496

/-- The bits below the sign. -/
def magnitudeBits (number : Binary64) : Nat :=
  number.bits.toNat % signBit

/-- Whether the sign bit is set; zero and not-a-number carry one too. -/
def isNegative (number : Binary64) : Bool :=
  signBit ≤ number.bits.toNat

/-- The exponent field, from 0 to 2047. -/
def exponentField (number : Binary64) : Nat :=
  number.magnitudeBits / fractionSize

/-- The fraction field. -/
def fraction (number : Binary64) : Nat :=
  number.magnitudeBits % fractionSize

/-- Whether the number is neither an infinity nor not-a-number. -/
def isFinite (number : Binary64) : Bool :=
  number.exponentField < 2047

/-- Whether the bits stand for no number. -/
def isNaN (number : Binary64) : Bool :=
  number.exponentField == 2047 && number.fraction != 0

/-- The whole number that a finite double scales by a power of two. -/
def significand (number : Binary64) : Nat :=
  if number.exponentField = 0 then number.fraction else fractionSize + number.fraction

/-- The power of two by which a finite double scales its significand. -/
def scale (number : Binary64) : Int :=
  (max 1 number.exponentField : Nat) - 1075

/-- The bits below the sign of an infinity. -/
def infinityBits : Nat :=
  2047 * fractionSize

/-- The double with the given sign and the given bits below it. -/
def ofMagnitude (negative : Bool) (magnitude : Nat) : Binary64 where
  bits := UInt64.ofNat ((if negative then signBit else 0) + magnitude)

/-- Infinity of either sign. -/
def infinity (negative : Bool) : Binary64 :=
  ofMagnitude negative infinityBits

/-- A quiet not-a-number of either sign. -/
def quietNaN (negative : Bool) : Binary64 :=
  ofMagnitude negative (infinityBits + fractionSize / 2)

/--
The double `significand * 2 ^ scale`.

Here `-1074 ≤ scale`, and the significand is at most `2 ^ 53` and, above the
least scale, at least `2 ^ 52`.  A significand of `2 ^ 53` carries into the
exponent field, and what would not fit that field is infinite.
-/
def ofScaled (negative : Bool) (significand : Nat) (scale : Int) : Binary64 :=
  ofMagnitude negative
    (min infinityBits ((scale + 1074).toNat * fractionSize + significand))

/-- The whole number nearest to a quotient; a half goes to the even neighbour. -/
def roundHalfEven (numerator denominator : Nat) : Nat :=
  let quotient := numerator / denominator
  let remainder := numerator % denominator
  if 2 * remainder < denominator then quotient
  else if denominator < 2 * remainder then quotient + 1
  else quotient + quotient % 2

/-- A positive quotient times a power of two, as numerator and denominator. -/
def shifted (numerator denominator : Nat) (power : Int) : Nat × Nat :=
  if 0 ≤ power then (numerator <<< power.toNat, denominator)
  else (numerator, denominator <<< (-power).toNat)

/-- The greatest power of two that a positive quotient reaches. -/
def binaryMagnitude (numerator denominator : Nat) : Int :=
  let estimate : Int := (numerator.log2 : Int) - (denominator.log2 : Int)
  let scaled := shifted numerator denominator (-estimate)
  if scaled.2 ≤ scaled.1 then estimate else estimate - 1

/-- The double nearest to a quotient; a half goes to the even neighbour. -/
def ofRatio (negative : Bool) (numerator denominator : Nat) : Binary64 :=
  if numerator = 0 then ofMagnitude negative 0
  else
    let scale := max (binaryMagnitude numerator denominator - 52) (-1074)
    let scaled := shifted numerator denominator (-scale)
    ofScaled negative (roundHalfEven scaled.1 scaled.2) scale

/-- The quotient written `digits * 10 ^ exponent`. -/
def decimalRatio (digits : Nat) (exponent : Int) : Nat × Nat :=
  if 0 ≤ exponent then (digits * Nat.pow 10 exponent.toNat, 1)
  else (digits, Nat.pow 10 (-exponent).toNat)

/-- The double nearest to `digits * 10 ^ exponent`. -/
def ofDecimal (negative : Bool) (digits : Nat) (exponent : Int) : Binary64 :=
  let ratio := decimalRatio digits exponent
  ofRatio negative ratio.1 ratio.2

/-- The magnitude of a finite double as a quotient. -/
def ratio (number : Binary64) : Nat × Nat :=
  shifted number.significand 1 number.scale

end Binary64

end EventWire
