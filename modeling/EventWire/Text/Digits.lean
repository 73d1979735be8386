namespace EventWire

/-!
# Numbers written in digits

A digit beyond nine is a letter of either case.  Digits are read most
significant first, and are refused where there are none and where a character
is no digit of the base.
-/

namespace Text

/-- The value of a digit or letter, in bases that have it. -/
def anyDigitValue? (digit : Char) : Option Nat :=
  if digit.isDigit then some (digit.toNat - '0'.toNat)
  else if digit.isLower then some (digit.toNat - 'a'.toNat + 10)
  else if digit.isUpper then some (digit.toNat - 'A'.toNat + 10)
  else none

/-- The value of a digit in a base. -/
def digitValue? (base : Nat) (digit : Char) : Option Nat :=
  (anyDigitValue? digit).filter (· < base)

/-- The number that digits write behind the digits of a number already read. -/
def extendNumber? (base number : Nat) (digits : List Char) : Option Nat :=
  digits.foldlM (fun number digit => (digitValue? base digit).map (base * number + ·)) number

/-- The number that digits write. -/
def number? (base : Nat) (digits : List Char) : Option Nat :=
  if digits.isEmpty then none else extendNumber? base 0 digits

end Text

end EventWire
