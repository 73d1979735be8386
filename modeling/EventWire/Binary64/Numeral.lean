import EventWire.Binary64

namespace EventWire

/-!
# Reading numerals

The numerals a text field of kind double may hold: an optional sign, then
`inf`, `infinity` or `nan` in any case, or decimal digits with an optional
point among them and an optional exponent.  The value read is the double
nearest to the number written.
-/

namespace Binary64

/-- A decimal numeral without its sign: digits around the point, and an exponent. -/
structure Numeral where
  whole : List Char
  fraction : List Char
  exponent : Int

namespace Numeral

/-- The value of a decimal digit. -/
def digitValue (digit : Char) : Nat :=
  digit.toNat - '0'.toNat

/-- The number that digits write, most significant first. -/
def value (digits : List Char) : Nat :=
  digits.foldl (fun number digit => 10 * number + digitValue digit) 0

/--
The number that the digits of an exponent write.

It stops growing once it has five digits that reach 65536: no double has so
many places, so a longer exponent cannot change what a numeral stands for.
-/
def exponentValue (digits : List Char) : Nat :=
  digits.foldl
    (fun number digit =>
      if number < 65536 then 10 * number + digitValue digit else number)
    0

/-- An exponent: a sign, which may be missing, and at least one digit. -/
def readExponent? (text : List Char) : Option Int :=
  let (negative, digits) :=
    match text with
    | '-' :: rest => (true, rest)
    | '+' :: rest => (false, rest)
    | _ => (false, text)
  if digits ≠ [] ∧ digits.all Char.isDigit then
    some (if negative then -(exponentValue digits : Int) else exponentValue digits)
  else none

/-- A decimal numeral: digits, at least one, around an optional point, and an exponent. -/
def read? (text : List Char) : Option Numeral :=
  let (whole, afterWhole) := text.span Char.isDigit
  let (fraction, rest) :=
    match afterWhole with
    | '.' :: afterPoint => afterPoint.span Char.isDigit
    | _ => ([], afterWhole)
  if whole ++ fraction = [] then none
  else
    match rest with
    | [] => some ⟨whole, fraction, 0⟩
    | mark :: exponent =>
      if mark = 'e' ∨ mark = 'E' then
        (readExponent? exponent).map fun power => ⟨whole, fraction, power⟩
      else none

/--
The double nearest to a numeral.

A numeral whose first significant digit stands more than 400 places from the
point is out of the range of doubles, so its power of ten is never formed.
-/
def toBinary64 (negative : Bool) (numeral : Numeral) : Binary64 :=
  let digits := (numeral.whole ++ numeral.fraction).dropWhile (· == '0')
  let power := numeral.exponent - numeral.fraction.length
  let places := digits.length + power
  if digits = [] ∨ places < -400 then ofMagnitude negative 0
  else if 400 < places then infinity negative
  else ofDecimal negative (value digits) power

end Numeral

/-- Read a numeral without its sign. -/
def readMagnitude? (negative : Bool) (text : List Char) : Option Binary64 :=
  let word := text.map Char.toLower
  if word = "inf".toList ∨ word = "infinity".toList then some (infinity negative)
  else if word = "nan".toList then some (quietNaN negative)
  else (Numeral.read? text).map (Numeral.toBinary64 negative)

/-- Read a numeral; nothing but the numeral may stand in the text. -/
def read? (text : List Char) : Option Binary64 :=
  match text with
  | '-' :: rest => readMagnitude? true rest
  | '+' :: rest => readMagnitude? false rest
  | _ => readMagnitude? false text

end Binary64

end EventWire
