/-
Reading numbers from text. A whole number is an optional sign and digits within the range of
64 bits; a real number is a decimal with an optional exponent, or one of the words for infinity
and for what is not a number. Neither admits blanks: callers trim.
-/

import SlashScript.Decimal.Binary

namespace SlashScript.Decimal

/-- The value of a list of decimal digits. -/
def valueOfDigits (digits : List Char) : Nat :=
  digits.foldl (fun value digit => 10 * value + (digit.toNat - '0'.toNat)) 0

/-- An optional sign before a number: whether it is a minus, and what follows. -/
def splitSign : List Char → Bool × List Char
  | '-' :: rest => (true, rest)
  | '+' :: rest => (false, rest)
  | chars => (false, chars)

/-- A nonempty text of digits alone. -/
def isDigits (chars : List Char) : Bool :=
  !chars.isEmpty && chars.all Char.isDigit

/-- The 64-bit integer of this value, if there is one. -/
def int64OfInt? (value : Int) : Option Int64 :=
  if Int64.minValue.toInt ≤ value && value ≤ Int64.maxValue.toInt then some (Int64.ofInt value)
  else none

/-- Reads a 64-bit integer: an optional sign and at least one digit. -/
def readInt64? (chars : List Char) : Option Int64 :=
  let (negative, digits) := splitSign chars
  if isDigits digits then
    let magnitude : Int := valueOfDigits digits
    int64OfInt? (if negative then -magnitude else magnitude)
  else none

/-! ### Real numbers -/

/-- The binary number nearest to `digits * 10 ^ exponent`. Outside four hundred places on either
side the answer is zero or infinity whatever the digits are. -/
def nearestFloat (digits : Nat) (exponent : Int) : Float :=
  let places : Int := exponent + (Nat.toDigits 10 digits).length
  if digits = 0 || places < -400 then 0.0
  else if 400 < places then 1.0 / 0.0
  else Float.ofScientific digits (exponent < 0) exponent.natAbs

/-- The exponent after the mantissa: nothing, or the letter `e` with an optional sign and
digits. -/
def readExponent? : List Char → Option Int
  | [] => some 0
  | mark :: rest =>
    if mark = 'e' || mark = 'E' then
      let (negative, digits) := splitSign rest
      if isDigits digits then
        let magnitude : Int := valueOfDigits digits
        some (if negative then -magnitude else magnitude)
      else none
    else none

/-- An unsigned decimal: digits with at most one point and at least one digit beside it, then
an optional exponent. -/
def readDecimal? (chars : List Char) : Option Float :=
  let whole := chars.takeWhile Char.isDigit
  let afterWhole := chars.dropWhile Char.isDigit
  let (places, rest) := match afterWhole with
    | '.' :: tail => (tail.takeWhile Char.isDigit, tail.dropWhile Char.isDigit)
    | _ => ([], afterWhole)
  if whole.isEmpty && places.isEmpty then none
  else
    (readExponent? rest).map fun exponent =>
      nearestFloat (valueOfDigits (whole ++ places)) (exponent - places.length)

/-- Reads a real number. -/
def readFloat? (chars : List Char) : Option Float :=
  let (negative, rest) := splitSign chars
  let word := rest.map Char.toLower
  let size :=
    if word = "inf".toList || word = "infinity".toList then some (1.0 / 0.0)
    else if word = "nan".toList then some (0.0 / 0.0)
    else readDecimal? rest
  size.map fun number => if negative then -number else number

end SlashScript.Decimal
