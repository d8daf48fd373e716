/-
The shortest decimal of a binary number: the fewest digits that read back as the same number,
and of the decimals with that many digits the one nearest to it. The search runs over grids of
growing fineness and compares in exact arithmetic with the interval of reals that round to the
number.
-/

import SlashScript.Decimal.Binary

namespace SlashScript.Decimal

/-- The value `digits * 10 ^ exponent`. -/
structure Numeral where
  digits : Nat
  exponent : Int

/-- The digits of a natural number in base ten. -/
def digitsOf (number : Nat) : List Char :=
  Nat.toDigits 10 number

/-- The exponent of the greatest power of ten that is at most a positive fraction. -/
def magnitude (numerator denominator : Nat) : Int :=
  if denominator ≤ numerator then
    ((digitsOf (numerator / denominator)).length : Int) - 1
  else
    let places := (digitsOf (denominator / numerator)).length
    if numerator * Nat.pow 10 (places - 1) = denominator then -((places : Int) - 1) else -(places : Int)

/-- The whole digits of a numeral without the zeros at their end. -/
def dropZeros : Nat → Numeral → Numeral
  | 0, numeral => numeral
  | limit + 1, numeral =>
    if numeral.digits ≠ 0 && numeral.digits % 10 == 0 then
      dropZeros limit ⟨numeral.digits / 10, numeral.exponent + 1⟩
    else numeral

/-- The interval of reals that round to `mantissa * 2 ^ exponent`, in quarters of the distance
to the next number, and whether its ends belong to it. A power of two lies closer to the number
below than to the one above. -/
structure Interval where
  lower : Nat
  middle : Nat
  upper : Nat
  closed : Bool

/-- The rounding interval of a positive mantissa. -/
def Interval.around (mantissa : Nat) (exponent : Int) : Interval where
  lower := if mantissa = Nat.pow 2 52 && Binary.leastExponent < exponent then 4 * mantissa - 1
    else 4 * mantissa - 2
  middle := 4 * mantissa
  upper := 4 * mantissa + 2
  closed := mantissa % 2 == 0

/-- Membership of `point` in the interval whose ends are `lower * unit` and `upper * unit`. -/
def Interval.contains (interval : Interval) (unit point : Nat) : Bool :=
  let lower := interval.lower * unit
  let upper := interval.upper * unit
  if interval.closed then lower ≤ point && point ≤ upper else lower < point && point < upper

/-- The candidate on the grid of step `10 ^ exponent`, if one of the two neighbours of the number
on that grid rounds back to it; the nearer one if both do, the greater one at equal distance. -/
def onGrid (interval : Interval) (quarter exponent : Int) : Option Numeral :=
  let binary := scaleByTwo 1 quarter
  let step := if 0 ≤ exponent then Nat.pow 10 exponent.toNat else 1
  let finer := if 0 ≤ exponent then 1 else Nat.pow 10 (-exponent).toNat
  let unit := binary.1 * finer
  let grid := step * binary.2
  let value := interval.middle * unit
  let below := value / grid
  let belowFits := interval.contains unit (below * grid)
  let aboveFits := interval.contains unit ((below + 1) * grid)
  if belowFits && aboveFits then
    let nearerBelow := value - below * grid < (below + 1) * grid - value
    some ⟨if nearerBelow then below else below + 1, exponent⟩
  else if belowFits then some ⟨below, exponent⟩
  else if aboveFits then some ⟨below + 1, exponent⟩
  else none

/-- The shortest decimal of `mantissa * 2 ^ exponent` for a positive mantissa. Seventeen digits
always suffice. -/
def shortest (mantissa : Nat) (exponent : Int) : Numeral :=
  let quarter := exponent - 2
  let interval := Interval.around mantissa exponent
  let (numerator, denominator) := scaleByTwo mantissa exponent
  let leading := magnitude numerator denominator
  let counts := List.range 17
  match counts.findSome? fun (count : Nat) => onGrid interval quarter (leading - count) with
  | some numeral => dropZeros 20 numeral
  | none => ⟨mantissa, exponent⟩

/-! ### Written forms -/

/-- Digits and a point, without an exponent. -/
def positional (numeral : Numeral) : List Char :=
  let digits := digitsOf numeral.digits
  if 0 ≤ numeral.exponent then digits ++ List.replicate numeral.exponent.toNat '0'
  else
    let places := (-numeral.exponent).toNat
    if places < digits.length then
      digits.take (digits.length - places) ++ '.' :: digits.drop (digits.length - places)
    else '0' :: '.' :: (List.replicate (places - digits.length) '0' ++ digits)

/-- One digit before the point, and the power of ten after the letter `e`. -/
def scientific (numeral : Numeral) : List Char :=
  let digits := digitsOf numeral.digits
  let power : Int := numeral.exponent + digits.length - 1
  let exponentText := (toString power).toList
  match digits with
  | [] => []
  | [digit] => digit :: 'e' :: exponentText
  | digit :: rest => digit :: '.' :: (rest ++ 'e' :: exponentText)

/-- The sign of a written number. -/
def signText (negative : Bool) : List Char :=
  if negative then ['-'] else []

/-- Whole numbers below ten to the fifteenth are written with one decimal place. -/
def onePlaceBound : Nat := Nat.pow 10 15

/-- A number as values of the language show it: never with an exponent, whole numbers of up to
fifteen digits with one decimal place, all others with their shortest digits. -/
def floatText (number : Float) : String :=
  match Binary.ofFloat number with
  | .notANumber => "NaN"
  | .infinite negative => String.ofList (signText negative ++ "inf".toList)
  | .finite negative mantissa exponent =>
    let whole := (wholePart false mantissa exponent).toNat
    let digits :=
      if isWhole mantissa exponent && whole < onePlaceBound then digitsOf whole ++ ['.', '0']
      else positional (shortest mantissa exponent)
    String.ofList (signText negative ++ digits)

/-- A number as messages show it: with at least one decimal place, and with an exponent from ten
to the sixteenth up and below ten to the minus fourth. -/
def floatShown (number : Float) : String :=
  match Binary.ofFloat number with
  | .notANumber => "NaN"
  | .infinite negative => String.ofList (signText negative ++ "inf".toList)
  | .finite negative mantissa exponent =>
    let digits :=
      if mantissa = 0 then ['0', '.', '0']
      else
        let numeral := shortest mantissa exponent
        let size := Float.abs number
        if 1e16 ≤ size || size < 1e-4 then scientific numeral
        else if 0 ≤ numeral.exponent then positional numeral ++ ['.', '0']
        else positional numeral
    String.ofList (signText negative ++ digits)

end SlashScript.Decimal
