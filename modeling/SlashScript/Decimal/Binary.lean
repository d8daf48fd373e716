/-
Binary floating-point numbers taken apart. A finite number is a whole mantissa times a power of
two, read off its bits, so that everything the language does with the digits of a number, its
whole part or its remainder is exact arithmetic on natural numbers.
-/

namespace SlashScript.Decimal

/-- What a binary floating-point number stands for. -/
inductive Binary where
  | notANumber
  | infinite (negative : Bool)
  /-- `mantissa * 2 ^ exponent`, with its sign; zero keeps its sign. -/
  | finite (negative : Bool) (mantissa : Nat) (exponent : Int)

namespace Binary

/-- The least exponent of a finite number, that of the subnormal ones. -/
def leastExponent : Int := -1074

/-- The parts of a number, read off its sign bit, eleven exponent bits and 52 fraction bits. -/
def ofFloat (number : Float) : Binary :=
  let bits := number.toBits.toNat
  let negative := Nat.pow 2 63 ≤ bits
  let biased : Nat := bits / Nat.pow 2 52 % Nat.pow 2 11
  let fraction : Nat := bits % Nat.pow 2 52
  if biased = 2047 then
    if fraction = 0 then .infinite negative else .notANumber
  else if biased = 0 then .finite negative fraction leastExponent
  else .finite negative (Nat.pow 2 52 + fraction) ((biased : Int) - 1075)

end Binary

/-- A nonnegative fraction that equals `mantissa * 2 ^ exponent`. -/
def scaleByTwo (mantissa : Nat) (exponent : Int) : Nat × Nat :=
  if 0 ≤ exponent then (mantissa * Nat.pow 2 exponent.toNat, 1)
  else (mantissa, Nat.pow 2 (-exponent).toNat)

/-! ### Whole numbers -/

/-- The whole number next to a finite number on the side of zero. -/
def wholePart (negative : Bool) (mantissa : Nat) (exponent : Int) : Int :=
  let (numerator, denominator) := scaleByTwo mantissa exponent
  if negative then -(numerator / denominator : Nat) else (numerator / denominator : Nat)

/-- Whether a finite number has no fraction. -/
def isWhole (mantissa : Nat) (exponent : Int) : Bool :=
  let (numerator, denominator) := scaleByTwo mantissa exponent
  numerator % denominator == 0

/-- The 64-bit integer nearest to a whole number: the ends of the range stand for all that lies
beyond them. -/
def clampToInt64 (whole : Int) : Int64 :=
  if whole < Int64.minValue.toInt then Int64.minValue
  else if Int64.maxValue.toInt < whole then Int64.maxValue
  else Int64.ofInt whole

/-- The number cut to a 64-bit integer. What is not a number counts as zero. -/
def truncateToInt64 (number : Float) : Int64 :=
  match Binary.ofFloat number with
  | .notANumber => 0
  | .infinite negative => if negative then Int64.minValue else Int64.maxValue
  | .finite negative mantissa exponent => clampToInt64 (wholePart negative mantissa exponent)

/-- The binary number nearest to a 64-bit integer, the even one of two equally near. -/
def ofInt64 (whole : Int64) : Float :=
  Float.ofInt whole.toInt

/-! ### Remainders -/

/-- The number `mantissa * 2 ^ exponent`, which must be one that a binary number can hold. -/
def assemble (negative : Bool) (mantissa : Nat) (exponent : Int) : Float :=
  let magnitude :=
    if 0 ≤ exponent then Float.ofNat (mantissa * Nat.pow 2 exponent.toNat)
    else
      let shift := (-exponent).toNat
      let half := shift / 2
      Float.ofNat mantissa / Float.ofNat (Nat.pow 2 half) / Float.ofNat (Nat.pow 2 (shift - half))
  if negative then -magnitude else magnitude

/-- What is left of the dividend after the divisor has been taken from it a whole number of
times, as often as it goes: exact, smaller than the divisor, with the sign of the dividend. -/
def remainder (dividend divisor : Float) : Float :=
  match Binary.ofFloat dividend, Binary.ofFloat divisor with
  | .notANumber, _ => dividend
  | _, .notANumber => divisor
  | .infinite _, _ => 0.0 / 0.0
  | _, .infinite _ => dividend
  | .finite negative mantissa exponent, .finite _ divisorMantissa divisorExponent =>
    if divisorMantissa = 0 then 0.0 / 0.0
    else
      let common := min exponent divisorExponent
      let left := mantissa * Nat.pow 2 (exponent - common).toNat
      let right := divisorMantissa * Nat.pow 2 (divisorExponent - common).toNat
      assemble negative (left % right) common

end SlashScript.Decimal
