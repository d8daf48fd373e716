/-
Arithmetic on values. Two integers are added, subtracted and multiplied within 64 bits and wrap
around; every other pair, and every quotient and remainder, is computed in real numbers and cut
back to an integer unless one of the operands is real or is text with a point.
-/

import SlashScript.Value.Basic

namespace SlashScript

/-- The reasons for which arithmetic fails. -/
inductive ArithmeticError where
  | divisionByZero
  | moduloByZero
  deriving DecidableEq

namespace ArithmeticError

/-- The text of the failure. -/
def message : ArithmeticError → String
  | divisionByZero => "division by zero"
  | moduloByZero => "modulo by zero"

end ArithmeticError

namespace Value

/-- Values that make a result real: real numbers, and text with a point in it. -/
def looksReal : Value → Bool
  | real _ => true
  | text content => content.toList.contains '.'
  | _ => false

/-- The result of an operation that was carried out in real numbers. -/
def ofResult (left right : Value) (result : Float) : Value :=
  if left.looksReal || right.looksReal then real result
  else integer (Decimal.truncateToInt64 result)

/-- The sum of two values. -/
def add : Value → Value → Value
  | integer left, integer right => integer (left + right)
  | left, right => ofResult left right (left.toFloat + right.toFloat)

/-- The difference of two values. -/
def sub : Value → Value → Value
  | integer left, integer right => integer (left - right)
  | left, right => ofResult left right (left.toFloat - right.toFloat)

/-- The product of two values. -/
def mul : Value → Value → Value
  | integer left, integer right => integer (left * right)
  | left, right => ofResult left right (left.toFloat * right.toFloat)

/-- The quotient of two values. -/
def div (left right : Value) : Except ArithmeticError Value :=
  if right.toFloat == 0.0 then .error .divisionByZero
  else .ok (ofResult left right (left.toFloat / right.toFloat))

/-- The remainder of two values, with the sign of the first. -/
def rem (left right : Value) : Except ArithmeticError Value :=
  if right.toFloat == 0.0 then .error .moduloByZero
  else .ok (ofResult left right (Decimal.remainder left.toFloat right.toFloat))

/-- The value with its sign changed, by way of its text: text that is not a number becomes
zero. -/
def neg (value : Value) : Value :=
  match ofText value.toText with
  | integer number => integer (-number)
  | real number => real (-number)
  | _ => integer 0

/-! ### Comparison -/

/-- The order of two real numbers; what is not a number equals everything. -/
def compareFloats (left right : Float) : Ordering :=
  if left < right then .lt else if right < left then .gt else .eq

/-- The order of two texts: as numbers if both are numbers, else character by character. -/
def compareTexts (left right : String) : Ordering :=
  match Decimal.readFloat? (Text.trim left.toList), Decimal.readFloat? (Text.trim right.toList) with
  | some leftNumber, some rightNumber => compareFloats leftNumber rightNumber
  | _, _ => if left < right then .lt else if right < left then .gt else .eq

/-- The order of two values. -/
def order : Value → Value → Ordering
  | integer left, integer right => if left < right then .lt else if right < left then .gt else .eq
  | integer left, real right => compareFloats (Decimal.ofInt64 left) right
  | real left, integer right => compareFloats left (Decimal.ofInt64 right)
  | real left, real right => compareFloats left right
  | left, right => compareTexts left.toText right.toText

theorem add_integer (left right : Int64) :
    (integer left).add (integer right) = integer (left + right) := rfl

theorem sub_integer (left right : Int64) :
    (integer left).sub (integer right) = integer (left - right) := rfl

theorem mul_integer (left right : Int64) :
    (integer left).mul (integer right) = integer (left * right) := rfl

end Value

end SlashScript
