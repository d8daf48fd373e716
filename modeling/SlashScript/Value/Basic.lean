/-
Values of the script language. Text is the common currency: every value has a text, text is read
back as a number where it looks like one, and values are coerced to numbers and truth values
where an operation needs them. Error actions are values of their own, so that a host can store
one without going through text.
-/

import SlashScript.Decimal.Reading
import SlashScript.Decimal.Shortest
import SlashScript.ErrorAction

namespace SlashScript

/-- A value of the script language. -/
inductive Value where
  | integer (number : Int64)
  | real (number : Float)
  | text (content : String)
  | action (preference : ErrorAction)

namespace Value

/-- The value of a variable that was never set. -/
def empty : Value := .text ""

/-- The name of the type of a value. -/
def typeName : Value → String
  | integer _ => "integer"
  | real _ => "real"
  | text _ => "string"
  | action _ => "action"

/-- The text of a value: integers in decimal, reals as `Decimal.floatText` writes them. -/
def toText : Value → String
  | integer number => toString number.toInt
  | real number => Decimal.floatText number
  | text content => content
  | action preference => preference.name

/-- The value that stored text stands for: an integer or, if it has a point, a real number, blanks
around it apart; any other text is itself, its blanks included. -/
def ofText (content : String) : Value :=
  let trimmed := Text.trim content.toList
  match Decimal.readInt64? trimmed with
  | some number => integer number
  | none =>
    match Decimal.readFloat? trimmed with
    | some number => if trimmed.contains '.' then real number else text content
    | none => text content

/-- Equality of values of one type; real numbers are compared as numbers. -/
def same : Value → Value → Bool
  | integer left, integer right => left == right
  | real left, real right => left == right
  | text left, text right => left == right
  | action left, action right => left == right
  | _, _ => false

/-! ### Coercions -/

/-- Zero, the empty text and the text `0` are false. -/
def isTrue : Value → Bool
  | integer number => number != 0
  | real number => number != 0.0
  | text content => content != "" && content != "0"
  | action _ => true

/-- The value as an integer; text that is not an integer counts as zero. -/
def toInt64 : Value → Int64
  | integer number => number
  | real number => Decimal.truncateToInt64 number
  | text content => (Decimal.readInt64? (Text.trim content.toList)).getD 0
  | action _ => 0

/-- The value as a real number; text that is not a number counts as zero. -/
def toFloat : Value → Float
  | integer number => Decimal.ofInt64 number
  | real number => number
  | text content => (Decimal.readFloat? (Text.trim content.toList)).getD 0.0
  | action _ => 0.0

/-- A truth value as the language writes it. -/
def ofBool (truth : Bool) : Value :=
  if truth then integer 1 else integer 0

/-- A natural number as a value. -/
def ofNat (number : Nat) : Value :=
  integer (Int64.ofNat number)

@[simp] theorem toText_text (content : String) : (text content).toText = content := rfl

@[simp] theorem isTrue_ofBool (truth : Bool) : (ofBool truth).isTrue = truth := by
  cases truth <;> decide

end Value

end SlashScript
