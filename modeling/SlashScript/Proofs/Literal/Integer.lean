/-
This file shows which integers are written as expressions by their own text. The digits are one
token and a minus sign before them is another one, which changes the sign of what follows it. So
the digits have to be in range by themselves. They are for every integer but the least one, whose
text is an integer when it is stored but is refused as an expression.
-/

import SlashScript.Evaluation
import SlashScript.Proofs.Embedding.Lexing
import SlashScript.Proofs.RoundTrip

namespace SlashScript

open Decimal

/-! ### The sizes of integers -/

/-- Every integer but the least has a size that is in range. -/
theorem Decimal.int64OfInt?_natAbs {number : Int64} (notLeast : number ≠ Int64.minValue) :
    int64OfInt? number.toInt.natAbs = some (if number.toInt < 0 then -number else number) := by
  have least := number.le_toInt
  have notLowest : number.toInt ≠ -2 ^ 63 := fun same => notLeast (Int64.toInt_inj.mp same)
  have greatest := number.toInt_lt
  have inRange : (number.toInt.natAbs : ℤ) ≤ Int64.maxValue.toInt := by
    show (number.toInt.natAbs : ℤ) ≤ 9223372036854775807
    omega
  have above : Int64.minValue.toInt ≤ (number.toInt.natAbs : ℤ) := by
    show (-9223372036854775808 : ℤ) ≤ number.toInt.natAbs
    omega
  unfold int64OfInt?
  rw [if_pos (Bool.and_eq_true_iff.mpr ⟨decide_eq_true above, decide_eq_true inRange⟩)]
  split
  · rename_i below
    have isSize : (number.toInt.natAbs : ℤ) = -number.toInt := by omega
    rw [isSize, Int64.ofInt_neg, Int64.ofInt_toInt]
  · rename_i notBelow
    have isSize : (number.toInt.natAbs : ℤ) = number.toInt := by omega
    rw [isSize, Int64.ofInt_toInt]

/-! ### The token of digits -/

namespace Token

/-- Digits alone are a decimal number, up to their end. -/
theorem cutNumeral_of_digits (first : Char) {rest : List Char}
    (digits : ∀ char ∈ rest, char.isDigit = true) :
    cutNumeral first rest = (.decimal (first :: rest) none, []) := by
  have taken : rest.takeWhile Char.isDigit = rest := List.takeWhile_eq_self_iff.mpr digits
  have dropped : rest.dropWhile Char.isDigit = [] := List.dropWhile_eq_nil_iff.mpr digits
  have decimal : cutDecimal first rest = (.decimal (first :: rest) none, []) := by
    unfold cutDecimal
    rw [taken, dropped]
  unfold cutNumeral
  split
  · exact decimal
  · rename_i mark later
    have isDigit := digits mark List.mem_cons_self
    rw [if_neg]
    · exact decimal
    · rw [Bool.and_eq_true, Bool.or_eq_true, decide_eq_true_eq, decide_eq_true_eq,
        decide_eq_true_eq]
      rintro ⟨-, rfl | rfl⟩ <;> cases isDigit

/-- The digits of a number are one token, if the number is in range. -/
theorem readAll_digitsOf (size : ℕ) :
    readAll (digitsOf size) =
      match int64OfInt? size with
      | some value => .ok [.integer value]
      | none => .error (.integerOutOfRange (String.ofList (digitsOf size))) := by
  have digits := fun char member => @isDigit_of_mem_digitsOf size char member
  have isValue : readInt64? (digitsOf size) = int64OfInt? size := readInt64?_digits false size
  have nonempty : digitsOf size ≠ [] := Nat.toDigits_ne_nil
  generalize digitsOf size = text at digits isValue nonempty
  obtain ⟨first, rest, rfl⟩ := List.exists_cons_of_ne_nil nonempty
  obtain ⟨isDigit, restDigits⟩ := List.forall_mem_cons.mp digits
  have step := read_of_isDigit rest isDigit
  rw [cutNumeral_of_digits first restDigits] at step
  dsimp only [Numeral.token] at step
  rw [isValue] at step
  rw [readAll_eq, Text.trimStart_of_not_blank first rest (not_isBlank_of_isDigit isDigit)]
  dsimp only
  rw [step]
  cases int64OfInt? size with
  | none => rfl
  | some value => exact congrArg (Except.map (.integer value :: ·)) readAll_nil

/-- A minus sign before the digits is a token of its own. -/
theorem readAll_minus_digitsOf (size : ℕ) :
    readAll ('-' :: digitsOf size) =
      (readAll (digitsOf size)).map (.operator .sub :: ·) := by
  have digits := fun char member => @isDigit_of_mem_digitsOf size char member
  generalize digitsOf size = text at digits
  refine readAll_cons (by decide) ?_
  cases text with
  | nil => rfl
  | cons first rest =>
    have notEqual : first ≠ '=' := by
      rintro rfl
      cases digits '=' List.mem_cons_self
    show Except.ok (readSymbol '-' (first :: rest)) = _
    unfold readSymbol
    split <;> simp_all

end Token

/-! ### The expression of an integer -/

namespace Expression

/-- A sign and digits are a literal, perhaps with its sign changed, if the digits are in range. -/
theorem parse_signText (negative : Bool) (size : ℕ) :
    parse (signText negative ++ digitsOf size) =
      match int64OfInt? size with
      | some value =>
        .ok (if negative then .unary .neg (.literal (.integer value))
          else .literal (.integer value))
      | none => .error (.integerOutOfRange (String.ofList (digitsOf size))) := by
  have tokens : Token.readAll (signText negative ++ digitsOf size) =
      (Token.readAll (digitsOf size)).map
        fun tokens => if negative then .operator .sub :: tokens else tokens := by
    cases negative
    · show Token.readAll (digitsOf size) = (Token.readAll (digitsOf size)).map id
      cases Token.readAll (digitsOf size) <;> rfl
    · exact Token.readAll_minus_digitsOf size
  unfold parse
  rw [tokens, Token.readAll_digitsOf]
  cases int64OfInt? size with
  | none => rfl
  | some value => cases negative <;> rfl

/-- The text of every integer but the least is an expression for it. -/
theorem parse_toText_of_ne {number : Int64} (notLeast : number ≠ Int64.minValue) :
    ∃ expression, parse (Value.integer number).toText.toList = .ok expression ∧
      ∀ workspace, expression.evaluate workspace = (.ok (.integer number), workspace) := by
  have isText : (Value.integer number).toText.toList =
      signText (number.toInt < 0) ++ digitsOf number.toInt.natAbs := toList_toString number.toInt
  rw [isText, parse_signText, int64OfInt?_natAbs notLeast]
  refine ⟨_, rfl, fun workspace => ?_⟩
  by_cases below : number.toInt < 0
  · rw [decide_eq_true below, if_pos rfl, if_pos below]
    show (Except.ok (Value.integer (-number)).neg, workspace) = _
    rw [Value.neg_integer, Int64.neg_neg]
  · rw [decide_eq_false below, if_neg below]
    rfl

/-- The digits of the least integer are refused. -/
theorem parse_toText_least : parse (Value.integer Int64.minValue).toText.toList =
    .error (.integerOutOfRange "9223372036854775808") :=
  parse_signText true 9223372036854775808

/-- The text of an integer is an expression that has the integer for its value, in every workspace
and without a change to it, except for the least integer. Its digits are refused, though its text is
read as that integer when it is stored, as that of every other integer is. -/
theorem parse_toText_integer (number : Int64) :
    ((∃ expression, parse (Value.integer number).toText.toList = .ok expression ∧
        ∀ workspace, expression.evaluate workspace = (.ok (.integer number), workspace)) ↔
      number ≠ Int64.minValue) ∧
      parse (Value.integer Int64.minValue).toText.toList =
        .error (.integerOutOfRange "9223372036854775808") ∧
      Value.ofText (Value.integer number).toText = .integer number := by
  refine ⟨⟨?_, parse_toText_of_ne⟩, parse_toText_least, Value.ofText_toText_integer number⟩
  rintro ⟨expression, parsed, -⟩ rfl
  cases parsed.symm.trans parse_toText_least

/-- The least integer is not written as an expression by its text. -/
theorem not_parse_toText_integer :
    ¬ ∀ number : Int64, ∃ expression,
      parse (Value.integer number).toText.toList = .ok expression ∧
        ∀ workspace, expression.evaluate workspace = (.ok (.integer number), workspace) := by
  intro written
  obtain ⟨expression, parsed, -⟩ := written Int64.minValue
  cases parsed.symm.trans parse_toText_least

end Expression

end SlashScript
