/-
Expressions as trees. An expression is read once, when the script that holds it is compiled, and
evaluated each time its statement runs.
-/

import SlashScript.Value.Basic

namespace SlashScript

/-- Operators before one operand. -/
inductive UnaryOperator where
  | neg
  | not
  deriving DecidableEq

/-- Operators between two operands. -/
inductive BinaryOperator where
  | add
  | sub
  | mul
  | div
  | rem
  | eq
  | ne
  | lt
  | le
  | gt
  | ge
  | and
  | or
  /-- The left text matches the wildcard pattern on the right. -/
  | glob
  | notGlob
  /-- The left text contains a match of the regular expression on the right. -/
  | regex
  | notRegex
  deriving DecidableEq

/-- How an assignment combines the old value of its variable with the new one. -/
inductive Assignment where
  | set
  | add
  | sub
  | mul
  | div
  deriving DecidableEq

/-- An expression. -/
inductive Expression where
  | literal (value : Value)
  | named (name : String)
  | unary (operator : UnaryOperator) (operand : Expression)
  | binary (operator : BinaryOperator) (left right : Expression)
  | conditional (condition whenTrue whenFalse : Expression)
  | assign (name : String) (assignment : Assignment) (operand : Expression)
  | call (name : String) (arguments : List Expression)
  | sequence (items : List Expression)

namespace Expression

/-- The items of a list of expressions separated by commas; any other expression is its own only
item. -/
def items : Expression → List Expression
  | sequence items => items
  | single => [single]

mutual

/-- Equality of expressions. -/
def same : Expression → Expression → Bool
  | literal left, literal right => left.same right
  | named left, named right => left == right
  | unary operator operand, unary operator' operand' =>
    operator == operator' && operand.same operand'
  | binary operator left right, binary operator' left' right' =>
    operator == operator' && left.same left' && right.same right'
  | conditional condition whenTrue whenFalse, conditional condition' whenTrue' whenFalse' =>
    condition.same condition' && whenTrue.same whenTrue' && whenFalse.same whenFalse'
  | assign name assignment operand, assign name' assignment' operand' =>
    name == name' && assignment == assignment' && operand.same operand'
  | call name arguments, call name' arguments' => name == name' && allSame arguments arguments'
  | sequence items, sequence items' => allSame items items'
  | _, _ => false

/-- Equality of lists of expressions. -/
def allSame : List Expression → List Expression → Bool
  | [], [] => true
  | first :: rest, first' :: rest' => first.same first' && allSame rest rest'
  | _, _ => false

end

end Expression

namespace BinaryOperator

/-- How loosely an operator binds: operands of a looser operator may hold tighter ones, and
operators of one looseness group from the left. -/
def looseness : BinaryOperator → Nat
  | mul | div | rem => 1
  | add | sub => 2
  | eq | ne | lt | le | gt | ge | glob | notGlob | regex | notRegex => 3
  | and => 4
  | or => 5

end BinaryOperator

end SlashScript
