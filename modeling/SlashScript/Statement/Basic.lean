/-
Statements as trees. A script is a list of statements; conditionals and loops hold lists of
statements of their own.
-/

import SlashScript.Template

namespace SlashScript

/-- A statement. -/
inductive Statement where
  /-- Emits its text, substitutions made. -/
  | echo (text : Template)
  /-- Emits the value of each expression in order. -/
  | emit (items : List Expression)
  /-- Gives a variable a value, in the current scope or in the global one. -/
  | set (name : String) (value : Template) (isGlobal : Bool)
  | unset (name : String)
  /-- Gives names to the arguments. -/
  | param (names : List String)
  /-- Evaluates an expression for its effects. -/
  | evaluate (expression : Expression)
  /-- The block of the first condition that holds, or the last block if none does. -/
  | choose (branches : List (Expression × List Statement)) (otherwise : List Statement)
  | whileLoop (condition : Expression) (body : List Statement)
  /-- A loop over a range of integers, its ends included. -/
  | forLoop (name : String) (first last : Template) (body : List Statement)
  | leaveLoop
  | giveBack (result : Option Expression)
  /-- Raises an error after which the script may go on. -/
  | error (text : Template)
  /-- Raises an error that ends the script. -/
  | throw (text : Template)

/-- Statements in order. -/
abbrev Block : Type := List Statement

namespace Statement

mutual

/-- Equality of statements. -/
def same : Statement → Statement → Bool
  | echo text, echo text' => text.same text'
  | emit items, emit items' => Expression.allSame items items'
  | set name value isGlobal, set name' value' isGlobal' =>
    name == name' && value.same value' && isGlobal == isGlobal'
  | unset name, unset name' => name == name'
  | param names, param names' => names == names'
  | evaluate expression, evaluate expression' => expression.same expression'
  | choose branches otherwise, choose branches' otherwise' =>
    branchesSame branches branches' && blockSame otherwise otherwise'
  | whileLoop condition body, whileLoop condition' body' =>
    condition.same condition' && blockSame body body'
  | forLoop name first last body, forLoop name' first' last' body' =>
    name == name' && first.same first' && last.same last' && blockSame body body'
  | leaveLoop, leaveLoop => true
  | giveBack none, giveBack none => true
  | giveBack (some result), giveBack (some result') => result.same result'
  | error text, error text' => text.same text'
  | throw text, throw text' => text.same text'
  | _, _ => false

/-- Equality of blocks. -/
def blockSame : List Statement → List Statement → Bool
  | [], [] => true
  | statement :: rest, statement' :: rest' => statement.same statement' && blockSame rest rest'
  | _, _ => false

/-- Equality of the branches of a conditional. -/
def branchesSame :
    List (Expression × List Statement) → List (Expression × List Statement) → Bool
  | [], [] => true
  | (condition, body) :: rest, (condition', body') :: rest' =>
    condition.same condition' && blockSame body body' && branchesSame rest rest'
  | _, _ => false

end

end Statement

end SlashScript
