/-
The built-in functions that need only their arguments. Texts are counted and cut by characters;
positions start at zero, and those outside a text are moved to its nearest end.
-/

import SlashScript.Pattern.Regex
import SlashScript.Text.Casing
import SlashScript.Text.Quoted
import SlashScript.Value.Arithmetic

namespace SlashScript

/-- The reasons for which an evaluation fails. -/
inductive EvalError where
  | arithmetic (reason : ArithmeticError)
  /-- The pattern of a regular expression operator was refused. -/
  | badRegex (pattern : String) (reason : RegexError)
  /-- The pattern given to a function was refused. -/
  | badRegexArgument (function : String) (reason : RegexError)
  | missingArgument (function : String) (position : Nat)
  | tooFewArguments (function : String)
  | resultTooLarge (function : String)
  | unknownAction (function text : String)
  | badIndex (index : Int64)
  | unknownFunction (name : String)
  | badBound (bound text : String)

namespace EvalError

/-- The text of a failure. -/
def message : EvalError → String
  | arithmetic reason => reason.message
  | badRegex pattern reason => s!"bad regex {Text.quoted pattern}: {reason.message}"
  | badRegexArgument function reason => s!"{function}: bad regex: {reason.message}"
  | missingArgument function position => s!"{function}: missing argument {position}"
  | tooFewArguments function => s!"{function}: too few args"
  | resultTooLarge function => s!"{function}: result too large"
  | unknownAction function text => s!"{function}: {ErrorAction.refusal text}"
  | badIndex index => s!"arg: bad index {index.toInt}"
  | unknownFunction name => s!"unknown function: {name}"
  | badBound bound text => s!"invalid /for {bound} value: {text}"

end EvalError

/-- A built-in function. -/
inductive Builtin where
  | strlen
  | strcat
  | substr
  | strstr
  | toupper
  | tolower
  | strrep
  | replace
  | regmatch
  | abs
  | min
  | max
  | whatis
  | action
  deriving DecidableEq

namespace Builtin

/-- The name under which a function is called. -/
def name : Builtin → String
  | strlen => "strlen"
  | strcat => "strcat"
  | substr => "substr"
  | strstr => "strstr"
  | toupper => "toupper"
  | tolower => "tolower"
  | strrep => "strrep"
  | replace => "replace"
  | regmatch => "regmatch"
  | abs => "abs"
  | min => "min"
  | max => "max"
  | whatis => "whatis"
  | action => "action"

/-- All functions. -/
def all : List Builtin :=
  [strlen, strcat, substr, strstr, toupper, tolower, strrep, replace, regmatch, abs, min, max,
    whatis, action]

/-- The function with a name. -/
def ofName? (name : String) : Option Builtin :=
  all.find? fun builtin => builtin.name == name

/-! ### Texts -/

/-- The greatest number of bytes that a repeated text may have. -/
def maxResultBytes : Nat := 16 * Nat.pow 2 20

/-- An integer as a position or length: negative ones count as zero. -/
def toPosition (number : Int64) : Nat :=
  number.toInt.toNat

/-- The position of the first occurrence of a text, counted in characters. -/
def indexOf? (wanted : List Char) : List Char → Option Nat
  | [] => if wanted.isEmpty then some 0 else none
  | char :: rest =>
    if wanted.isPrefixOf (char :: rest) then some 0 else (indexOf? wanted rest).map (· + 1)

/-- The part of a text from a position on, of a length if one is given. -/
def slice (text : List Char) (position : Nat) (length : Option Nat) : List Char :=
  match length with
  | none => text.drop position
  | some length => (text.drop position).take length

/-- The text with every occurrence of a nonempty text replaced, from left to right. The count is
the number of characters of the current occurrence that are still to be passed over. -/
def replaceFrom (wanted replacement : List Char) (passing : Nat) : List Char → List Char
  | [] => []
  | char :: rest =>
    match passing with
    | passing + 1 => replaceFrom wanted replacement passing rest
    | 0 =>
      if wanted.isPrefixOf (char :: rest) then
        replacement ++ replaceFrom wanted replacement (wanted.length - 1) rest
      else char :: replaceFrom wanted replacement 0 rest

/-- The text with every occurrence of another replaced; the empty text occurs before every
character and at the end. -/
def replaceAll (text wanted replacement : List Char) : List Char :=
  if wanted.isEmpty then replacement ++ text.flatMap fun char => char :: replacement
  else replaceFrom wanted replacement 0 text

/-! ### Arguments -/

/-- The argument at a position, counted from zero. -/
def argument (function : Builtin) (arguments : List Value) (position : Nat) :
    Except EvalError Value :=
  match arguments[position]? with
  | some value => .ok value
  | none => .error (.missingArgument function.name (position + 1))

/-- The text of the argument at a position. -/
def textArgument (function : Builtin) (arguments : List Value) (position : Nat) :
    Except EvalError String :=
  (function.argument arguments position).map Value.toText

/-- The argument at a position as an integer. -/
def integerArgument (function : Builtin) (arguments : List Value) (position : Nat) :
    Except EvalError Int64 :=
  (function.argument arguments position).map Value.toInt64

/-- The first argument of a function that needs no other. -/
def firstArgument (function : Builtin) (arguments : List Value) : Except EvalError Value :=
  match arguments with
  | value :: _ => .ok value
  | [] => .error (.tooFewArguments function.name)

/-- The first of the values that stands furthest in one direction of the order. -/
def extreme (direction : Ordering) (first : Value) (others : List Value) : Value :=
  others.foldl (fun best value => if value.order best = direction then value else best) first

/-- The value of a text made of characters. -/
def ofChars (chars : List Char) : Value :=
  .text (String.ofList chars)

/-! ### Calls -/

/-- The result of a call. -/
def call (function : Builtin) (arguments : List Value) : Except EvalError Value :=
  match function with
  | strlen => do
    let text ← function.textArgument arguments 0
    .ok (.ofNat text.length)
  | strcat => .ok (.text (String.join (arguments.map Value.toText)))
  | substr => do
    let text ← function.textArgument arguments 0
    let position ← function.integerArgument arguments 1
    let length := arguments[2]?.map fun value => toPosition value.toInt64
    .ok (ofChars (slice text.toList (toPosition position) length))
  | strstr => do
    let text ← function.textArgument arguments 0
    let wanted ← function.textArgument arguments 1
    match indexOf? wanted.toList text.toList with
    | some index => .ok (.ofNat index)
    | none => .ok (.integer (-1))
  | toupper => do
    let text ← function.textArgument arguments 0
    .ok (ofChars (Text.toCapitals text.toList))
  | tolower => do
    let text ← function.textArgument arguments 0
    .ok (ofChars (Text.toSmalls text.toList))
  | strrep => do
    let text ← function.textArgument arguments 0
    let count := toPosition (← function.integerArgument arguments 1)
    if text.utf8ByteSize * count ≤ maxResultBytes then
      .ok (.text (if text.isEmpty then "" else String.join (List.replicate count text)))
    else .error (.resultTooLarge function.name)
  | replace => do
    let text ← function.textArgument arguments 0
    let wanted ← function.textArgument arguments 1
    let replacement ← function.textArgument arguments 2
    .ok (ofChars (replaceAll text.toList wanted.toList replacement.toList))
  | regmatch => do
    let pattern ← function.textArgument arguments 0
    let text ← function.textArgument arguments 1
    match Regex.compile pattern with
    | .ok regex => .ok (.text ((regex.find? text).getD ""))
    | .error reason => .error (.badRegexArgument function.name reason)
  | abs => do
    match ← function.firstArgument arguments with
    | .real number => .ok (.real number.abs)
    | value =>
      let number := value.toInt64
      .ok (.integer (if number < 0 then -number else number))
  | min => do
    let first ← function.firstArgument arguments
    .ok (extreme .lt first arguments.tail)
  | max => do
    let first ← function.firstArgument arguments
    .ok (extreme .gt first arguments.tail)
  | whatis => do
    let value ← function.firstArgument arguments
    .ok (.text value.typeName)
  | action => do
    let text ← function.textArgument arguments 0
    match ErrorAction.ofText? text with
    | some preference => .ok (.action preference)
    | none => .error (.unknownAction function.name text)

end Builtin

end SlashScript
