/-
Evaluating expressions and making the substitutions of templates. Evaluation goes from left to
right, may change variables on its way through assignments, and keeps those changes when it fails
later on.
-/

import SlashScript.Builtin
import SlashScript.Glob
import SlashScript.Template
import SlashScript.Workspace

namespace SlashScript

/-- A computation on a workspace that may fail; what it did to the workspace stays done. -/
def Evaluation (Result : Type) : Type :=
  Workspace → Except EvalError Result × Workspace

namespace Evaluation

/-- The result, whatever the workspace. -/
def pure {Result : Type} (result : Result) : Evaluation Result :=
  fun workspace => (.ok result, workspace)

/-- One computation after another; a failure of the first is the failure of both. -/
def bind {First Second : Type} (first : Evaluation First) (second : First → Evaluation Second) :
    Evaluation Second := fun workspace =>
  match first workspace with
  | (.ok result, workspace) => second result workspace
  | (.error reason, workspace) => (.error reason, workspace)

instance : Monad Evaluation where
  pure := pure
  bind := bind

/-- What is read from the workspace. -/
def ask {Result : Type} (read : Workspace → Result) : Evaluation Result :=
  fun workspace => (.ok (read workspace), workspace)

/-- A change of the workspace. -/
def change (update : Workspace → Workspace) : Evaluation Unit :=
  fun workspace => (.ok (), update workspace)

/-- A result that is already known, or a failure. -/
def ofExcept {Result : Type} (result : Except EvalError Result) : Evaluation Result :=
  fun workspace => (result, workspace)

end Evaluation

namespace Expression

/-- The value that a condition or a comparison gives. -/
def comparison (operator : BinaryOperator) (order : Ordering) : Bool :=
  match operator with
  | .eq => order == .eq
  | .ne => order != .eq
  | .lt => order == .lt
  | .le => order != .gt
  | .gt => order == .gt
  | .ge => order != .lt
  | _ => false

/-- Whether the text of a value contains a match of the regular expression that is the text of
another. -/
def matchesRegex (text pattern : Value) : Except EvalError Bool :=
  match Regex.compile pattern.toText with
  | .ok regex => .ok (regex.isMatch text.toText)
  | .error reason => .error (.badRegex pattern.toText reason)

/-- Whether the text of a value matches the wildcard pattern that is the text of another. -/
def matchesGlob (text pattern : Value) : Bool :=
  Glob.isMatch pattern.toText.toList text.toText.toList

/-- The value of an operator between two values. -/
def applyBinary (operator : BinaryOperator) (left right : Value) : Except EvalError Value :=
  match operator with
  | .add => .ok (left.add right)
  | .sub => .ok (left.sub right)
  | .mul => .ok (left.mul right)
  | .div => (left.div right).mapError .arithmetic
  | .rem => (left.rem right).mapError .arithmetic
  | .glob => .ok (.ofBool (matchesGlob left right))
  | .notGlob => .ok (.ofBool (!matchesGlob left right))
  | .regex => (matchesRegex left right).map .ofBool
  | .notRegex => (matchesRegex left right).map fun found => .ofBool (!found)
  | .and => .ok (.ofBool (left.isTrue && right.isTrue))
  | .or => .ok (.ofBool (left.isTrue || right.isTrue))
  | operator => .ok (.ofBool (comparison operator (left.order right)))

/-- The value that an assignment stores, from the value that its variable has. -/
def applyAssignment (assignment : Assignment) (current operand : Value) :
    Except EvalError Value :=
  match assignment with
  | .set => .ok operand
  | .add => .ok (current.add operand)
  | .sub => .ok (current.sub operand)
  | .mul => .ok (current.mul operand)
  | .div => (current.div operand).mapError .arithmetic

/-- The argument of the invocation that the function `arg` asks for, by its index from one on. -/
def argumentAt (arguments : List Value) (index : Int64) : Except EvalError Value :=
  if index.toInt < 1 then .error (.badIndex index)
  else .ok (arguments.getD (index.toInt - 1).toNat .empty)

/-- The value of a function call. -/
def callFunction (name : String) (arguments : List Value) (workspace : Workspace) :
    Except EvalError Value :=
  match name with
  | "arg" =>
    match arguments with
    | [] => .error (.missingArgument name 1)
    | index :: _ => argumentAt workspace.arguments index.toInt64
  | "argc" => .ok (.ofNat workspace.arguments.length)
  | "defined" =>
    match arguments with
    | [] => .error (.missingArgument name 1)
    | variableName :: _ => .ok (.ofBool (workspace.defines variableName.toText))
  | _ =>
    match Builtin.ofName? name with
    | some builtin => builtin.call arguments
    | none => .error (.unknownFunction name)

mutual

/-- The value of an expression. -/
def evaluate : Expression → Evaluation Value
  | literal value => pure value
  | named name => Evaluation.ask fun workspace => (workspace.get? name).getD .empty
  | unary .neg operand => do
    let value ← operand.evaluate
    pure value.neg
  | unary .not operand => do
    let value ← operand.evaluate
    pure (.ofBool (!value.isTrue))
  | binary .and left right => do
    let value ← left.evaluate
    if value.isTrue then do
      let value ← right.evaluate
      pure (.ofBool value.isTrue)
    else pure (.ofBool false)
  | binary .or left right => do
    let value ← left.evaluate
    if value.isTrue then pure (.ofBool true)
    else do
      let value ← right.evaluate
      pure (.ofBool value.isTrue)
  | binary operator left right => do
    let leftValue ← left.evaluate
    let rightValue ← right.evaluate
    Evaluation.ofExcept (applyBinary operator leftValue rightValue)
  | conditional condition whenTrue whenFalse => do
    let value ← condition.evaluate
    if value.isTrue then whenTrue.evaluate else whenFalse.evaluate
  | assign name assignment operand => do
    let value ← operand.evaluate
    let current ← Evaluation.ask fun workspace => (workspace.get? name).getD (.integer 0)
    let result ← Evaluation.ofExcept (applyAssignment assignment current value)
    Evaluation.change fun workspace => workspace.set name result
    pure result
  | call name arguments => do
    let values ← evaluateAll arguments
    fun workspace => (callFunction name values workspace, workspace)
  | sequence items => do
    let values ← evaluateAll items
    pure (values.getLastD .empty)

/-- The values of several expressions, from left to right. -/
def evaluateAll : List Expression → Evaluation (List Value)
  | [] => pure []
  | first :: rest => do
    let value ← first.evaluate
    let values ← evaluateAll rest
    pure (value :: values)

end

end Expression

namespace Template

/-- The text of a part. -/
def expandPart : TemplatePart → Evaluation String
  | .literal text => pure text
  | .named name default => Evaluation.ask fun workspace =>
    let text := ((workspace.get? name).getD .empty).toText
    match default with
    | some default => if text.isEmpty then default else text
    | none => text
  | .argument index => Evaluation.ask fun workspace =>
    (workspace.arguments.getD (index - 1) .empty).toText
  | .allArguments => Evaluation.ask fun workspace =>
    " ".intercalate (workspace.arguments.map Value.toText)
  | .argumentCount => Evaluation.ask fun workspace => toString workspace.arguments.length
  | .expression expression => do
    let value ← expression.evaluate
    pure value.toText

/-- The text of several parts, from left to right. -/
def expandParts : List TemplatePart → Evaluation String
  | [] => pure ""
  | part :: rest => do
    let text ← expandPart part
    let others ← expandParts rest
    pure (text ++ others)

/-- The text of a template. -/
def expand (template : Template) : Evaluation String :=
  expandParts template.parts

end Template

end SlashScript
