/-
Running scripts. The interpreter turns statements into the requests that they make of the host.
Before every statement and every round of a loop it asks whether to go on. An evaluation that
fails abandons its statement and is raised as an error by the block around it, and the block goes
on with the next statement; a thrown error ends the script.
-/

import SlashScript.Evaluation
import SlashScript.Run
import SlashScript.Statement.Basic

namespace SlashScript

/-- How a statement or a block ended. -/
inductive Flow where
  | normal
  /-- The innermost loop is left. -/
  | leaveLoop
  /-- The script is left, with a last value to emit if there is one. -/
  | giveBack (result : Option Value)
  /-- A thrown error was allowed to pass; the script ends. -/
  | halt
  /-- An evaluation failed. -/
  | fault (reason : EvalError)

namespace Interpreter

/-- A script under way. -/
abbrev Running : Type := Run Workspace Flow

/-- Goes on with the result of an evaluation, or ends with its failure. -/
def evaluating {Result : Type} (evaluation : Evaluation Result) (workspace : Workspace)
    (next : Result → Workspace → Running) : Running :=
  match evaluation workspace with
  | (.ok result, workspace) => next result workspace
  | (.error reason, workspace) => .done (.fault reason) workspace

/-- Goes on after an error, unless it is one after which a script cannot. -/
def resuming (record : ErrorRecord) (next : Workspace → Running) (workspace : Workspace) :
    Running :=
  if record.isResumable then next workspace else .done .halt workspace

/-- Hands an error to the host, keeps it in the log if the host says so, and then goes on if the
script can. -/
def raising (record : ErrorRecord) (workspace : Workspace) (next : Workspace → Running) :
    Running :=
  .raise record workspace fun
    | .logged => resuming record next (workspace.record record)
    | .dropped => resuming record next workspace

/-- Emits a value. -/
def emitting (value : Value) (workspace : Workspace) (next : Workspace → Running) : Running :=
  .emit value workspace fun _ => next workspace

/-- Evaluates and emits expressions one after the other. -/
def emitAll : List Expression → Workspace → Running
  | [], workspace => .done .normal workspace
  | item :: items, workspace =>
    evaluating item.evaluate workspace fun value workspace =>
      emitting value workspace fun workspace => emitAll items workspace

/-- Gives names to arguments in order; a name without an argument gets the empty text. -/
def bindNames : List String → List Value → Workspace → Workspace
  | [], _, workspace => workspace
  | name :: names, arguments, workspace =>
    bindNames names arguments.tail (workspace.set name (arguments.headD .empty))

/-- The integer that an end of a range is written as. -/
def rangeEnd (bound : String) (text : Template) : Evaluation Int64 := do
  let text ← text.expand
  match Decimal.readInt64? (Text.trim text.toList) with
  | some number => pure number
  | none => Evaluation.ofExcept (.error (.badBound bound text))

/-- What a loop does after a round of its body: it goes on, or it ends with the statement's own
way of ending. -/
def afterRound (flow : Flow) (workspace : Workspace) (next : Workspace → Running) : Running :=
  match flow with
  | .normal => next workspace
  | .leaveLoop => .done .normal workspace
  | flow => .done flow workspace

/-- Rounds of a body while a condition holds, as many as the limit allows. -/
def whileRounds (condition : Evaluation Value) (body : Workspace → Running) :
    Nat → Workspace → Running
  | 0, workspace => .exhausted workspace
  | limit + 1, workspace =>
    .poll workspace fun _ =>
      evaluating condition workspace fun value workspace =>
        if value.isTrue then
          (body workspace).bind fun flow workspace =>
            afterRound flow workspace (whileRounds condition body limit)
        else .done .normal workspace

/-- Rounds of a body with a variable that counts up. -/
def forRounds (name : String) (body : Workspace → Running) :
    Nat → Int → Workspace → Running
  | 0, _, workspace => .done .normal workspace
  | rounds + 1, current, workspace =>
    .poll workspace fun _ =>
      (body (workspace.set name (.integer (Int64.ofInt current)))).bind fun flow workspace =>
        afterRound flow workspace (forRounds name body rounds (current + 1))

/-- The number of integers in a range whose ends belong to it. -/
def rangeSize (first last : Int64) : Nat :=
  (last.toInt - first.toInt + 1).toNat

mutual

/-- Runs a statement. The limit is the number of rounds that each loop without a range may
take. -/
def runStatement (limit : Nat) : Statement → Workspace → Running
  | .echo text, workspace =>
    evaluating text.expand workspace fun text workspace =>
      emitting (.text text) workspace (.done .normal)
  | .emit items, workspace => emitAll items workspace
  | .set name value isGlobal, workspace =>
    evaluating value.expand workspace fun text workspace =>
      let value := Value.ofText text
      .done .normal (if isGlobal then workspace.setGlobal name value else workspace.set name value)
  | .unset name, workspace => .done .normal (workspace.unset name)
  | .param names, workspace => .done .normal (bindNames names workspace.arguments workspace)
  | .evaluate expression, workspace =>
    evaluating expression.evaluate workspace fun _ workspace => .done .normal workspace
  | .choose branches otherwise, workspace =>
    runBranches limit branches (runBlock limit otherwise) workspace
  | .whileLoop condition body, workspace =>
    whileRounds condition.evaluate (runBlock limit body) limit workspace
  | .forLoop name first last body, workspace =>
    evaluating (rangeEnd "start" first) workspace fun first workspace =>
      evaluating (rangeEnd "end" last) workspace fun last workspace =>
        forRounds name (runBlock limit body) (rangeSize first last) first.toInt workspace
  | .leaveLoop, workspace => .done .leaveLoop workspace
  | .giveBack none, workspace => .done (.giveBack none) workspace
  | .giveBack (some result), workspace =>
    evaluating result.evaluate workspace fun value workspace =>
      .done (.giveBack (some value)) workspace
  | .error text, workspace =>
    evaluating text.expand workspace fun text workspace =>
      raising ⟨.nonTerminating, text⟩ workspace (.done .normal)
  | .throw text, workspace =>
    evaluating text.expand workspace fun text workspace =>
      raising ⟨.thrown, text⟩ workspace (.done .normal)

/-- Runs the statements of a block in order. -/
def runBlock (limit : Nat) : List Statement → Workspace → Running
  | [], workspace => .done .normal workspace
  | statement :: rest, workspace =>
    .poll workspace fun _ =>
      (runStatement limit statement workspace).bind fun
        | .normal, workspace => runBlock limit rest workspace
        | .fault reason, workspace =>
          raising ⟨.statement, reason.message⟩ workspace (runBlock limit rest)
        | flow, workspace => .done flow workspace

/-- Runs the block of the first branch whose condition holds, or what is to run otherwise. -/
def runBranches (limit : Nat) : List (Expression × List Statement) → (Workspace → Running) →
    Workspace → Running
  | [], otherwise, workspace => otherwise workspace
  | (condition, block) :: branches, otherwise, workspace =>
    evaluating condition.evaluate workspace fun value workspace =>
      if value.isTrue then runBlock limit block workspace
      else runBranches limit branches otherwise workspace

end

/-- Runs a script to its end. A value that is given back is emitted last. -/
def runScript (limit : Nat) (block : Block) (workspace : Workspace) : Run Workspace Unit :=
  (runBlock limit block workspace).bind fun
    | .giveBack (some value), workspace => .emit value workspace fun _ => .done () workspace
    | _, workspace => .done () workspace

end Interpreter

end SlashScript
