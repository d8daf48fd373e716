/-
Commands that take one input after the other. Building makes one script of all its inputs.
Running takes pieces of text and scripts that are ready: text is gathered until a script arrives
or the inputs end, and is then run as one script before anything else. The invocations of a
command follow each other, and the first failure ends the command.
-/

import SlashScript.Gathering
import SlashScript.Invocation

namespace SlashScript

/-- The script that pieces of text make together. -/
def buildScript (fragments : List Fragment) : Except CompileError Script :=
  Script.compile (fragments.foldl Gathering.append .empty).text

/-- What the log tells of a script that was built of some pieces of text. -/
def Script.builtFrom (fragments : Nat) (script : Script) : Logging.Event :=
  ⟨.debug, "scriptblock::pipeline", "built unit",
    [("fragments", toString fragments), ("statements", toString script.statements.length)]⟩

/-- An input of a running command. -/
inductive RunInput where
  | text (fragment : Fragment)
  | script (script : Script)

/-- What holds for every invocation of a running command. -/
structure RunOptions where
  arguments : Option (List Value)
  /-- Whether the scripts write into the scope of their caller. -/
  noNewScope : Bool
  /-- The error action that the caller wishes for. -/
  errorAction : Option ErrorAction

namespace RunOptions

/-- Where the invocations write their variables. -/
def mode (options : RunOptions) : Workspace.ScopeMode :=
  if options.noNewScope then .callerScope else .newScope

/-- The request for one script. -/
def request (options : RunOptions) (script : Script) (action : ErrorAction) : Request :=
  ⟨script, options.arguments.getD [], options.mode, action⟩

end RunOptions

/-- A running command between two inputs. -/
structure Pipeline (Outside : Type) where
  session : Session Outside
  /-- The text that is not run yet. -/
  gathering : Gathering
  /-- The outcomes so far, in order. -/
  outcomes : Array Outcome

namespace Pipeline

variable {Outside : Type}

/-- A command before its first input. -/
def start (session : Session Outside) : Pipeline Outside :=
  ⟨session, .empty, #[]⟩

/-- The span of the next invocation. -/
def span (pipeline : Pipeline Outside) : Logging.Span :=
  ⟨"run", [("n", toString (pipeline.outcomes.size + 1))]⟩

/-- The command after a logger was told of events of the next invocation. -/
def tell (logger : Logger Outside) (events : List Logging.Event) (pipeline : Pipeline Outside) :
    Pipeline Outside :=
  { pipeline with session := pipeline.session.tell (logger.within pipeline.span) events }

@[simp] theorem tell_silent (events : List Logging.Event) (pipeline : Pipeline Outside) :
    pipeline.tell .silent events = pipeline := rfl

/-- The command after an invocation, and whether it goes on. -/
def absorb (pipeline : Pipeline Outside) :
    Except Failure Outcome × Session Outside → Except Failure Unit × Pipeline Outside
  | (.error reason, session) => (.error reason, { pipeline with session := session })
  | (.ok outcome, session) =>
    (.ok (), { pipeline with session := session, outcomes := pipeline.outcomes.push outcome })

/-- Runs a script under the error action that holds when it starts. -/
def execute (sink : Sink Outside) (options : RunOptions) (script : Script)
    (pipeline : Pipeline Outside) (logger : Logger Outside := .silent) :
    Except Failure Unit × Pipeline Outside :=
  let session := pipeline.session
  match session.engine.resolvePolicy session.workspace options.errorAction with
  | .error reason => (.error (.invalidPolicy reason), pipeline)
  | .ok action =>
    let pipeline := pipeline.tell logger [Engine.resolution options.errorAction action]
    pipeline.absorb
      (pipeline.session.invoke sink (options.request script action) (logger.within pipeline.span))

/-- Runs the gathered text, if there is any. -/
def flush (sink : Sink Outside) (options : RunOptions) (pipeline : Pipeline Outside)
    (logger : Logger Outside := .silent) : Except Failure Unit × Pipeline Outside :=
  if pipeline.gathering.isEmpty then (.ok (), pipeline)
  else
    let emptied := { pipeline with gathering := .empty }.tell logger [Engine.compilation]
    match Script.compile pipeline.gathering.text with
    | .error reason => (.error (.compile reason), emptied)
    | .ok script => (emptied.tell logger [script.compiled]).execute sink options script logger

/-- Takes an input. -/
def process (sink : Sink Outside) (options : RunOptions) (input : RunInput)
    (pipeline : Pipeline Outside) (logger : Logger Outside := .silent) :
    Except Failure Unit × Pipeline Outside :=
  match input with
  | .text fragment =>
    (.ok (), { pipeline with gathering := pipeline.gathering.append fragment })
  | .script script =>
    match pipeline.flush sink options logger with
    | (.ok (), pipeline) => pipeline.execute sink options script logger
    | failed => failed

/-- Takes inputs in order until one fails; also tells how many did not. -/
def processAll (sink : Sink Outside) (options : RunOptions) (inputs : List RunInput)
    (pipeline : Pipeline Outside) (logger : Logger Outside := .silent) :
    Nat × Except Failure Unit × Pipeline Outside :=
  match inputs with
  | [] => (0, .ok (), pipeline)
  | input :: inputs =>
    match pipeline.process sink options input logger with
    | (.ok (), pipeline) =>
      let (accepted, result) := processAll sink options inputs pipeline logger
      (accepted + 1, result)
    | failed => (0, failed)

/-- The end of a command: how many inputs it took, its outcomes or the failure that ended it, and
the session afterwards. -/
structure Report (Outside : Type) where
  accepted : Nat
  result : Except Failure (List Outcome)
  session : Session Outside

/-- Runs a command on all its inputs. -/
def runAll (sink : Sink Outside) (options : RunOptions) (inputs : List RunInput)
    (session : Session Outside) (logger : Logger Outside := .silent) : Report Outside :=
  match processAll sink options inputs (start session) logger with
  | (accepted, .error reason, pipeline) => ⟨accepted, .error reason, pipeline.session⟩
  | (accepted, .ok (), pipeline) =>
    match pipeline.flush sink options logger with
    | (.error reason, pipeline) => ⟨accepted, .error reason, pipeline.session⟩
    | (.ok (), pipeline) => ⟨accepted, .ok pipeline.outcomes.toList, pipeline.session⟩

end Pipeline

end SlashScript
