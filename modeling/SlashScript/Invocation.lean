/-
Invocations. An engine runs a script in the workspace of its caller: the script gets arguments
and, unless it is to share the caller's scope, a scope of its own. What the script emits goes to
a sink in the order in which it is emitted, and the error action of the invocation decides about
each error that the script raises. However the invocation ends, the workspace is back at the
caller's scopes and arguments. A logger is told of the course of an invocation; without one
nothing is logged.
-/

import SlashScript.Interpreter
import SlashScript.Script
import SlashScript.Settings

namespace SlashScript

/-! ### Sinks -/

/-- A value on its way to a sink. -/
structure OutputEvent where
  /-- The number of the invocation that emitted the value. -/
  invocation : Nat
  /-- The position of the value among those that the invocation emitted, from zero on. -/
  position : Nat
  value : Value

/-- What receives the output of invocations, and answers for their user. -/
structure Sink (Outside : Type) where
  output : OutputEvent → Outside → Outside
  /-- Reports an error after which the invocation goes on. -/
  report : ErrorRecord → Outside → Outside
  /-- Asks whether to go on after an error. -/
  inquire : ErrorRecord → Outside → Bool × Outside
  /-- Whether the invocations are to be cancelled. -/
  isCancelled : Outside → Bool

/-- What an error action makes of an error. -/
def ErrorAction.judge {Outside : Type} (action : ErrorAction) (sink : Sink Outside)
    (record : ErrorRecord) (outside : Outside) : Verdict × Outside :=
  match action with
  | .stop => (.stop, outside)
  | .proceed => (.log, sink.report record outside)
  | .silent => (.log, outside)
  | .ignore => (.drop, outside)
  | .inquire =>
    let (goOn, outside) := sink.inquire record outside
    if goOn then (.log, sink.report record outside) else (.stop, outside)

/-- What an invocation has delivered so far. -/
structure Delivery (Outside : Type) where
  outside : Outside
  /-- The number of values that went to the sink. -/
  emitted : Nat
  /-- The number of errors that were kept in the log. -/
  errors : Nat

namespace Sink

variable {Outside : Type}

/-- Takes a value unless the invocation is cancelled. -/
def deliver (sink : Sink Outside) (invocation : Nat) (value : Value)
    (delivery : Delivery Outside) : Option (Delivery Outside) :=
  if sink.isCancelled delivery.outside then none
  else some { delivery with
    outside := sink.output ⟨invocation, delivery.emitted, value⟩ delivery.outside
    emitted := delivery.emitted + 1 }

/-- Judges an error unless the invocation is cancelled. -/
def judge (sink : Sink Outside) (action : ErrorAction) (record : ErrorRecord)
    (delivery : Delivery Outside) : Verdict × Delivery Outside :=
  if sink.isCancelled delivery.outside then (.cancel, delivery)
  else
    let (verdict, outside) := action.judge sink record delivery.outside
    let errors := if verdict = .log then delivery.errors + 1 else delivery.errors
    (verdict, { delivery with outside := outside, errors := errors })

/-- The host that a sink is for the script of one invocation. -/
def host (sink : Sink Outside) (action : ErrorAction) (invocation : Nat) :
    Host (Delivery Outside) where
  isCancelled delivery := sink.isCancelled delivery.outside
  take := sink.deliver invocation
  judge := sink.judge action

end Sink

/-! ### Phases -/

/-- What an invocation is at. -/
inductive Phase where
  | idle
  | compiling
  /-- It has its scope and its arguments. -/
  | bound
  | running
  | completed
  /-- An error ended it. -/
  | failedStop
  /-- An error was judged after which it goes on. -/
  | failedReportedOnly

namespace Phase

/-- The name of a phase. -/
def name : Phase → String
  | idle => "Idle"
  | compiling => "Compiling"
  | bound => "Bound"
  | running => "Running"
  | completed => "Completed"
  | failedStop => "FailedStop"
  | failedReportedOnly => "FailedReportedOnly"

end Phase

/-! ### Engines -/

/-- What runs scripts. -/
structure Engine where
  settings : EngineSettings
  resolver : Resolver
  /-- The number of the next invocation. -/
  next : Nat
  /-- The number of rounds that a loop without a range may take. -/
  roundLimit : Nat

namespace Engine

/-- The number of rounds that a loop may take unless another is asked for; no loop that runs
takes as many. -/
def standardRoundLimit : Nat := Nat.pow 2 62

/-- An engine with these settings that has not run anything yet. It asks the caller and then the
preference variable for the error action. -/
def ofSettings (settings : EngineSettings) : Engine :=
  ⟨settings, .chain settings.preferenceVariable, 1, standardRoundLimit⟩

/-- The error action for an invocation with the caller's wish. -/
def resolvePolicy (engine : Engine) (workspace : Workspace) (wish : Option ErrorAction) :
    Except InvalidPolicy ErrorAction :=
  (engine.resolver.resolve workspace wish).map (·.getD engine.settings.fallbackAction)

/-- What the log tells of an engine. -/
def event (level : Logging.Level) (message : String) (fields : List (String × String)) :
    Logging.Event :=
  ⟨level, "scriptblock::engine", message, fields⟩

/-- A text is to be compiled for an invocation. -/
def compilation : Logging.Event :=
  event .trace "invocation state" [("to", Phase.compiling.name)]

/-- An invocation goes from one phase to another. -/
def transition (before after : Phase) : Logging.Event :=
  event .trace "invocation state" [("from", before.name), ("to", after.name)]

/-- The error action for an invocation was found. -/
def resolution (wish : Option ErrorAction) (action : ErrorAction) : Logging.Event :=
  let hint := match wish with
    | none => "None"
    | some wished => s!"Some({wished.name})"
  event .debug "resolved error policy" [("hint", hint), ("action", action.name)]

end Engine

/-- What an invocation is asked to do. -/
structure Request where
  script : Script
  arguments : List Value
  mode : Workspace.ScopeMode
  action : ErrorAction

/-- The summary of an invocation that came to its end. -/
structure Outcome where
  invocation : Nat
  /-- The number of values that went to the sink. -/
  emitted : Nat
  /-- The number of errors that were kept in the log. -/
  errors : Nat
  deriving DecidableEq

/-- The reasons for which a script was not run to its end. -/
inductive Failure where
  | compile (reason : CompileError)
  | invalidPolicy (reason : InvalidPolicy)
  /-- An error ended the invocation. -/
  | stopped (record : ErrorRecord)
  | cancelled
  /-- A loop took more rounds than the engine allows. -/
  | exhausted

namespace Failure

/-- The text of the failure. -/
def message : Failure → String
  | compile reason => s!"compile error: {reason.display}"
  | invalidPolicy reason => reason.message
  | stopped record => s!"execution stopped: {record.message}"
  | cancelled => "invocation cancelled"
  | exhausted => "too many rounds of a loop"

end Failure

/-! ### The log of an invocation -/

/-- What the log tells of a verdict on an error. -/
def Verdict.events : Verdict → List Logging.Event
  | log | drop =>
    [Engine.transition .running .failedReportedOnly, Engine.transition .failedReportedOnly .running]
  | stop | cancel => []

/-- The same host, which also tells of its verdicts. -/
def Logger.watch {Outside : Type} (logger : Logger Outside) (host : Host (Delivery Outside)) :
    Host (Delivery Outside) where
  isCancelled := host.isCancelled
  take := host.take
  judge record delivery :=
    let (verdict, delivery) := host.judge record delivery
    (verdict, { delivery with outside := logger.tell verdict.events delivery.outside })

namespace Request

/-- The span of an invocation. -/
def span (invocation : Nat) (request : Request) : Logging.Span :=
  ⟨"invoke", [("invocation", s!"#{invocation}"), ("policy", request.action.name)]⟩

/-- What the log tells of the start of an invocation in the workspace of its caller. -/
def opening (request : Request) (caller : Workspace) : List Logging.Event :=
  [Engine.event .trace "session opened" [("scopes", toString caller.depth),
      ("frames", toString caller.frames.length), ("scope", request.mode.name)],
    Engine.transition .idle .bound, Engine.transition .bound .running]

end Request

/-- What the log tells of the end of an invocation. A cancellation is told of only if it came up
when the script handed something over. -/
def Ending.events {Outside : Type} (handingOver : Bool) (caller : Workspace)
    (delivery : Delivery Outside) (ending : Ending Unit) : List Logging.Event :=
  let released := Engine.event .trace "session released" [("scopes", toString caller.depth)]
  match ending with
  | .finished () => [released, Engine.transition .running .completed,
      Engine.event .debug "invocation completed"
        [("emitted", toString delivery.emitted), ("errors", toString delivery.errors)]]
  | .stopped record => [released, Engine.transition .running .failedStop,
      Engine.event .debug "invocation stopped" [("error", record.message)]]
  | .cancelled =>
    if handingOver then [Engine.event .debug "cancellation observed" [], released] else [released]
  | .exhausted => [released]

/-! ### Sessions -/

/-- An engine at work: its workspace, and the state of what is outside. -/
structure Session (Outside : Type) where
  engine : Engine
  workspace : Workspace
  outside : Outside

namespace Session

variable {Outside : Type}

/-- The result of an invocation, from the way its run ended. -/
def conclude (invocation : Nat) (delivery : Delivery Outside) :
    Ending Unit → Except Failure Outcome
  | .finished () => .ok ⟨invocation, delivery.emitted, delivery.errors⟩
  | .stopped record => .error (.stopped record)
  | .cancelled => .error .cancelled
  | .exhausted => .error .exhausted

/-- The session after a logger was told of events. -/
def tell (logger : Logger Outside) (events : List Logging.Event) (session : Session Outside) :
    Session Outside :=
  { session with outside := logger.tell events session.outside }

@[simp] theorem tell_silent (events : List Logging.Event) (session : Session Outside) :
    session.tell .silent events = session := rfl

/-- Runs a script. The invocation takes its number first; if it is already cancelled then,
nothing else happens. -/
def invoke (sink : Sink Outside) (request : Request) (session : Session Outside)
    (logger : Logger Outside := .silent) : Except Failure Outcome × Session Outside :=
  let invocation := session.engine.next
  let engine := { session.engine with next := invocation + 1 }
  if sink.isCancelled session.outside then (.error .cancelled, { session with engine := engine })
  else
    let logger := logger.within (request.span invocation)
    let inside := session.workspace.enter request.mode request.arguments
    let run := Interpreter.runScript engine.roundLimit request.script.statements inside
    let host := logger.watch (sink.host request.action invocation)
    let start := ⟨logger.tell (request.opening session.workspace) session.outside, 0, 0⟩
    let ended := run.serve host start
    let closing := ended.ending.events (run.isCancelledHandingOver host start) session.workspace
      ended.outside
    (conclude invocation ended.outside ended.ending,
      ⟨engine, ended.state.leave session.workspace, logger.tell closing ended.outside.outside⟩)

end Session

end SlashScript
