/-
A running script seen from its host: a tree of the requests that the script makes. Between
statements it asks whether to go on, it hands over each value it emits, and it hands over each
error and learns what became of it. Every request shows the state of the script at that place,
since a host may end the run there and then nothing more happens. A host is a handler that
answers the requests one by one.
-/

import SlashScript.Workspace

namespace SlashScript

/-- What became of an error after which the script goes on. -/
inductive Keeping where
  /-- It belongs in the log. -/
  | logged
  | dropped
  deriving DecidableEq

/-- A run that starts with requests and ends with a result. -/
inductive Run (State Result : Type) where
  | done (result : Result) (now : State)
  /-- A loop went on for more rounds than the run allows. -/
  | exhausted (now : State)
  /-- Asks whether the run is to go on. -/
  | poll (now : State) (next : Unit → Run State Result)
  /-- Hands over a value. -/
  | emit (value : Value) (now : State) (next : Unit → Run State Result)
  /-- Hands over an error. -/
  | raise (record : ErrorRecord) (now : State) (next : Keeping → Run State Result)

namespace Run

variable {State First Second : Type}

/-- One run after another. -/
def bind : Run State First → (First → State → Run State Second) → Run State Second
  | done result now, continuation => continuation result now
  | exhausted now, _ => exhausted now
  | poll now next, continuation => poll now fun _ => (next ()).bind continuation
  | emit value now next, continuation => emit value now fun _ => (next ()).bind continuation
  | raise record now next, continuation =>
    raise record now fun keeping => (next keeping).bind continuation

@[simp] theorem bind_done (result : First) (now : State)
    (continuation : First → State → Run State Second) :
    (done result now).bind continuation = continuation result now := rfl

theorem bind_assoc {Third : Type} (run : Run State First)
    (second : First → State → Run State Second) (third : Second → State → Run State Third) :
    (run.bind second).bind third = run.bind fun result now => (second result now).bind third := by
  induction run with
  | done result now => rfl
  | exhausted now => rfl
  | poll now next inductionHypothesis => simp only [bind, inductionHypothesis]
  | emit value now next inductionHypothesis => simp only [bind, inductionHypothesis]
  | raise record now next inductionHypothesis => simp only [bind, inductionHypothesis]

end Run

/-! ### Hosts -/

/-- What a host answers to an error. -/
inductive Verdict where
  | log
  | drop
  /-- The error ends the run. -/
  | stop
  /-- The run is cancelled. -/
  | cancel
  deriving DecidableEq

/-- A host with a state of its own. -/
structure Host (Outside : Type) where
  /-- Whether the run is to end. -/
  isCancelled : Outside → Bool
  /-- Takes a value, or refuses it, which ends the run. -/
  take : Value → Outside → Option Outside
  /-- Takes an error and judges it. -/
  judge : ErrorRecord → Outside → Verdict × Outside

/-- How a run ended. -/
inductive Ending (Result : Type) where
  | finished (result : Result)
  | stopped (record : ErrorRecord)
  | cancelled
  | exhausted

/-- The end of a run: how it ended, and the states of script and host. -/
structure Ended (State Result Outside : Type) where
  ending : Ending Result
  state : State
  outside : Outside

namespace Run

variable {State Result Outside : Type}

/-- Lets a host answer the requests of a run. -/
def serve (host : Host Outside) : Run State Result → Outside → Ended State Result Outside
  | done result now, outside => ⟨.finished result, now, outside⟩
  | exhausted now, outside => ⟨.exhausted, now, outside⟩
  | poll now next, outside =>
    if host.isCancelled outside then ⟨.cancelled, now, outside⟩
    else (next ()).serve host outside
  | emit value now next, outside =>
    match host.take value outside with
    | some outside => (next ()).serve host outside
    | none => ⟨.cancelled, now, outside⟩
  | raise record now next, outside =>
    match host.judge record outside with
    | (.log, outside) => (next .logged).serve host outside
    | (.drop, outside) => (next .dropped).serve host outside
    | (.stop, outside) => ⟨.stopped record, now, outside⟩
    | (.cancel, outside) => ⟨.cancelled, now, outside⟩

/-- Whether a host cancels a run when the run hands something over, and not when it asks. -/
def isCancelledHandingOver (host : Host Outside) : Run State Result → Outside → Bool
  | done _ _, _ => false
  | exhausted _, _ => false
  | poll _ next, outside =>
    if host.isCancelled outside then false else (next ()).isCancelledHandingOver host outside
  | emit value _ next, outside =>
    match host.take value outside with
    | some outside => (next ()).isCancelledHandingOver host outside
    | none => true
  | raise record _ next, outside =>
    match host.judge record outside with
    | (.log, outside) => (next .logged).isCancelledHandingOver host outside
    | (.drop, outside) => (next .dropped).isCancelledHandingOver host outside
    | (.stop, _) => false
    | (.cancel, _) => true

end Run

end SlashScript
