/-
This file describes an invocation as two parties that work at the same time. The worker runs the
script and sends what it hands over as events through a queue of limited capacity; the consumer
takes the events in order, serves the sink and sends replies through a slot that holds one of
them. Without capacity an event passes only from hand to hand, and the worker then waits for a
reply to every event. With capacity it waits only for what becomes of an error and runs ahead of
its values.

Either party may be slow, so a state of the exchange has many successors: the steps form a
relation, one case for each thing that a party may do next, the ways in which it finds that the
other is gone included. Events are numbered in the order in which they are sent, and each reply
has the number of the event that it answers. The parties do not look at the numbers.
-/

import SlashScript.Proofs.Calls

namespace SlashScript

/-! ### Messages -/

/-- What a worker sends. -/
inductive Event where
  | output (value : Value)
  | error (record : ErrorRecord)

/-- What a consumer answers. -/
inductive Reply where
  | resume
  | log
  | drop
  | stop

/-- What the worker makes of a reply to an error. A reply that is meant for a value cancels the
run. -/
def Reply.verdict : Reply → Verdict
  | resume => .cancel
  | log => .log
  | drop => .drop
  | stop => .stop

/-- What an error action has the consumer reply to an error. -/
def ErrorAction.reply {Outside : Type} (action : ErrorAction) (sink : Sink Outside)
    (record : ErrorRecord) (outside : Outside) : Reply × Outside :=
  match action with
  | .stop => (.stop, outside)
  | .proceed => (.log, sink.report record outside)
  | .silent => (.log, outside)
  | .ignore => (.drop, outside)
  | .inquire =>
    let (goOn, outside) := sink.inquire record outside
    if goOn then (.log, sink.report record outside) else (.stop, outside)

/-- The reply says what the action makes of the error. -/
theorem ErrorAction.judge_eq_reply {Outside : Type} (action : ErrorAction) (sink : Sink Outside)
    (record : ErrorRecord) (outside : Outside) :
    action.judge sink record outside =
      ((action.reply sink record outside).1.verdict, (action.reply sink record outside).2) := by
  cases action with
  | silent => rfl
  | stop => rfl
  | proceed => rfl
  | ignore => rfl
  | inquire =>
    unfold ErrorAction.judge ErrorAction.reply
    rcases sink.inquire record outside with ⟨goOn, after⟩
    cases goOn <;> rfl

/-! ### The parties -/

/-- An event that the worker has to have answered, with its place in the script. -/
inductive Question where
  | output (value : Value) (now : Workspace) (next : Unit → Run Workspace Unit)
  | error (record : ErrorRecord) (now : Workspace) (next : Keeping → Run Workspace Unit)

/-- The party that runs the script. -/
inductive Worker where
  | running (rest : Run Workspace Unit)
  | waiting (question : Question)
  | ended (ending : Ending Unit) (now : Workspace)

/-- The party that serves the sink. -/
inductive Consumer where
  | receiving
  | handling (number : Nat) (event : Event)
  | replying (number : Nat) (reply : Reply)
  | ended (cancelled : Bool)

namespace Question

/-- The event that is to be answered. -/
def event : Question → Event
  | output value _ _ => .output value
  | error record _ _ => .error record

/-- The request of the script. -/
def run : Question → Run Workspace Unit
  | output value now next => .emit value now next
  | error record now next => .raise record now next

/-- The workspace at the request. -/
def now : Question → Workspace
  | output _ now _ => now
  | error _ now _ => now

/-- How the worker goes on with a reply. -/
def answer : Question → Reply → Worker
  | output _ _ next, .resume => .running (next ())
  | output _ now _, _ => .ended .cancelled now
  | error record now next, reply =>
    match reply.verdict with
    | .log => .running (next .logged)
    | .drop => .running (next .dropped)
    | .stop => .ended (.stopped record) now
    | .cancel => .ended .cancelled now

/-- Whether a reply is of the kind that the event asks for. -/
def Fits : Question → Reply → Prop
  | output _ _ _, reply => reply = .resume
  | error _ _ _, reply => reply ≠ .resume

end Question

/-- The workspace that a run shows next. -/
def Run.shown {State Result : Type} : Run State Result → State
  | done _ now => now
  | exhausted now => now
  | poll now _ => now
  | emit _ now _ => now
  | raise _ now _ => now

/-- The setting of an exchange. -/
structure Channel (Outside : Type) where
  sink : Sink Outside
  action : ErrorAction
  invocation : Nat
  /-- The number of events that the queue holds. -/
  capacity : Nat

/-- A state of an exchange. -/
structure Exchange (Outside : Type) where
  worker : Worker
  consumer : Consumer
  queue : List (Nat × Event)
  slot : Option (Nat × Reply)
  delivery : Delivery Outside
  /-- The number of events that were sent so far. -/
  sent : Nat

namespace Channel

variable {Outside : Type}

/-- The event that the worker sends next, and what it does when it is sent. Without capacity
every event is answered, otherwise only an error is. -/
def offer? (channel : Channel Outside) : Run Workspace Unit → Option (Event × Worker)
  | .emit value now next =>
    some (.output value,
      if channel.capacity = 0 then .waiting (.output value now next) else .running (next ()))
  | .raise record now next => some (.error record, .waiting (.error record now next))
  | .poll _ _ => none
  | .done _ _ => none
  | .exhausted _ => none

/-- The exchange before the first step. -/
def start (run : Run Workspace Unit) (outside : Outside) : Exchange Outside where
  worker := .running run
  consumer := .receiving
  queue := []
  slot := none
  delivery := ⟨outside, 0, 0⟩
  sent := 0

/-! ### Steps -/

/-- What one party does next, or both do together. -/
inductive Step (channel : Channel Outside) (state : Exchange Outside) :
    Exchange Outside → Prop where
  /-- The worker finds that it may go on. -/
  | goOn {now : Workspace} {next : Unit → Run Workspace Unit}
    (worker : state.worker = .running (.poll now next))
    (live : channel.sink.isCancelled state.delivery.outside = false) :
    Step channel state { state with worker := .running (next ()) }
  /-- The worker finds that the invocation is cancelled. -/
  | quit {now : Workspace} {next : Unit → Run Workspace Unit}
    (worker : state.worker = .running (.poll now next))
    (cancelled : channel.sink.isCancelled state.delivery.outside = true) :
    Step channel state { state with worker := .ended .cancelled now }
  | finish {now : Workspace} (worker : state.worker = .running (.done () now)) :
    Step channel state { state with worker := .ended (.finished ()) now }
  | exhaust {now : Workspace} (worker : state.worker = .running (.exhausted now)) :
    Step channel state { state with worker := .ended .exhausted now }
  /-- The worker puts an event into the queue. -/
  | enqueue {rest : Run Workspace Unit} {event : Event} {after : Worker}
    (worker : state.worker = .running rest) (offers : channel.offer? rest = some (event, after))
    (listening : ∀ cancelled, state.consumer ≠ .ended cancelled)
    (room : state.queue.length < channel.capacity) :
    Step channel state { state with
      worker := after, queue := state.queue ++ [(state.sent, event)], sent := state.sent + 1 }
  /-- Without capacity the worker waits until the consumer takes the event from its hands. -/
  | handOver {rest : Run Workspace Unit} {event : Event} {after : Worker}
    (worker : state.worker = .running rest) (offers : channel.offer? rest = some (event, after))
    (consumer : state.consumer = .receiving) (noCapacity : channel.capacity = 0) :
    Step channel state { state with
      worker := after, consumer := .handling state.sent event, sent := state.sent + 1 }
  /-- The worker finds nobody to send to. -/
  | sendFails {rest : Run Workspace Unit} {event : Event} {after : Worker} {cancelled : Bool}
    (worker : state.worker = .running rest) (offers : channel.offer? rest = some (event, after))
    (consumer : state.consumer = .ended cancelled) :
    Step channel state { state with worker := .ended .cancelled rest.shown }
  /-- The worker takes a reply out of the slot. -/
  | take {question : Question} {number : Nat} {reply : Reply}
    (worker : state.worker = .waiting question) (slot : state.slot = some (number, reply)) :
    Step channel state { state with worker := question.answer reply, slot := none }
  /-- The worker finds that no reply will come. -/
  | hangUp {question : Question} {cancelled : Bool}
    (worker : state.worker = .waiting question) (slot : state.slot = none)
    (consumer : state.consumer = .ended cancelled) :
    Step channel state { state with worker := .ended .cancelled question.now }
  /-- The consumer takes an event out of the queue. -/
  | receive {number : Nat} {event : Event} {rest : List (Nat × Event)}
    (consumer : state.consumer = .receiving) (queue : state.queue = (number, event) :: rest) :
    Step channel state { state with consumer := .handling number event, queue := rest }
  /-- The consumer finds that no event will come. -/
  | drained {ending : Ending Unit} {now : Workspace} (consumer : state.consumer = .receiving)
    (queue : state.queue = []) (worker : state.worker = .ended ending now) :
    Step channel state { state with consumer := .ended false }
  /-- The consumer finds that the invocation is cancelled. -/
  | observe {number : Nat} {event : Event} (consumer : state.consumer = .handling number event)
    (cancelled : channel.sink.isCancelled state.delivery.outside = true) :
    Step channel state { state with consumer := .ended true }
  | deliver {number : Nat} {value : Value}
    (consumer : state.consumer = .handling number (.output value))
    (live : channel.sink.isCancelled state.delivery.outside = false) :
    Step channel state { state with
      consumer := if channel.capacity = 0 then .replying number .resume else .receiving
      delivery := channel.sink.push channel.invocation value state.delivery }
  | judge {number : Nat} {record : ErrorRecord}
    (consumer : state.consumer = .handling number (.error record))
    (live : channel.sink.isCancelled state.delivery.outside = false) :
    Step channel state { state with
      consumer := .replying number
        (channel.action.reply channel.sink record state.delivery.outside).1
      delivery := channel.sink.settle channel.action record state.delivery }
  /-- The consumer puts a reply into the slot. -/
  | reply {number : Nat} {reply : Reply} (consumer : state.consumer = .replying number reply)
    (slot : state.slot = none) (listening : ∀ ending now, state.worker ≠ .ended ending now) :
    Step channel state { state with consumer := .receiving, slot := some (number, reply) }
  /-- The consumer finds nobody to reply to. -/
  | replyFails {number : Nat} {reply : Reply} {ending : Ending Unit} {now : Workspace}
    (consumer : state.consumer = .replying number reply)
    (worker : state.worker = .ended ending now) :
    Step channel state { state with consumer := .ended false }

end Channel

/-! ### The exchange of an invocation -/

/-- The number of events that may wait for the sink. -/
def Engine.capacity (engine : Engine) : Nat :=
  min engine.settings.channelDepth EngineSettings.maxChannelDepth

namespace Session

variable {Outside : Type}

/-- The channel that an invocation opens. -/
def channel (sink : Sink Outside) (request : Request) (session : Session Outside) :
    Channel Outside :=
  ⟨sink, request.action, session.engine.next, session.engine.capacity⟩

/-- The exchange of an invocation before its first step. -/
def opened (request : Request) (session : Session Outside) : Exchange Outside :=
  Channel.start (session.run request) session.outside

/-- What an invocation comes to when both parties have ended. If the consumer found it cancelled,
so it is, even if the script came to its end. -/
def joined (session : Session Outside) (state : Exchange Outside) :
    Option (Except Failure Outcome × Session Outside) :=
  match state.worker, state.consumer with
  | .ended (.finished ()) now, .ended true =>
    some (.error .cancelled,
      ⟨session.advanced, now.leave session.workspace, state.delivery.outside⟩)
  | .ended ending now, .ended _ =>
    some (conclude session.engine.next state.delivery ending,
      ⟨session.advanced, now.leave session.workspace, state.delivery.outside⟩)
  | _, _ => none

end Session

end SlashScript
