/-
This file shows that an exchange of two parties does what the run does that has the sink for its
host, whatever the capacity of the queue and whichever party is faster. The sink gets the same
calls in the same order, each reply answers the event that was sent last, nobody is left waiting,
and what the parties come to in the end is the invocation. Without capacity the worker is never
ahead of its events.
-/

import SlashScript.Proofs.Channel.Phases
import SlashScript.Proofs.Channel.Termination

namespace SlashScript

open Relation

/-! ### Calls on the way -/

namespace Channel

variable {Outside : Type}

/-- The channel with a place to write down the calls of its sink. -/
def recorded (channel : Channel Outside) : Channel (Outside × List SinkCall) :=
  ⟨channel.sink.recorded, channel.action, channel.invocation, channel.capacity⟩

variable {channel : Channel Outside} {delivery : Delivery (Outside × List SinkCall)}

theorem pushAll_extends (values : List Value) :
    delivery.outside.2 <+: (channel.recorded.pushAll values delivery).outside.2 := by
  induction values generalizing delivery with
  | nil => exact List.prefix_refl _
  | cons value values inductionHypothesis =>
    have pushed : delivery.outside.2 <+:
        (channel.recorded.sink.push channel.invocation value delivery).outside.2 :=
      List.prefix_append _ _
    exact pushed.trans inductionHypothesis

theorem complete_extends {worker : Worker}
    {whole : Ended Workspace Unit (Delivery (Outside × List SinkCall))}
    (completes : channel.recorded.complete worker delivery = some whole) :
    delivery.outside.2 <+: whole.outside.outside.2 := by
  cases worker with
  | running rest =>
    rw [← Option.some.inj completes]
    exact rest.serve_recorded_extends channel.sink channel.action channel.invocation delivery
  | waiting question => cases completes
  | ended ending now =>
    obtain rfl := Option.some.inj completes
    exact List.prefix_refl _

end Channel

namespace Exchange

variable {Outside : Type}

/-- The calls that were made so far are the first of those that will have been made. -/
theorem Phase.calls_extend {channel : Channel Outside}
    {state : Exchange (Outside × List SinkCall)}
    {whole : Ended Workspace Unit (Delivery (Outside × List SinkCall))}
    (phase : state.Phase channel.recorded whole) :
    state.delivery.outside.2 <+: whole.outside.outside.2 := by
  cases phase with
  | free _ _ _ _ completes =>
    exact (Channel.pushAll_extends _).trans (Channel.complete_extends completes)
  | @asking question _ values _ _ _ _ _ _ _ _ completes =>
    rw [← completes]
    exact (Channel.pushAll_extends values).trans
      (question.run.serve_recorded_extends channel.sink channel.action channel.invocation _)
  | answering _ _ _ _ _ _ completes => exact Channel.complete_extends completes
  | answered _ _ _ _ _ _ completes => exact Channel.complete_extends completes
  | closed _ _ _ _ isWhole =>
    subst isWhole
    exact List.prefix_refl _

/-- The events that were sent and not yet served, with their numbers. -/
def undelivered (state : Exchange Outside) : List (Nat × Event) :=
  match state.consumer with
  | .handling number event => (number, event) :: state.queue
  | _ => state.queue

theorem undelivered_of_holds {state : Exchange Outside} {events : List (Nat × Event)}
    (holds : state.consumer.Holds state.queue events) : state.undelivered = events := by
  unfold undelivered
  cases consumer : state.consumer with
  | receiving =>
    rw [consumer] at holds
    exact holds.of_receiving.symm
  | handling number event =>
    rw [consumer] at holds
    exact holds.of_handling.symm
  | replying number reply =>
    rw [consumer] at holds
    cases holds
  | ended cancelled =>
    rw [consumer] at holds
    cases holds

/-- Without capacity a worker that does not wait has no event under way. -/
theorem Phase.undelivered_eq_nil {channel : Channel Outside} {state : Exchange Outside}
    {whole : Ended Workspace Unit (Delivery Outside)} (phase : state.Phase channel whole)
    (noCapacity : channel.capacity = 0) (free : ∀ question, state.worker ≠ .waiting question) :
    state.undelivered = [] := by
  cases phase with
  | free holds outputs handToHand =>
    rw [handToHand noCapacity] at outputs
    rw [undelivered_of_holds holds]
    exact List.map_eq_nil_iff.mp outputs
  | asking worker => exact absurd worker (free _)
  | answering worker => exact absurd worker (free _)
  | answered worker => exact absurd worker (free _)
  | closed _ consumer queue =>
    unfold undelivered
    rw [consumer]
    exact queue

/-- An exchange in which both parties have ended has come to the end of the whole. -/
theorem Phase.of_ended {channel : Channel Outside} {state : Exchange Outside}
    {whole : Ended Workspace Unit (Delivery Outside)} (phase : state.Phase channel whole)
    {ending : Ending Unit} {now : Workspace} {cancelled : Bool}
    (worker : state.worker = .ended ending now) (consumer : state.consumer = .ended cancelled) :
    cancelled = false ∧ whole = ⟨ending, now, state.delivery⟩ := by
  cases phase with
  | free holds => exact absurd consumer (holds.ne_ended cancelled)
  | asking waiting => cases worker.symm.trans waiting
  | answering waiting => cases worker.symm.trans waiting
  | answered waiting => cases worker.symm.trans waiting
  | closed ended left _ _ isWhole =>
    cases worker.symm.trans ended
    cases consumer.symm.trans left
    exact ⟨rfl, isWhole⟩

end Exchange

/-! ### The exchange of an invocation -/

namespace Session

variable {Outside : Type} {sink : Sink Outside} {session : Session Outside}

theorem joined_of_ended (session : Session Outside) {state : Exchange Outside}
    {ending : Ending Unit} {now : Workspace} (worker : state.worker = .ended ending now)
    (consumer : state.consumer = .ended false) :
    session.joined state =
      some (conclude session.engine.next state.delivery ending,
        ⟨session.advanced, now.leave session.workspace, state.delivery.outside⟩) := by
  unfold joined
  rw [worker, consumer]
  cases ending <;> rfl

theorem ended_of_joined {state : Exchange Outside}
    {result : Except Failure Outcome × Session Outside}
    (isJoined : session.joined state = some result) :
    ∃ ending now cancelled, state.worker = .ended ending now ∧
      state.consumer = .ended cancelled := by
  unfold joined at isJoined
  split at isJoined
  · rename_i now worker consumer
    exact ⟨_, now, true, worker, consumer⟩
  · rename_i ending now cancelled _ worker consumer
    exact ⟨ending, now, cancelled, worker, consumer⟩
  · cases isJoined

/-- What holds of an exchange at every moment, when the exchange is to be the invocation. -/
structure Refines (sink : Sink Outside) (request : Request) (session : Session Outside)
    (state : Exchange (Outside × List SinkCall)) : Prop where
  /-- The calls that the sink got are the first calls of the invocation. -/
  calls : state.delivery.outside.2 <+: session.calls sink request
  /-- A reply on its way answers the event that was sent last, and in the way in which that event
  is to be answered. -/
  answers : ∀ number reply, state.slot = some (number, reply) →
    number + 1 = state.sent ∧ ∃ question, state.worker = .waiting question ∧ question.Fits reply
  /-- The consumer does not leave before the worker, nor before it has taken every event. -/
  stays : ∀ cancelled, state.consumer = .ended cancelled →
    (∃ ending now, state.worker = .ended ending now) ∧ state.queue = []
  /-- Until both have ended, one of the parties can do something. -/
  progress : session.recording.joined state = none →
    ∃ after, (session.recording.channel sink.recorded request).Step state after
  /-- They cannot go on for ever. -/
  terminates :
    Acc (fun after before => (session.recording.channel sink.recorded request).Step before after)
      state
  /-- What they come to is the invocation, with all its calls. -/
  joins : ∀ result after, session.recording.joined state = some (result, after) →
    (result, plain after) = session.invoke sink request ∧
      after.outside.2 = session.calls sink request
  /-- Without capacity a worker that does not wait has all its events behind it. -/
  handToHand : session.engine.capacity = 0 → (∀ question, state.worker ≠ .waiting question) →
    state.undelivered = []

/-- Everything that the parties do keeps to the run that has the sink for its host. -/
theorem reached_sound (quiet : sink.Quiet) (live : sink.isCancelled session.outside = false)
    (request : Request) {state : Exchange (Outside × List SinkCall)}
    (reached : ReflTransGen (session.recording.channel sink.recorded request).Step
      (session.recording.opened request) state) :
    state.Sound (session.channel sink request).recorded
      (session.recording.served sink.recorded request) := by
  induction reached with
  | refl => exact Exchange.sound_start live
  | tail _ step inductionHypothesis => exact inductionHypothesis.step quiet.recorded step

/-- The two parties of an invocation do what the invocation does, in whatever order they do it. -/
theorem channel_refines (quiet : sink.Quiet) (live : sink.isCancelled session.outside = false)
    (request : Request) {state : Exchange (Outside × List SinkCall)}
    (reached : ReflTransGen (session.recording.channel sink.recorded request).Step
      (session.recording.opened request) state) :
    session.Refines sink request state := by
  have sound := reached_sound quiet live request reached
  constructor
  · rw [calls_of_live live]
    exact sound.phase.calls_extend
  · intro number reply slot
    obtain ⟨question, worker, _, _, last, fits, _⟩ := sound.phase.of_slot slot
    exact ⟨last, question, worker, fits⟩
  · intro cancelled consumer
    exact sound.phase.of_consumer_ended consumer
  · intro notJoined
    rcases sound.progress with ⟨ending, now, cancelled, worker, consumer⟩ | step
    · obtain ⟨rfl, _⟩ := sound.phase.of_ended worker consumer
      cases notJoined.symm.trans (session.recording.joined_of_ended worker consumer)
    · exact step
  · exact (Channel.step_wellFounded _).apply state
  · intro result after isJoined
    obtain ⟨ending, now, cancelled, worker, consumer⟩ := ended_of_joined isJoined
    obtain ⟨rfl, isWhole⟩ := sound.phase.of_ended worker consumer
    cases isJoined.symm.trans (session.recording.joined_of_ended worker consumer)
    rw [invoke_of_recording live, calls_of_live live, isWhole]
    exact ⟨rfl, rfl⟩
  · exact sound.phase.undelivered_eq_nil

/-- An exchange without capacity, at the moment at which the first value was passed on. -/
theorem channel_refines_interrupted :
    ∃ state, ReflTransGen
        (beginning.recording.channel (Sink.collector true).recorded (interrupted .inquire)).Step
        (beginning.recording.opened (interrupted .inquire)) state ∧
      state.sent = 1 ∧ beginning.Refines (.collector true) (interrupted .inquire) state := by
  have polled :
      (beginning.recording.channel (Sink.collector true).recorded (interrupted .inquire)).Step
        (beginning.recording.opened (interrupted .inquire)) _ := .goOn rfl rfl
  have reached := (ReflTransGen.single polled).tail (.handOver rfl rfl rfl rfl)
  exact ⟨_, reached, rfl, channel_refines (Sink.collector_quiet true) rfl _ reached⟩

end Session

end SlashScript
