/-
This file follows an exchange without capacity. Every event then passes from hand to hand and the
worker waits for a reply to it, so the parties take turns: at any time only one of them can do
something, and the sink is called while the worker waits.

Therefore it does not matter when the sink cancels. Whoever is next finds the invocation cancelled,
be it the worker between two statements or the consumer with an event in its hands, and the
exchange comes to what the run comes to that has the sink for its host.
-/

import SlashScript.Proofs.Channel.Outcomes

namespace SlashScript

open Relation

/-! ### Turns -/

namespace Exchange

variable {Outside : Type}

/-- Whose turn it is in an exchange that is to come to the given end. -/
inductive Turn (channel : Channel Outside) (whole : Ended Workspace Unit (Delivery Outside))
    (state : Exchange Outside) : Prop where
  /-- The worker runs, or has ended and has only to be seen so. -/
  | working (consumer : state.consumer = .receiving) (slot : state.slot = none)
    (completes : channel.complete state.worker state.delivery = some whole)
  /-- The consumer has the event in its hands for which the worker waits. -/
  | asked {question : Question} {number : Nat} (worker : state.worker = .waiting question)
    (consumer : state.consumer = .handling number question.event) (slot : state.slot = none)
    (completes : question.run.serve channel.host state.delivery = whole)
  /-- The consumer has the answer in its hands. -/
  | answering {question : Question} {number : Nat} {reply : Reply}
    (worker : state.worker = .waiting question) (consumer : state.consumer = .replying number reply)
    (slot : state.slot = none)
    (completes : channel.complete (question.answer reply) state.delivery = some whole)
  /-- The answer is in the slot. -/
  | answered {question : Question} {number : Nat} {reply : Reply}
    (worker : state.worker = .waiting question) (consumer : state.consumer = .receiving)
    (slot : state.slot = some (number, reply))
    (completes : channel.complete (question.answer reply) state.delivery = some whole)
  /-- The consumer has left because of a cancellation, and the worker waits in vain. -/
  | deserted {question : Question} (worker : state.worker = .waiting question)
    (consumer : state.consumer = .ended true) (slot : state.slot = none)
    (whole : whole = ⟨.cancelled, question.now, state.delivery⟩)
  /-- Both parties have ended. -/
  | closed {ending : Ending Unit} {now : Workspace} {cancelled : Bool}
    (worker : state.worker = .ended ending now) (consumer : state.consumer = .ended cancelled)
    (noticed : cancelled = true → ending = .cancelled)
    (whole : whole = ⟨ending, now, state.delivery⟩)

/-- What holds in every state of an exchange without capacity. -/
structure HandToHand (channel : Channel Outside)
    (whole : Ended Workspace Unit (Delivery Outside)) (state : Exchange Outside) : Prop where
  queue : state.queue = []
  turn : state.Turn channel whole

variable {channel : Channel Outside} {whole : Ended Workspace Unit (Delivery Outside)}
  {state after : Exchange Outside}

namespace Turn

/-- A worker that runs is next. -/
theorem of_running (turn : state.Turn channel whole) {rest : Run Workspace Unit}
    (worker : state.worker = .running rest) :
    state.consumer = .receiving ∧ state.slot = none ∧
      rest.serve channel.host state.delivery = whole := by
  cases turn with
  | working consumer slot completes =>
    rw [worker] at completes
    exact ⟨consumer, slot, Option.some.inj completes⟩
  | asked waiting => cases worker.symm.trans waiting
  | answering waiting => cases worker.symm.trans waiting
  | answered waiting => cases worker.symm.trans waiting
  | deserted waiting => cases worker.symm.trans waiting
  | closed ended => cases worker.symm.trans ended

/-- A consumer that has an event in its hands is next. -/
theorem of_handling (turn : state.Turn channel whole) {number : Nat} {event : Event}
    (consumer : state.consumer = .handling number event) :
    ∃ question, state.worker = .waiting question ∧ event = question.event ∧ state.slot = none ∧
      question.run.serve channel.host state.delivery = whole := by
  cases turn with
  | working receiving => cases consumer.symm.trans receiving
  | asked worker handling slot completes =>
    cases consumer.symm.trans handling
    exact ⟨_, worker, rfl, slot, completes⟩
  | answering _ replying => cases consumer.symm.trans replying
  | answered _ receiving => cases consumer.symm.trans receiving
  | deserted _ ended => cases consumer.symm.trans ended
  | closed _ ended => cases consumer.symm.trans ended

/-- A consumer that has an answer in its hands is next. -/
theorem of_replying (turn : state.Turn channel whole) {number : Nat} {reply : Reply}
    (consumer : state.consumer = .replying number reply) :
    ∃ question, state.worker = .waiting question ∧ state.slot = none ∧
      channel.complete (question.answer reply) state.delivery = some whole := by
  cases turn with
  | working receiving => cases consumer.symm.trans receiving
  | asked _ handling => cases consumer.symm.trans handling
  | answering worker replying slot completes =>
    cases consumer.symm.trans replying
    exact ⟨_, worker, slot, completes⟩
  | answered _ receiving => cases consumer.symm.trans receiving
  | deserted _ ended => cases consumer.symm.trans ended
  | closed _ ended => cases consumer.symm.trans ended

/-- A worker with a reply to take is next. -/
theorem of_slot (turn : state.Turn channel whole) {question : Question} {number : Nat}
    {reply : Reply} (worker : state.worker = .waiting question)
    (slot : state.slot = some (number, reply)) :
    state.consumer = .receiving ∧
      channel.complete (question.answer reply) state.delivery = some whole := by
  cases turn with
  | working _ empty => cases slot.symm.trans empty
  | asked _ _ empty => cases slot.symm.trans empty
  | answering _ _ empty => cases slot.symm.trans empty
  | answered waiting consumer full completes =>
    cases worker.symm.trans waiting
    cases slot.symm.trans full
    exact ⟨consumer, completes⟩
  | deserted _ _ empty => cases slot.symm.trans empty
  | closed ended => cases worker.symm.trans ended

/-- A worker that waits for a consumer that has left finds the invocation cancelled. -/
theorem of_deserted (turn : state.Turn channel whole) {question : Question} {cancelled : Bool}
    (worker : state.worker = .waiting question) (consumer : state.consumer = .ended cancelled) :
    whole = ⟨.cancelled, question.now, state.delivery⟩ := by
  cases turn with
  | working receiving => cases consumer.symm.trans receiving
  | asked _ handling => cases consumer.symm.trans handling
  | answering _ replying => cases consumer.symm.trans replying
  | answered _ receiving => cases consumer.symm.trans receiving
  | deserted waiting _ _ isWhole =>
    cases worker.symm.trans waiting
    exact isWhole
  | closed ended => cases worker.symm.trans ended

/-- A worker that has ended has come to the end of the whole. -/
theorem of_ended (turn : state.Turn channel whole) {ending : Ending Unit} {now : Workspace}
    (worker : state.worker = .ended ending now) : whole = ⟨ending, now, state.delivery⟩ := by
  cases turn with
  | working _ _ completes =>
    rw [worker] at completes
    exact (Option.some.inj completes).symm
  | asked waiting => cases worker.symm.trans waiting
  | answering waiting => cases worker.symm.trans waiting
  | answered waiting => cases worker.symm.trans waiting
  | deserted waiting => cases worker.symm.trans waiting
  | closed ended _ _ isWhole =>
    cases worker.symm.trans ended
    exact isWhole

end Turn

/-- Every step passes the turn on to where the rest comes to the same end. -/
theorem HandToHand.step (handToHand : state.HandToHand channel whole)
    (noCapacity : channel.capacity = 0) (step : channel.Step state after) :
    after.HandToHand channel whole := by
  obtain ⟨queue, turn⟩ := handToHand
  cases step with
  | goOn worker live =>
    obtain ⟨consumer, slot, completes⟩ := turn.of_running worker
    refine ⟨queue, .working consumer slot ?_⟩
    rw [← completes, Channel.serve_poll live]
    rfl
  | quit worker cancelled =>
    obtain ⟨consumer, slot, completes⟩ := turn.of_running worker
    refine ⟨queue, .working consumer slot ?_⟩
    rw [← completes, Run.serve]
    exact congrArg some (if_pos cancelled).symm
  | finish worker =>
    obtain ⟨consumer, slot, completes⟩ := turn.of_running worker
    exact ⟨queue, .working consumer slot (congrArg some completes)⟩
  | exhaust worker =>
    obtain ⟨consumer, slot, completes⟩ := turn.of_running worker
    exact ⟨queue, .working consumer slot (congrArg some completes)⟩
  | enqueue _ _ _ room =>
    rw [noCapacity] at room
    cases room
  | handOver worker offers _ _ =>
    obtain ⟨_, slot, completes⟩ := turn.of_running worker
    rcases Channel.offer?_eq_some offers with ⟨_, _, rfl, rfl, rfl⟩ | ⟨_, _, _, capacity, _⟩
    · exact ⟨queue, .asked rfl rfl slot completes⟩
    · exact absurd noCapacity capacity
  | sendFails worker _ ended =>
    obtain ⟨consumer, _, _⟩ := turn.of_running worker
    cases consumer.symm.trans ended
  | take worker slot =>
    obtain ⟨consumer, completes⟩ := turn.of_slot worker slot
    exact ⟨queue, .working consumer rfl completes⟩
  | hangUp worker _ consumer =>
    exact ⟨queue, .closed rfl consumer (fun _ => rfl) (turn.of_deserted worker consumer)⟩
  | receive _ full => cases queue.symm.trans full
  | drained _ _ worker =>
    exact ⟨queue, .closed worker rfl (absurd · Bool.false_ne_true) (turn.of_ended worker)⟩
  | observe consumer cancelled =>
    obtain ⟨question, worker, _, slot, completes⟩ := turn.of_handling consumer
    refine ⟨queue, .deserted worker rfl slot ?_⟩
    rw [← completes]
    cases question with
    | output value now next => exact Run.serve_of_cancelled cancelled _ _ _
    | error record now next => exact Run.serve_of_cancelled cancelled _ _ _
  | deliver consumer live =>
    obtain ⟨question, worker, isAsked, slot, completes⟩ := turn.of_handling consumer
    cases question with
    | error record now next => cases isAsked
    | output value now next =>
      cases isAsked
      refine ⟨queue, .answering worker (if_pos noCapacity) slot ?_⟩
      rw [← completes]
      exact Channel.complete_answer_output live _ now next
  | judge consumer live =>
    obtain ⟨question, worker, isAsked, slot, completes⟩ := turn.of_handling consumer
    cases question with
    | output value now next => cases isAsked
    | error record now next =>
      cases isAsked
      refine ⟨queue, .answering worker rfl slot ?_⟩
      rw [← completes]
      exact Channel.complete_answer_error live _ now next
  | reply consumer _ _ =>
    obtain ⟨question, worker, _, completes⟩ := turn.of_replying consumer
    exact ⟨queue, .answered worker rfl rfl completes⟩
  | replyFails consumer worker =>
    obtain ⟨question, waiting, _⟩ := turn.of_replying consumer
    cases worker.symm.trans waiting

/-- Until both parties have ended, one of them can do something. -/
theorem Turn.progress (turn : state.Turn channel whole) (noCapacity : channel.capacity = 0)
    (queue : state.queue = []) :
    (∃ ending now cancelled, state.worker = .ended ending now ∧
        state.consumer = .ended cancelled) ∨ ∃ after, channel.Step state after := by
  cases turn with
  | working consumer slot completes =>
    right
    rcases worker : state.worker with rest | question | ⟨ending, now⟩
    · cases rest with
      | done result now => exact ⟨_, .finish worker⟩
      | exhausted now => exact ⟨_, .exhaust worker⟩
      | poll now next =>
        cases live : channel.sink.isCancelled state.delivery.outside with
        | true => exact ⟨_, .quit worker live⟩
        | false => exact ⟨_, .goOn worker live⟩
      | emit value now next => exact ⟨_, .handOver worker rfl consumer noCapacity⟩
      | raise record now next => exact ⟨_, .handOver worker rfl consumer noCapacity⟩
    · rw [worker] at completes
      cases completes
    · exact ⟨_, .drained consumer queue worker⟩
  | @asked question number worker consumer slot completes =>
    right
    cases live : channel.sink.isCancelled state.delivery.outside with
    | true => exact ⟨_, .observe consumer live⟩
    | false =>
      cases question with
      | output value now next => exact ⟨_, .deliver consumer live⟩
      | error record now next => exact ⟨_, .judge consumer live⟩
  | answering worker consumer slot completes =>
    refine .inr ⟨_, .reply consumer slot fun ending now ended => ?_⟩
    cases worker.symm.trans ended
  | answered worker consumer slot completes => exact .inr ⟨_, .take worker slot⟩
  | deserted worker consumer slot _ => exact .inr ⟨_, .hangUp worker slot consumer⟩
  | closed worker consumer _ _ => exact .inl ⟨_, _, _, worker, consumer⟩

end Exchange

/-! ### Invocations without capacity -/

namespace Session

variable {Outside : Type} {sink : Sink Outside} {request : Request} {session : Session Outside}

/-- Without capacity the parties keep to the run that has the sink for its host, whether or not the
sink cancels. -/
theorem handToHand_of_reached (noCapacity : session.engine.capacity = 0)
    {state : Exchange (Outside × List SinkCall)}
    (reached : ReflTransGen (session.recording.channel sink.recorded request).Step
      (session.recording.opened request) state) :
    state.HandToHand (session.recording.channel sink.recorded request)
      (session.recording.served sink.recorded request) := by
  induction reached with
  | refl => exact ⟨rfl, .working rfl rfl rfl⟩
  | tail _ step inductionHypothesis => exact inductionHypothesis.step noCapacity step

/-- When both parties have ended, they have come to the end of the run. -/
theorem joined_of_handToHand {state : Exchange (Outside × List SinkCall)}
    (handToHand : state.HandToHand (session.recording.channel sink.recorded request)
      (session.recording.served sink.recorded request))
    {ending : Ending Unit} {now : Workspace} {cancelled : Bool}
    (worker : state.worker = .ended ending now) (consumer : state.consumer = .ended cancelled) :
    session.recording.served sink.recorded request = ⟨ending, now, state.delivery⟩ ∧
      session.recording.joined state =
        some (conclude session.engine.next state.delivery ending,
          ⟨session.advanced, now.leave session.workspace, state.delivery.outside⟩) := by
  refine ⟨handToHand.turn.of_ended worker, ?_⟩
  cases handToHand.turn with
  | working receiving => cases consumer.symm.trans receiving
  | asked waiting => cases worker.symm.trans waiting
  | answering waiting => cases worker.symm.trans waiting
  | answered waiting => cases worker.symm.trans waiting
  | deserted waiting => cases worker.symm.trans waiting
  | closed ended gone noticed _ =>
    cases worker.symm.trans ended
    cases consumer.symm.trans gone
    cases cancelled with
    | false => exact session.recording.joined_of_ended worker consumer
    | true =>
      rw [noticed rfl] at worker ⊢
      unfold joined
      rw [worker, consumer]
      rfl

/-- Without capacity an invocation comes to one thing only, which is what it comes to if the sink
answers at once. -/
theorem Yields.eq_upshot (noCapacity : session.engine.capacity = 0) {upshot : Upshot Outside}
    (yields : session.Yields sink request upshot) : upshot = session.upshot sink request := by
  cases yields with
  | atOnce => rfl
  | exchanged live reached worker joined =>
    obtain ⟨_, _, _, _, consumer⟩ := ended_of_joined joined
    obtain ⟨whole, ends⟩ :=
      joined_of_handToHand (handToHand_of_reached noCapacity reached) worker consumer
    cases joined.symm.trans ends
    rw [upshot_of_live live, whole]
    rfl

/-- Without capacity the parties are never left waiting for each other, and they come to an
end. -/
theorem exists_joined (noCapacity : session.engine.capacity = 0)
    {state : Exchange (Outside × List SinkCall)}
    (reached : ReflTransGen (session.recording.channel sink.recorded request).Step
      (session.recording.opened request) state) :
    ∃ last result, ReflTransGen (session.recording.channel sink.recorded request).Step state last ∧
      session.recording.joined last = some result := by
  have terminates := (Channel.step_wellFounded
    (session.recording.channel sink.recorded request)).apply state
  induction terminates with
  | intro state _ inductionHypothesis =>
    have handToHand := handToHand_of_reached noCapacity reached
    rcases handToHand.turn.progress noCapacity handToHand.queue with
      ⟨ending, now, cancelled, worker, consumer⟩ | ⟨after, step⟩
    · exact ⟨state, _, .refl, (joined_of_handToHand handToHand worker consumer).2⟩
    · obtain ⟨last, result, onward, joined⟩ := inductionHypothesis after step (reached.tail step)
      exact ⟨last, result, .head step onward, joined⟩

end Session

end SlashScript
