/-
This file gives the invariant of an exchange and shows that every step preserves it. In every
state that the parties reach, what is still to be done comes to the same end as the run that has
the sink for its host. What is still to be done is read off the state: values that were sent come
first, then the worker goes on from its place, and if it waits, the event that it waits for is the
last one under way.

An exchange is in one of five phases, told apart by what the worker waits for and by how far the
answer has come. The phases leave no room for a reply to another event, nor for a party that
leaves while the other still needs it, and in each of them one of the parties can do something
until both have ended.
-/

import SlashScript.Proofs.Channel.Completion

namespace SlashScript

/-! ### The phases of an exchange -/

namespace Exchange

variable {Outside : Type}

/-- Where an exchange is that is to come to the given end. -/
inductive Phase (channel : Channel Outside)
    (whole : Ended Workspace Unit (Delivery Outside)) (state : Exchange Outside) : Prop where
  /-- The worker does not wait, and only values are under way. -/
  | free {values : List Value} {events : List (Nat × Event)}
    (holds : state.consumer.Holds state.queue events)
    (outputs : events.map Prod.snd = values.map Event.output)
    (handToHand : channel.capacity = 0 → values = []) (slot : state.slot = none)
    (completes : channel.complete state.worker (channel.pushAll values state.delivery) =
      some whole)
  /-- The worker waits for an answer to the event that is last under way, behind values. -/
  | asking {question : Question} {number : Nat} {values : List Value}
    {earlier : List (Nat × Event)} (worker : state.worker = .waiting question)
    (holds : state.consumer.Holds state.queue (earlier ++ [(number, question.event)]))
    (outputs : earlier.map Prod.snd = values.map Event.output)
    (handToHand : channel.capacity = 0 → values = []) (slot : state.slot = none)
    (last : number + 1 = state.sent) (asks : channel.Asks question)
    (completes : question.run.serve channel.host (channel.pushAll values state.delivery) = whole)
  /-- The consumer has the answer in its hands. -/
  | answering {question : Question} {number : Nat} {reply : Reply}
    (worker : state.worker = .waiting question) (consumer : state.consumer = .replying number reply)
    (queue : state.queue = []) (slot : state.slot = none) (last : number + 1 = state.sent)
    (fits : question.Fits reply)
    (completes : channel.complete (question.answer reply) state.delivery = some whole)
  /-- The answer is in the slot. -/
  | answered {question : Question} {number : Nat} {reply : Reply}
    (worker : state.worker = .waiting question) (consumer : state.consumer = .receiving)
    (queue : state.queue = []) (slot : state.slot = some (number, reply))
    (last : number + 1 = state.sent) (fits : question.Fits reply)
    (completes : channel.complete (question.answer reply) state.delivery = some whole)
  /-- Both parties have ended. -/
  | closed {ending : Ending Unit} {now : Workspace} (worker : state.worker = .ended ending now)
    (consumer : state.consumer = .ended false) (queue : state.queue = [])
    (slot : state.slot = none) (whole : whole = ⟨ending, now, state.delivery⟩)

variable {channel : Channel Outside} {whole : Ended Workspace Unit (Delivery Outside)}
  {state : Exchange Outside}

namespace Phase

/-- A worker that runs does not wait. -/
theorem of_running (phase : state.Phase channel whole) {rest : Run Workspace Unit}
    (worker : state.worker = .running rest) :
    ∃ values events, state.consumer.Holds state.queue events ∧
      events.map Prod.snd = values.map Event.output ∧ (channel.capacity = 0 → values = []) ∧
      state.slot = none ∧
      rest.serve channel.host (channel.pushAll values state.delivery) = whole := by
  cases phase with
  | free holds outputs handToHand slot completes =>
    rw [worker] at completes
    exact ⟨_, _, holds, outputs, handToHand, slot, Option.some.inj completes⟩
  | asking waiting => cases worker.symm.trans waiting
  | answering waiting => cases worker.symm.trans waiting
  | answered waiting => cases worker.symm.trans waiting
  | closed ended => cases worker.symm.trans ended

/-- The consumer does not leave before the worker, nor before an event. -/
theorem of_consumer_ended (phase : state.Phase channel whole) {cancelled : Bool}
    (consumer : state.consumer = .ended cancelled) :
    (∃ ending now, state.worker = .ended ending now) ∧ state.queue = [] := by
  cases phase with
  | free holds => exact absurd consumer (holds.ne_ended cancelled)
  | asking _ holds => exact absurd consumer (holds.ne_ended cancelled)
  | answering _ replying => cases consumer.symm.trans replying
  | answered _ receiving => cases consumer.symm.trans receiving
  | closed worker _ queue => exact ⟨⟨_, _, worker⟩, queue⟩

/-- A reply in the slot answers the last event. -/
theorem of_slot (phase : state.Phase channel whole) {number : Nat} {reply : Reply}
    (slot : state.slot = some (number, reply)) :
    ∃ question, state.worker = .waiting question ∧ state.consumer = .receiving ∧
      state.queue = [] ∧ number + 1 = state.sent ∧ question.Fits reply ∧
      channel.complete (question.answer reply) state.delivery = some whole := by
  cases phase with
  | free _ _ _ empty => cases slot.symm.trans empty
  | asking _ _ _ _ empty => cases slot.symm.trans empty
  | answering _ _ _ empty => cases slot.symm.trans empty
  | answered worker consumer queue full last fits completes =>
    cases slot.symm.trans full
    exact ⟨_, worker, consumer, queue, last, fits, completes⟩
  | closed _ _ _ empty => cases slot.symm.trans empty

/-- The worker waits for the answer that the consumer has in its hands. -/
theorem of_replying (phase : state.Phase channel whole) {number : Nat} {reply : Reply}
    (consumer : state.consumer = .replying number reply) :
    ∃ question, state.worker = .waiting question ∧ state.queue = [] ∧ number + 1 = state.sent ∧
      question.Fits reply ∧
      channel.complete (question.answer reply) state.delivery = some whole := by
  cases phase with
  | free holds =>
    rw [consumer] at holds
    cases holds
  | asking _ holds =>
    rw [consumer] at holds
    cases holds
  | answering worker replying queue _ last fits completes =>
    cases consumer.symm.trans replying
    exact ⟨_, worker, queue, last, fits, completes⟩
  | answered _ receiving => cases consumer.symm.trans receiving
  | closed _ ended => cases consumer.symm.trans ended

/-- The consumer has either a value in its hands that nobody waits for, and nothing is lost when
it hands the value over and takes the next event, or the event that the worker waits for, and
then no other is under way. -/
theorem of_handling (phase : state.Phase channel whole) {number : Nat} {event : Event}
    (consumer : state.consumer = .handling number event) :
    (∃ value, event = .output value ∧ channel.capacity ≠ 0 ∧
        ({ state with
            consumer := .receiving
            delivery := channel.sink.push channel.invocation value state.delivery } :
          Exchange Outside).Phase channel whole) ∨
      ∃ question, event = question.event ∧ state.worker = .waiting question ∧
        state.queue = [] ∧ state.slot = none ∧ number + 1 = state.sent ∧ channel.Asks question ∧
        question.run.serve channel.host state.delivery = whole := by
  cases phase with
  | free holds outputs handToHand slot completes =>
    rw [consumer] at holds
    obtain ⟨first, rest, rfl, isFirst, remaining⟩ := holds.first_of_values outputs
    have capacity : channel.capacity ≠ 0 := fun noCapacity => nomatch handToHand noCapacity
    exact .inl ⟨first, isFirst, capacity,
      .free .receiving remaining (fun noCapacity => absurd noCapacity capacity) slot completes⟩
  | @asking question _ _ _ worker holds outputs handToHand slot last asks completes =>
    rw [consumer] at holds
    rcases holds.last_or_first outputs with
      ⟨rfl, rfl, isAsked, queue⟩ | ⟨first, rest, between, rfl, isFirst, queue, remaining⟩
    · exact .inr ⟨question, isAsked, worker, queue, slot, last, asks, completes⟩
    · have capacity : channel.capacity ≠ 0 := fun noCapacity => nomatch handToHand noCapacity
      refine .inl ⟨first, isFirst, capacity, .asking worker ?_ remaining
        (fun noCapacity => absurd noCapacity capacity) slot last asks completes⟩
      rw [← queue]
      exact .receiving
  | answering _ replying => cases consumer.symm.trans replying
  | answered _ receiving => cases consumer.symm.trans receiving
  | closed _ ended => cases consumer.symm.trans ended

/-! ### What a step does to the phase -/

/-- After the worker has sent an event, the event is the last one under way. -/
theorem send (quiet : channel.sink.Quiet)
    (live : channel.sink.isCancelled state.delivery.outside = false) {rest : Run Workspace Unit}
    {event : Event} {worker : Worker} (offers : channel.offer? rest = some (event, worker))
    {values : List Value} {events : List (Nat × Event)}
    (outputs : events.map Prod.snd = values.map Event.output)
    (handToHand : channel.capacity = 0 → values = [])
    (completes : rest.serve channel.host (channel.pushAll values state.delivery) = whole)
    {consumer : Consumer} {queue : List (Nat × Event)}
    (holds : consumer.Holds queue (events ++ [(state.sent, event)])) :
    (⟨worker, consumer, queue, none, state.delivery, state.sent + 1⟩ :
      Exchange Outside).Phase channel whole := by
  rcases Channel.offer?_eq_some offers with
    ⟨question, asks, rfl, rfl, rfl⟩ | ⟨value, now, next, capacity, rfl, rfl, rfl⟩
  · exact .asking rfl holds outputs handToHand rfl rfl asks completes
  -- A value that nobody waits for joins the values under way, and the run hands it over last.
  · have outputsAfter : (events ++ [(state.sent, Event.output value)]).map Prod.snd =
        (values ++ [value]).map Event.output := by
      rw [List.map_append, List.map_append, outputs]
      rfl
    refine .free holds outputsAfter (fun noCapacity => absurd noCapacity capacity) rfl ?_
    rw [Channel.pushAll_append, ← completes,
      Channel.serve_emit (Channel.live_pushAll quiet values live)]
    rfl

/-- The worker takes the answer and goes on from there. -/
theorem take (phase : state.Phase channel whole) {question : Question} {number : Nat}
    {reply : Reply} (worker : state.worker = .waiting question)
    (slot : state.slot = some (number, reply)) :
    ({ state with worker := question.answer reply, slot := none } :
      Exchange Outside).Phase channel whole := by
  obtain ⟨asked, waiting, consumer, queue, _, _, completes⟩ := phase.of_slot slot
  cases worker.symm.trans waiting
  have nothing : ([] : List (Nat × Event)).map Prod.snd = ([] : List Value).map Event.output := rfl
  refine .free ?_ nothing (fun _ => rfl) rfl completes
  show state.consumer.Holds state.queue []
  rw [consumer, queue]
  exact .receiving

/-- The consumer takes an event into its hands, which stays under way. -/
theorem receive (phase : state.Phase channel whole) {number : Nat} {event : Event}
    {rest : List (Nat × Event)} (consumer : state.consumer = .receiving)
    (queue : state.queue = (number, event) :: rest) :
    ({ state with consumer := .handling number event, queue := rest } :
      Exchange Outside).Phase channel whole := by
  have moved : ∀ {events}, state.consumer.Holds state.queue events →
      (Consumer.handling number event).Holds rest events := by
    intro events holds
    rw [consumer, queue] at holds
    rw [holds.of_receiving]
    exact .handling number event
  cases phase with
  | free holds outputs handToHand slot completes =>
    exact .free (moved holds) outputs handToHand slot completes
  | asking worker holds outputs handToHand slot last asks completes =>
    exact .asking worker (moved holds) outputs handToHand slot last asks completes
  | answering _ replying => cases consumer.symm.trans replying
  | answered _ _ empty => cases queue.symm.trans empty
  | closed _ ended => cases consumer.symm.trans ended

/-- The consumer leaves when nothing is under way and nothing will come. -/
theorem drained (phase : state.Phase channel whole) {ending : Ending Unit} {now : Workspace}
    (consumer : state.consumer = .receiving) (queue : state.queue = [])
    (worker : state.worker = .ended ending now) :
    ({ state with consumer := .ended false } : Exchange Outside).Phase channel whole := by
  cases phase with
  | free holds outputs handToHand slot completes =>
    rw [consumer, queue] at holds
    rw [holds.of_receiving] at outputs
    rw [List.map_eq_nil_iff.mp outputs.symm, worker] at completes
    exact .closed worker rfl queue slot (Option.some.inj completes).symm
  | asking waiting => cases worker.symm.trans waiting
  | answering waiting => cases worker.symm.trans waiting
  | answered waiting => cases worker.symm.trans waiting
  | closed _ ended => cases consumer.symm.trans ended

/-- The consumer hands a value over. Without capacity the worker waits for it. -/
theorem deliver (live : channel.sink.isCancelled state.delivery.outside = false)
    (phase : state.Phase channel whole) {number : Nat} {value : Value}
    (consumer : state.consumer = .handling number (.output value)) :
    ({ state with
        consumer := if channel.capacity = 0 then .replying number .resume else .receiving
        delivery := channel.sink.push channel.invocation value state.delivery } :
      Exchange Outside).Phase channel whole := by
  rcases phase.of_handling consumer with
    ⟨first, isFirst, capacity, passed⟩ |
      ⟨question, isAsked, worker, queue, slot, last, asks, completes⟩
  · cases isFirst
    rw [if_neg capacity]
    exact passed
  · cases question with
    | error record now next => cases isAsked
    | output asked now next =>
      cases isAsked
      have noCapacity : channel.capacity = 0 := asks
      rw [if_pos noCapacity]
      refine .answering worker rfl queue slot last rfl ?_
      rw [← completes]
      exact Channel.complete_answer_output live value now next

/-- The consumer judges an error, for which the worker waits. -/
theorem judge (live : channel.sink.isCancelled state.delivery.outside = false)
    (phase : state.Phase channel whole) {number : Nat} {record : ErrorRecord}
    (consumer : state.consumer = .handling number (.error record)) :
    ({ state with
        consumer := .replying number
          (channel.action.reply channel.sink record state.delivery.outside).1
        delivery := channel.sink.settle channel.action record state.delivery } :
      Exchange Outside).Phase channel whole := by
  rcases phase.of_handling consumer with
    ⟨first, isFirst, _⟩ | ⟨question, isAsked, worker, queue, slot, last, _, completes⟩
  · cases isFirst
  · cases question with
    | output value now next => cases isAsked
    | error asked now next =>
      cases isAsked
      refine .answering worker rfl queue slot last (ErrorAction.reply_ne_resume _ _ _ _) ?_
      rw [← completes]
      exact Channel.complete_answer_error live record now next

/-- The consumer puts the answer into the slot. -/
theorem reply (phase : state.Phase channel whole) {number : Nat} {reply : Reply}
    (consumer : state.consumer = .replying number reply) :
    ({ state with consumer := .receiving, slot := some (number, reply) } :
      Exchange Outside).Phase channel whole := by
  obtain ⟨question, worker, queue, last, fits, completes⟩ := phase.of_replying consumer
  exact .answered worker rfl queue rfl last fits completes

end Phase

/-! ### The invariant -/

/-- What holds in every state that the parties reach. -/
structure Sound (channel : Channel Outside)
    (whole : Ended Workspace Unit (Delivery Outside)) (state : Exchange Outside) : Prop where
  live : channel.sink.isCancelled state.delivery.outside = false
  room : state.queue.length ≤ channel.capacity
  phase : state.Phase channel whole

theorem sound_start {run : Run Workspace Unit} {outside : Outside}
    (live : channel.sink.isCancelled outside = false) :
    (Channel.start run outside).Sound channel (run.serve channel.host ⟨outside, 0, 0⟩) where
  live := live
  room := Nat.zero_le _
  phase := by
    have nothing : ([] : List (Nat × Event)).map Prod.snd = ([] : List Value).map Event.output :=
      rfl
    exact .free .receiving nothing (fun _ => rfl) rfl rfl

/-- Every step leads to where the rest comes to the same end. -/
theorem Sound.step (quiet : channel.sink.Quiet) (sound : state.Sound channel whole)
    {after : Exchange Outside} (step : channel.Step state after) : after.Sound channel whole := by
  obtain ⟨live, room, phase⟩ := sound
  cases step with
  | goOn worker _ =>
    obtain ⟨values, events, holds, outputs, handToHand, slot, completes⟩ :=
      phase.of_running worker
    refine ⟨live, room, .free holds outputs handToHand slot ?_⟩
    rw [← completes, Channel.serve_poll (Channel.live_pushAll quiet values live)]
    rfl
  | quit _ cancelled => cases live.symm.trans cancelled
  | finish worker =>
    obtain ⟨values, events, holds, outputs, handToHand, slot, completes⟩ :=
      phase.of_running worker
    exact ⟨live, room, .free holds outputs handToHand slot (congrArg some completes)⟩
  | exhaust worker =>
    obtain ⟨values, events, holds, outputs, handToHand, slot, completes⟩ :=
      phase.of_running worker
    exact ⟨live, room, .free holds outputs handToHand slot (congrArg some completes)⟩
  | enqueue worker offers _ space =>
    obtain ⟨values, events, holds, outputs, handToHand, slot, completes⟩ :=
      phase.of_running worker
    refine ⟨live, ?_, ?_⟩
    · rw [List.length_append]
      exact space
    · rw [slot]
      exact Phase.send quiet live offers outputs handToHand completes (holds.append _)
  | handOver worker offers consumer noCapacity =>
    obtain ⟨values, events, holds, outputs, handToHand, slot, completes⟩ :=
      phase.of_running worker
    -- Without capacity the queue is empty, so the event in the consumer's hands is the only one.
    have queue : state.queue = [] := List.eq_nil_of_length_eq_zero (by omega)
    rw [consumer, queue] at holds
    rw [holds.of_receiving] at outputs
    refine ⟨live, room, ?_⟩
    rw [slot, queue]
    exact Phase.send quiet live offers outputs handToHand completes (.handling _ _)
  | sendFails worker _ consumer =>
    obtain ⟨⟨ending, now, ended⟩, _⟩ := phase.of_consumer_ended consumer
    cases worker.symm.trans ended
  | take worker slot => exact ⟨live, room, phase.take worker slot⟩
  | hangUp worker _ consumer =>
    obtain ⟨⟨ending, now, ended⟩, _⟩ := phase.of_consumer_ended consumer
    cases worker.symm.trans ended
  | receive consumer queue =>
    refine ⟨live, ?_, phase.receive consumer queue⟩
    rw [queue] at room
    exact Nat.le_of_succ_le room
  | drained consumer queue worker => exact ⟨live, room, phase.drained consumer queue worker⟩
  | observe _ cancelled => cases live.symm.trans cancelled
  | deliver consumer _ => exact ⟨quiet.push live _ _, room, phase.deliver live consumer⟩
  | judge consumer _ => exact ⟨quiet.settle live _ _, room, phase.judge live consumer⟩
  | reply consumer _ _ => exact ⟨live, room, phase.reply consumer⟩
  | replyFails consumer worker =>
    obtain ⟨question, waiting, _⟩ := phase.of_replying consumer
    cases worker.symm.trans waiting

/-! ### Progress -/

/-- A consumer that serves its events can go on, unless it waits for the next event. -/
theorem Sound.consumer_step (sound : state.Sound channel whole) {events : List (Nat × Event)}
    (holds : state.consumer.Holds state.queue events) :
    (state.consumer = .receiving ∧ state.queue = []) ∨ ∃ after, channel.Step state after := by
  rcases consumer : state.consumer with _ | ⟨number, event⟩ | ⟨number, reply⟩ | ⟨cancelled⟩
  · rcases queue : state.queue with _ | ⟨⟨number, event⟩, rest⟩
    · exact .inl ⟨rfl, rfl⟩
    · exact .inr ⟨_, .receive consumer queue⟩
  · cases event with
    | output value => exact .inr ⟨_, .deliver consumer sound.live⟩
    | error record => exact .inr ⟨_, .judge consumer sound.live⟩
  · rw [consumer] at holds
    cases holds
  · rw [consumer] at holds
    cases holds

/-- A worker that has an event to send can send it when nothing is under way. -/
theorem send_step {rest : Run Workspace Unit} {event : Event} {next : Worker}
    (worker : state.worker = .running rest) (offers : channel.offer? rest = some (event, next))
    (consumer : state.consumer = .receiving) (queue : state.queue = []) :
    ∃ after, channel.Step state after := by
  by_cases noCapacity : channel.capacity = 0
  · exact ⟨_, .handOver worker offers consumer noCapacity⟩
  · have listening : ∀ cancelled, state.consumer ≠ .ended cancelled := by
      intro cancelled ended
      cases consumer.symm.trans ended
    refine ⟨_, .enqueue worker offers listening ?_⟩
    rw [queue]
    exact Nat.pos_of_ne_zero noCapacity

/-- One of the parties can do something until both have ended. -/
theorem Sound.progress (sound : state.Sound channel whole) :
    (∃ ending now cancelled, state.worker = .ended ending now ∧
        state.consumer = .ended cancelled) ∨
      ∃ after, channel.Step state after := by
  cases sound.phase with
  | free holds _ _ _ completes =>
    rcases sound.consumer_step holds with ⟨consumer, queue⟩ | step
    · right
      rcases worker : state.worker with rest | question | ⟨ending, now⟩
      · cases rest with
        | done result now => exact ⟨_, .finish worker⟩
        | exhausted now => exact ⟨_, .exhaust worker⟩
        | poll now next => exact ⟨_, .goOn worker sound.live⟩
        | emit value now next => exact send_step worker rfl consumer queue
        | raise record now next => exact send_step worker rfl consumer queue
      · rw [worker] at completes
        cases completes
      · exact ⟨_, .drained consumer queue worker⟩
    · exact .inr step
  | asking _ holds =>
    rcases sound.consumer_step holds with ⟨consumer, queue⟩ | step
    · rw [consumer, queue] at holds
      cases List.append_ne_nil_of_right_ne_nil _ (List.cons_ne_nil _ _) holds.of_receiving
    · exact .inr step
  | answering worker consumer _ slot =>
    refine .inr ⟨_, .reply consumer slot ?_⟩
    intro ending now ended
    cases worker.symm.trans ended
  | answered worker _ _ slot => exact .inr ⟨_, .take worker slot⟩
  | closed worker consumer => exact .inl ⟨_, _, _, worker, consumer⟩

end Exchange

end SlashScript
