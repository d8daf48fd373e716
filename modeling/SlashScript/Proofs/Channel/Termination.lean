/-
This file shows that the parties of an exchange come to an end, whatever they do and in whatever
state they are. It is a matter of counting: each step uses up a request of the script, an event in
the queue, or a part of the way that an event and its answer have to go. The way of an event is
worth less than the request that it was sent for.
-/

import SlashScript.Proofs.Channel.Completion

namespace SlashScript

/-! ### What a step uses up -/

/-- The length of the longest way through a run. -/
def Run.span {State Result : Type} : Run State Result → Nat
  | done _ _ => 1
  | exhausted _ => 1
  | poll _ next => (next ()).span + 1
  | emit _ _ next => (next ()).span + 1
  | raise _ _ next => max (next .logged).span (next .dropped).span + 1

theorem Run.span_pos {State Result : Type} (run : Run State Result) : 0 < run.span := by
  cases run <;> exact Nat.succ_pos _

/-- The length of the longest way after an answer. -/
def Question.span : Question → Nat
  | output _ _ next => (next ()).span
  | error _ _ next => max (next .logged).span (next .dropped).span

/-- What is left for the worker to do. Each request counts for the way that an event and its
answer go besides. -/
def Worker.remaining : Worker → Nat
  | running rest => 8 * rest.span
  | waiting question => 8 * question.span + 1
  | ended _ _ => 0

/-- What is left for the consumer to do with the event in its hands. -/
def Consumer.remaining : Consumer → Nat
  | receiving => 1
  | handling _ _ => 4
  | replying _ _ => 3
  | ended _ => 0

/-- What is left for both parties to do. -/
def Exchange.remaining {Outside : Type} (state : Exchange Outside) : Nat :=
  state.worker.remaining + state.consumer.remaining + 4 * state.queue.length +
    state.slot.toList.length

theorem Question.answer_remaining (question : Question) (reply : Reply) :
    (question.answer reply).remaining < (Worker.waiting question).remaining := by
  cases question with
  | output value now next =>
    cases reply with
    | resume => exact Nat.lt_succ_self _
    | log => exact Nat.succ_pos _
    | drop => exact Nat.succ_pos _
    | stop => exact Nat.succ_pos _
  | error record now next =>
    have logged : (next .logged).span ≤ max (next .logged).span (next .dropped).span :=
      Nat.le_max_left _ _
    have dropped : (next .dropped).span ≤ max (next .logged).span (next .dropped).span :=
      Nat.le_max_right _ _
    cases reply with
    | resume => exact Nat.succ_pos _
    | log => exact Nat.lt_succ_of_le (Nat.mul_le_mul_left 8 logged)
    | drop => exact Nat.lt_succ_of_le (Nat.mul_le_mul_left 8 dropped)
    | stop => exact Nat.succ_pos _

namespace Channel

variable {Outside : Type} {channel : Channel Outside}

/-- A request that is sent leaves room for the way of the event. -/
theorem offer?_remaining {rest : Run Workspace Unit} {event : Event} {after : Worker}
    (offers : channel.offer? rest = some (event, after)) :
    after.remaining + 5 < (Worker.running rest).remaining := by
  rcases offer?_eq_some offers with
    ⟨question, _, rfl, _, rfl⟩ | ⟨value, now, next, _, rfl, _, rfl⟩
  · have asked : question.run.span = question.span + 1 := by
      cases question <;> rfl
    show 8 * question.span + 1 + 5 < 8 * question.run.span
    omega
  · show 8 * (next ()).span + 5 < 8 * ((next ()).span + 1)
    omega

/-- Every step uses up something. -/
theorem Step.remaining_lt {state after : Exchange Outside} (step : channel.Step state after) :
    after.remaining < state.remaining := by
  unfold Exchange.remaining
  cases step with
  | goOn worker _ =>
    rw [worker]
    simp only [Worker.remaining, Run.span]
    omega
  | @quit now next worker _ =>
    have positive := (next ()).span_pos
    rw [worker]
    simp only [Worker.remaining, Run.span]
    omega
  | finish worker =>
    rw [worker]
    simp only [Worker.remaining, Run.span]
    omega
  | exhaust worker =>
    rw [worker]
    simp only [Worker.remaining, Run.span]
    omega
  | enqueue worker offers _ _ =>
    have sent := offer?_remaining offers
    rw [worker]
    simp only [List.length_append, List.length_singleton]
    omega
  | handOver worker offers consumer _ =>
    have sent := offer?_remaining offers
    rw [worker, consumer]
    simp only [Consumer.remaining]
    omega
  | sendFails worker offers _ =>
    have sent := offer?_remaining offers
    rw [worker]
    simp only [Worker.remaining] at sent ⊢
    omega
  | @take question number reply worker slot =>
    have answered := question.answer_remaining reply
    rw [worker, slot]
    simp only [Option.toList_none, Option.toList_some, List.length_nil, List.length_singleton]
    omega
  | hangUp worker _ _ =>
    rw [worker]
    simp only [Worker.remaining]
    omega
  | receive consumer queue =>
    rw [consumer, queue]
    simp only [Consumer.remaining, List.length_cons]
    omega
  | drained consumer _ _ =>
    rw [consumer]
    simp only [Consumer.remaining]
    omega
  | observe consumer _ =>
    rw [consumer]
    simp only [Consumer.remaining]
    omega
  | deliver consumer _ =>
    rw [consumer]
    split
    · simp only [Consumer.remaining]
      omega
    · simp only [Consumer.remaining]
      omega
  | judge consumer _ =>
    rw [consumer]
    simp only [Consumer.remaining]
    omega
  | reply consumer slot _ =>
    rw [consumer, slot]
    simp only [Consumer.remaining, Option.toList_none, Option.toList_some, List.length_nil,
      List.length_singleton]
    omega
  | replyFails consumer _ =>
    rw [consumer]
    simp only [Consumer.remaining]
    omega

/-- The parties cannot go on for ever. -/
theorem step_wellFounded (channel : Channel Outside) :
    WellFounded fun after before : Exchange Outside => channel.Step before after :=
  Subrelation.wf (fun step => step.remaining_lt) (measure Exchange.remaining).wf

end Channel

end SlashScript
