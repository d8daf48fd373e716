/-
This file compares what the parties of an exchange still have to do with a run of the script that
has the sink for its host. A value that is sent and handed over comes to what the run makes of
its request, and an answered error to what the run makes of that error. The comparison is made
request by request; how far ahead the worker is does not matter to it.
-/

import SlashScript.Proofs.Channel.Basic

namespace SlashScript

/-! ### Replies and the run they continue -/

theorem ErrorAction.reply_ne_resume {Outside : Type} (action : ErrorAction)
    (sink : Sink Outside) (record : ErrorRecord) (outside : Outside) :
    (action.reply sink record outside).1 ≠ .resume := by
  intro isResume
  cases action with
  | inquire =>
    unfold ErrorAction.reply at isResume
    rcases asked : sink.inquire record outside with ⟨goOn, after⟩
    rw [asked] at isResume
    cases goOn <;> cases isResume
  | silent => cases isResume
  | stop => cases isResume
  | proceed => cases isResume
  | ignore => cases isResume

namespace Channel

variable {Outside : Type} {channel : Channel Outside}

/-- The sink as the host of the script. -/
def host (channel : Channel Outside) : Host (Delivery Outside) :=
  channel.sink.host channel.action channel.invocation

/-- The end of the script when the worker goes on from its place, if it does not wait. -/
def complete (channel : Channel Outside) : Worker → Delivery Outside →
    Option (Ended Workspace Unit (Delivery Outside))
  | .running rest, delivery => some (rest.serve channel.host delivery)
  | .ended ending now, delivery => some ⟨ending, now, delivery⟩
  | .waiting _, _ => none

/-- The delivery after several values were handed over. -/
def pushAll (channel : Channel Outside) (values : List Value) (delivery : Delivery Outside) :
    Delivery Outside :=
  values.foldl (fun delivery value => channel.sink.push channel.invocation value delivery) delivery

theorem pushAll_append (values : List Value) (value : Value) (delivery : Delivery Outside) :
    channel.pushAll (values ++ [value]) delivery =
      channel.sink.push channel.invocation value (channel.pushAll values delivery) := by
  unfold pushAll
  rw [List.foldl_append]
  rfl

theorem live_pushAll (quiet : channel.sink.Quiet) (values : List Value)
    {delivery : Delivery Outside} (live : channel.sink.isCancelled delivery.outside = false) :
    channel.sink.isCancelled (channel.pushAll values delivery).outside = false := by
  induction values generalizing delivery with
  | nil => exact live
  | cons value values inductionHypothesis =>
    exact inductionHypothesis (quiet.push live channel.invocation value)

section

variable {delivery : Delivery Outside}

theorem serve_poll (live : channel.sink.isCancelled delivery.outside = false) (now : Workspace)
    (next : Unit → Run Workspace Unit) :
    (Run.poll now next).serve channel.host delivery = (next ()).serve channel.host delivery :=
  if_neg (ne_true_of_eq_false live)

theorem serve_emit (live : channel.sink.isCancelled delivery.outside = false) (value : Value)
    (now : Workspace) (next : Unit → Run Workspace Unit) :
    (Run.emit value now next).serve channel.host delivery =
      (next ()).serve channel.host (channel.sink.push channel.invocation value delivery) :=
  Run.serve_emit_of_take (Sink.deliver_of_live live channel.invocation value)

/-- A value that is answered completes to what the run makes of it. -/
theorem complete_answer_output (live : channel.sink.isCancelled delivery.outside = false)
    (value : Value) (now : Workspace) (next : Unit → Run Workspace Unit) :
    channel.complete ((Question.output value now next).answer .resume)
        (channel.sink.push channel.invocation value delivery) =
      some ((Run.emit value now next).serve channel.host delivery) := by
  rw [serve_emit live]
  rfl

/-- An error that is answered as the action wants completes to what the run makes of it. -/
theorem complete_answer_error (live : channel.sink.isCancelled delivery.outside = false)
    (record : ErrorRecord) (now : Workspace) (next : Keeping → Run Workspace Unit) :
    channel.complete ((Question.error record now next).answer
          (channel.action.reply channel.sink record delivery.outside).1)
        (channel.sink.settle channel.action record delivery) =
      some ((Run.raise record now next).serve channel.host delivery) := by
  have judged : channel.host.judge record delivery =
      ((channel.action.reply channel.sink record delivery.outside).1.verdict,
        channel.sink.settle channel.action record delivery) := by
    show channel.sink.judge channel.action record delivery = _
    rw [Sink.judge_of_live live, ErrorAction.judge_eq_reply]
  rw [Run.serve, judged]
  cases (channel.action.reply channel.sink record delivery.outside).1 <;> rfl

end

/-! ### Events on their way -/

/-- Whether the worker waits for an answer to such an event. -/
def Asks (channel : Channel Outside) : Question → Prop
  | .output _ _ _ => channel.capacity = 0
  | .error _ _ _ => True

/-- Either the worker waits after an event, or the event is a value and there is capacity. -/
theorem offer?_eq_some {rest : Run Workspace Unit} {event : Event} {after : Worker}
    (offers : channel.offer? rest = some (event, after)) :
    (∃ question, channel.Asks question ∧ rest = question.run ∧ event = question.event ∧
        after = .waiting question) ∨
      ∃ value now next, channel.capacity ≠ 0 ∧ rest = .emit value now next ∧
        event = .output value ∧ after = .running (next ()) := by
  cases rest with
  | done result now => cases offers
  | exhausted now => cases offers
  | poll now next => cases offers
  | emit value now next =>
    by_cases noCapacity : channel.capacity = 0
    · rw [offer?, if_pos noCapacity] at offers
      cases offers
      exact .inl ⟨.output value now next, noCapacity, rfl, rfl, rfl⟩
    · rw [offer?, if_neg noCapacity] at offers
      cases offers
      exact .inr ⟨value, now, next, noCapacity, rfl, rfl, rfl⟩
  | raise record now next =>
    cases offers
    exact .inl ⟨.error record now next, trivial, rfl, rfl, rfl⟩

end Channel

/-- The events that are under way to a consumer that serves them: those in the queue, behind the
one in its hands. -/
inductive Consumer.Holds (queue : List (Nat × Event)) :
    Consumer → List (Nat × Event) → Prop where
  | receiving : Holds queue .receiving queue
  | handling (number : Nat) (event : Event) :
    Holds queue (.handling number event) ((number, event) :: queue)

theorem Consumer.Holds.append {consumer : Consumer} {queue events : List (Nat × Event)}
    (holds : consumer.Holds queue events) (sent : Nat × Event) :
    consumer.Holds (queue ++ [sent]) (events ++ [sent]) := by
  cases holds with
  | receiving => exact .receiving
  | handling number event => exact .handling number event

theorem Consumer.Holds.of_receiving {queue events : List (Nat × Event)}
    (holds : Consumer.receiving.Holds queue events) : events = queue := by
  cases holds with
  | receiving => rfl

theorem Consumer.Holds.of_handling {number : Nat} {event : Event}
    {queue events : List (Nat × Event)}
    (holds : (Consumer.handling number event).Holds queue events) :
    events = (number, event) :: queue := by
  cases holds with
  | handling number event => rfl

/-- If only values are under way, the consumer has the first of them in its hands. -/
theorem Consumer.Holds.first_of_values {number : Nat} {event : Event}
    {queue events : List (Nat × Event)} {values : List Value}
    (holds : (Consumer.handling number event).Holds queue events)
    (outputs : events.map Prod.snd = values.map Event.output) :
    ∃ first rest, values = first :: rest ∧ event = .output first ∧
      queue.map Prod.snd = rest.map Event.output := by
  rw [holds.of_handling] at outputs
  cases values with
  | nil => cases outputs
  | cons first rest =>
    obtain ⟨isFirst, remaining⟩ := List.cons.inj outputs
    exact ⟨first, rest, rfl, isFirst, remaining⟩

/-- If a last event is under way behind values, the consumer has the last event in its hands, or
the first of the values. -/
theorem Consumer.Holds.last_or_first {number asked : Nat} {event last : Event}
    {queue earlier : List (Nat × Event)} {values : List Value}
    (holds : (Consumer.handling number event).Holds queue (earlier ++ [(asked, last)]))
    (outputs : earlier.map Prod.snd = values.map Event.output) :
    (values = [] ∧ number = asked ∧ event = last ∧ queue = []) ∨
      ∃ first rest between, values = first :: rest ∧ event = .output first ∧
        queue = between ++ [(asked, last)] ∧ between.map Prod.snd = rest.map Event.output := by
  cases earlier with
  | nil =>
    cases holds.of_handling
    exact .inl ⟨List.map_eq_nil_iff.mp outputs.symm, rfl, rfl, rfl⟩
  | cons sent between =>
    cases holds.of_handling
    cases values with
    | nil => cases outputs
    | cons first rest =>
      obtain ⟨isFirst, remaining⟩ := List.cons.inj outputs
      exact .inr ⟨first, rest, between, rfl, isFirst, rfl, remaining⟩

theorem Consumer.Holds.ne_ended {consumer : Consumer} {queue events : List (Nat × Event)}
    (holds : consumer.Holds queue events) (cancelled : Bool) : consumer ≠ .ended cancelled := by
  intro ended
  rw [ended] at holds
  cases holds

end SlashScript
