/-
This file makes visible what an invocation does to its sink. A sink is given by its effect on what
is outside, and that effect need not show which calls were made. A recorded sink has the same
effect and writes down its calls besides, so the calls of an invocation are those that a recorded
sink gets in its place; the invocation cannot tell the two apart.

The file also settles what the limit on the rounds of a loop stands for: an invocation that does
not run out of rounds is the same under every larger limit.
-/

import SlashScript.Proofs.Projections

namespace SlashScript

/-! ### Calls of a sink -/

/-- A call that an invocation makes of its sink. -/
inductive SinkCall where
  | output (event : OutputEvent)
  | report (record : ErrorRecord)
  /-- An inquiry, and what the sink answered. -/
  | inquire (record : ErrorRecord) (goOn : Bool)

namespace Sink

variable {Outside : Type}

/-- A sink with the same effect, which also writes down its calls, the last one last. -/
def recorded (sink : Sink Outside) : Sink (Outside × List SinkCall) where
  output event outside := (sink.output event outside.1, outside.2 ++ [.output event])
  report record outside := (sink.report record outside.1, outside.2 ++ [.report record])
  inquire record outside :=
    let (goOn, after) := sink.inquire record outside.1
    (goOn, after, outside.2 ++ [.inquire record goOn])
  isCancelled outside := sink.isCancelled outside.1

/-- No call of the sink cancels the invocation. -/
structure Quiet (sink : Sink Outside) : Prop where
  output : ∀ (event : OutputEvent) {outside : Outside}, sink.isCancelled outside = false →
    sink.isCancelled (sink.output event outside) = false
  report : ∀ (record : ErrorRecord) {outside : Outside}, sink.isCancelled outside = false →
    sink.isCancelled (sink.report record outside) = false
  inquire : ∀ (record : ErrorRecord) {outside : Outside}, sink.isCancelled outside = false →
    sink.isCancelled (sink.inquire record outside).2 = false

theorem Quiet.recorded {sink : Sink Outside} (quiet : sink.Quiet) : sink.recorded.Quiet where
  output event _ live := quiet.output event live
  report record _ live := quiet.report record live
  inquire record _ live := quiet.inquire record live

/-- A sink that keeps all its calls, answers all inquiries in one way and never cancels. -/
def collector (goOn : Bool) : Sink (List SinkCall) where
  output event calls := calls ++ [.output event]
  report record calls := calls ++ [.report record]
  inquire record calls := (goOn, calls ++ [.inquire record goOn])
  isCancelled _ := false

theorem collector_quiet (goOn : Bool) : (collector goOn).Quiet :=
  ⟨fun _ _ _ => rfl, fun _ _ _ => rfl, fun _ _ _ => rfl⟩

/-! ### One request to a sink -/

/-- What an action makes of an error cancels nothing if no call of the sink does. -/
theorem Quiet.judge {sink : Sink Outside} (quiet : sink.Quiet) (action : ErrorAction)
    (record : ErrorRecord) {outside : Outside} (live : sink.isCancelled outside = false) :
    sink.isCancelled (action.judge sink record outside).2 = false := by
  cases action with
  | silent => exact live
  | stop => exact live
  | proceed => exact quiet.report record live
  | ignore => exact live
  | inquire =>
    have asked := quiet.inquire record live
    rw [judge_inquire]
    split
    · exact quiet.report record asked
    · exact asked

/-- The calls that an action makes of a sink because of an error. -/
def callsFor (sink : Sink Outside) (action : ErrorAction) (record : ErrorRecord)
    (outside : Outside) : List SinkCall :=
  match action with
  | .silent => []
  | .stop => []
  | .proceed => [.report record]
  | .inquire =>
    if (sink.inquire record outside).1 then [.inquire record true, .report record]
    else [.inquire record false]
  | .ignore => []

/-- A recorded sink judges as the sink itself and writes down the calls. -/
theorem judge_recorded (sink : Sink Outside) (action : ErrorAction) (record : ErrorRecord)
    (outside : Outside) (calls : List SinkCall) :
    action.judge sink.recorded record (outside, calls) =
      ((action.judge sink record outside).1, (action.judge sink record outside).2,
        calls ++ sink.callsFor action record outside) := by
  cases action with
  | silent => rw [callsFor, List.append_nil]; rfl
  | stop => rw [callsFor, List.append_nil]; rfl
  | proceed => rfl
  | ignore => rw [callsFor, List.append_nil]; rfl
  | inquire =>
    rw [judge_inquire, judge_inquire, callsFor]
    show (if (sink.inquire record outside).1 then _ else _) = _
    cases answer : (sink.inquire record outside).1
    · simp [recorded, answer]
    · simp [recorded, answer]

/-- The delivery after a value was handed over. -/
def push (sink : Sink Outside) (invocation : Nat) (value : Value)
    (delivery : Delivery Outside) : Delivery Outside where
  outside := sink.output ⟨invocation, delivery.emitted, value⟩ delivery.outside
  emitted := delivery.emitted + 1
  errors := delivery.errors

/-- The delivery after an error was judged. -/
def settle (sink : Sink Outside) (action : ErrorAction) (record : ErrorRecord)
    (delivery : Delivery Outside) : Delivery Outside where
  outside := (action.judge sink record delivery.outside).2
  emitted := delivery.emitted
  errors :=
    if (action.judge sink record delivery.outside).1 = .log then delivery.errors + 1
    else delivery.errors

variable {sink : Sink Outside} {delivery : Delivery Outside}

theorem deliver_of_cancelled (cancelled : sink.isCancelled delivery.outside = true)
    (invocation : Nat) (value : Value) : sink.deliver invocation value delivery = none :=
  if_pos cancelled

theorem deliver_of_live (live : sink.isCancelled delivery.outside = false) (invocation : Nat)
    (value : Value) :
    sink.deliver invocation value delivery = some (sink.push invocation value delivery) :=
  if_neg (ne_true_of_eq_false live)

theorem judge_of_cancelled (cancelled : sink.isCancelled delivery.outside = true)
    (action : ErrorAction) (record : ErrorRecord) :
    sink.judge action record delivery = (.cancel, delivery) :=
  if_pos cancelled

theorem judge_of_live (live : sink.isCancelled delivery.outside = false) (action : ErrorAction)
    (record : ErrorRecord) :
    sink.judge action record delivery =
      ((action.judge sink record delivery.outside).1, sink.settle action record delivery) :=
  if_neg (ne_true_of_eq_false live)

/-- A value is taken only if the invocation is not cancelled. -/
theorem of_deliver {invocation : Nat} {value : Value} {after : Delivery Outside}
    (taken : sink.deliver invocation value delivery = some after) :
    sink.isCancelled delivery.outside = false ∧ after = sink.push invocation value delivery := by
  cases live : sink.isCancelled delivery.outside with
  | true => cases (deliver_of_cancelled live invocation value).symm.trans taken
  | false =>
    cases (deliver_of_live live invocation value).symm.trans taken
    exact ⟨rfl, rfl⟩

/-- An error is judged only if the invocation is not cancelled. -/
theorem of_judge {action : ErrorAction} {record : ErrorRecord} {verdict : Verdict}
    {after : Delivery Outside}
    (judged : sink.judge action record delivery = (verdict, after)) (notCancel : verdict ≠ .cancel) :
    sink.isCancelled delivery.outside = false ∧
      (action.judge sink record delivery.outside).1 = verdict ∧
        after = sink.settle action record delivery := by
  cases live : sink.isCancelled delivery.outside with
  | true =>
    cases (judge_of_cancelled live action record).symm.trans judged
    exact absurd rfl notCancel
  | false =>
    cases (judge_of_live live action record).symm.trans judged
    exact ⟨rfl, rfl, rfl⟩

theorem Quiet.push (quiet : sink.Quiet) (live : sink.isCancelled delivery.outside = false)
    (invocation : Nat) (value : Value) :
    sink.isCancelled (sink.push invocation value delivery).outside = false :=
  quiet.output _ live

theorem Quiet.settle (quiet : sink.Quiet) (live : sink.isCancelled delivery.outside = false)
    (action : ErrorAction) (record : ErrorRecord) :
    sink.isCancelled (sink.settle action record delivery).outside = false :=
  quiet.judge action record live

theorem settle_recorded (sink : Sink Outside) (action : ErrorAction) (record : ErrorRecord)
    (delivery : Delivery (Outside × List SinkCall)) :
    sink.recorded.settle action record delivery =
      ⟨((sink.settle action record (delivery.map Prod.fst)).outside,
          delivery.outside.2 ++ sink.callsFor action record delivery.outside.1),
        (sink.settle action record (delivery.map Prod.fst)).emitted,
        (sink.settle action record (delivery.map Prod.fst)).errors⟩ := by
  obtain ⟨⟨outside, calls⟩, emitted, errors⟩ := delivery
  unfold settle Delivery.map
  rw [judge_recorded]

/-- Writing down the calls does not show in what the sink itself does. -/
theorem recorded_projects (sink : Sink Outside) : sink.recorded.Projects Prod.fst sink :=
  ⟨fun _ _ => rfl, fun _ _ => rfl, fun _ _ => rfl, fun _ => rfl⟩

end Sink

/-- A run only adds calls to those that were written down before. -/
theorem Run.serve_recorded_extends {Outside State Result : Type} (sink : Sink Outside)
    (action : ErrorAction) (invocation : Nat) (run : Run State Result)
    (delivery : Delivery (Outside × List SinkCall)) :
    delivery.outside.2 <+:
      (run.serve (sink.recorded.host action invocation) delivery).outside.outside.2 := by
  refine run.serve_outside
    (fun after : Delivery (Outside × List SinkCall) => delivery.outside.2 <+: after.outside.2)
    (fun value before after taken earlier => ?_) (fun record before earlier => ?_)
    (List.prefix_refl _)
  · cases live : sink.recorded.isCancelled before.outside with
    | true => cases (Sink.deliver_of_cancelled live invocation value).symm.trans taken
    | false =>
      cases (Sink.deliver_of_live live invocation value).symm.trans taken
      exact earlier.trans (List.prefix_append _ _)
  · show delivery.outside.2 <+: (sink.recorded.judge action record before).2.outside.2
    cases live : sink.recorded.isCancelled before.outside with
    | true =>
      rw [Sink.judge_of_cancelled live]
      exact earlier
    | false =>
      rw [Sink.judge_of_live live, Sink.settle_recorded]
      exact earlier.trans (List.prefix_append _ _)

/-! ### Calls of an invocation -/

/-- The request with another error action. -/
def Request.under (action : ErrorAction) (request : Request) : Request :=
  { request with action := action }

namespace Session

variable {Outside : Type}

/-- The session with a place to write down the calls of its sink. -/
def recording (session : Session Outside) : Session (Outside × List SinkCall) :=
  ⟨session.engine, session.workspace, (session.outside, [])⟩

/-- The calls that an invocation makes of its sink, in order. -/
def calls (sink : Sink Outside) (request : Request) (session : Session Outside) :
    List SinkCall :=
  (session.recording.invoke sink.recorded request).2.outside.2

theorem calls_of_cancelled {sink : Sink Outside} {session : Session Outside}
    (cancelled : sink.isCancelled session.outside = true) (request : Request) :
    session.calls sink request = [] := by
  have recordingCancelled : sink.recorded.isCancelled session.recording.outside = true := cancelled
  unfold calls
  rw [invoke_of_cancelled recordingCancelled]
  rfl

theorem calls_of_live {sink : Sink Outside} {session : Session Outside}
    (live : sink.isCancelled session.outside = false) (request : Request) :
    session.calls sink request =
      (session.recording.served sink.recorded request).outside.outside.2 := by
  have recordingLive : sink.recorded.isCancelled session.recording.outside = false := live
  unfold calls
  rw [invoke_of_live recordingLive]

theorem served_recording (sink : Sink Outside) (request : Request) (session : Session Outside) :
    Ended.Matches Eq (fun recorded delivery => delivery = recorded.map Prod.fst)
      (session.recording.served sink.recorded request) (session.served sink request) :=
  served_map sink.recorded_projects (.silent _) request session.recording rfl

/-- The session without the calls that were written down. -/
def plain (session : Session (Outside × List SinkCall)) : Session Outside :=
  ⟨session.engine, session.workspace, session.outside.1⟩

/-- Writing down the calls changes nothing else. -/
theorem invoke_recording (sink : Sink Outside) (request : Request) (session : Session Outside) :
    session.invoke sink request =
      ((session.recording.invoke sink.recorded request).1,
        plain (session.recording.invoke sink.recorded request).2) :=
  invoke_map sink.recorded_projects (.silent _) request session.recording

/-- An invocation can be read off the end of its script with the recorded sink. -/
theorem invoke_of_recording {sink : Sink Outside} {session : Session Outside}
    (live : sink.isCancelled session.outside = false) (request : Request) :
    session.invoke sink request =
      (conclude session.engine.next (session.recording.served sink.recorded request).outside
          (session.recording.served sink.recorded request).ending,
        ⟨session.advanced,
          (session.recording.served sink.recorded request).state.leave session.workspace,
          (session.recording.served sink.recorded request).outside.outside.1⟩) := by
  have recordingLive : sink.recorded.isCancelled session.recording.outside = false := live
  rw [invoke_recording, invoke_of_live recordingLive]
  rfl

/-- Two requests that end in the same way with recorded sinks come to the same. -/
theorem invoke_eq_of_recording {sink : Sink Outside} {request request' : Request}
    {session : Session Outside}
    (same : session.recording.served sink.recorded request' =
      session.recording.served sink.recorded request) :
    session.calls sink request' = session.calls sink request ∧
      session.invoke sink request' = session.invoke sink request := by
  have invoked : session.recording.invoke sink.recorded request' =
      session.recording.invoke sink.recorded request := by
    cases live : sink.recorded.isCancelled session.recording.outside with
    | true => rw [invoke_of_cancelled live, invoke_of_cancelled live]
    | false => rw [invoke_of_live live, invoke_of_live live, same]
  refine ⟨congrArg (·.2.outside.2) invoked, ?_⟩
  rw [invoke_recording sink request', invoke_recording sink request, invoked]

/-! ### The limit on rounds -/

/-- The session with another limit on the rounds of a loop without a range. -/
def withRoundLimit (limit : Nat) (session : Session Outside) : Session Outside :=
  { session with engine := { session.engine with roundLimit := limit } }

/-- An invocation that does not run out of rounds is the same under every larger limit. -/
theorem invoke_withRoundLimit {sink : Sink Outside} {request : Request}
    {session : Session Outside} (ends : (session.invoke sink request).1 ≠ .error .exhausted)
    {limit : Nat} (larger : session.engine.roundLimit ≤ limit) :
    (session.withRoundLimit limit).invoke sink request =
      ((session.invoke sink request).1,
        (session.invoke sink request).2.withRoundLimit limit) := by
  cases live : sink.isCancelled session.outside with
  | true =>
    have cancelled : sink.isCancelled (session.withRoundLimit limit).outside = true := live
    rw [invoke_of_cancelled live, invoke_of_cancelled cancelled]
    rfl
  | false =>
    have liveThere : sink.isCancelled (session.withRoundLimit limit).outside = false := live
    rw [invoke_of_live live] at ends ⊢
    rw [invoke_of_live liveThere]
    have settled : (session.withRoundLimit limit).served sink request =
        session.served sink request :=
      Interpreter.runScript_settled (fun exhausted =>
        ends (congrArg (conclude _ _) exhausted)) larger
    rw [settled]
    rfl

/-- Nor does such an invocation make other calls under a larger limit. -/
theorem calls_withRoundLimit {sink : Sink Outside} {request : Request}
    {session : Session Outside} (ends : (session.invoke sink request).1 ≠ .error .exhausted)
    {limit : Nat} (larger : session.engine.roundLimit ≤ limit) :
    (session.withRoundLimit limit).calls sink request = session.calls sink request := by
  rw [invoke_recording] at ends
  have same : (session.recording.withRoundLimit limit).invoke sink.recorded request = _ :=
    invoke_withRoundLimit ends larger
  exact congrArg (·.2.outside.2) same

/-! ### A small invocation -/

/-- Asks for a script that raises an error between two values. -/
def interrupted (action : ErrorAction) : Request :=
  ⟨⟨"/echo before\n/error between\n/echo after", [.echo ⟨[.literal "before"]⟩,
    .error ⟨[.literal "between"]⟩, .echo ⟨[.literal "after"]⟩]⟩, [], .newScope, action⟩

/-- A session with the standard settings in which nothing was run yet and no call was kept. -/
def beginning : Session (List SinkCall) := ⟨.ofSettings .standard, .initial, []⟩

end Session

end SlashScript
