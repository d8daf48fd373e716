/-
This file shows what becomes of an invocation that its sink cancels in one of its calls. The calls
of an invocation are made at the requests of its script, so the call is found at one of them, and
that request is the last that is answered: the next one finds the invocation cancelled, whichever
it is, and if there is none the script has come to its end. An error that the sink declines stops
the script where it was raised.

Without capacity this is all that can happen, since nothing is under way when the sink is called.
-/

import SlashScript.Proofs.Boundary
import SlashScript.Proofs.Channel.Lockstep
import SlashScript.Proofs.Requests
import SlashScript.Proofs.Rounds

namespace SlashScript

open Relation

/-! ### What calls do -/

/-- What a call does to what is outside. -/
def SinkCall.effect {Outside : Type} (sink : Sink Outside) : SinkCall → Outside → Outside
  | output event, outside => sink.output event outside
  | report record, outside => sink.report record outside
  | inquire record _, outside => (sink.inquire record outside).2

namespace Sink

variable {Outside : Type} {sink : Sink Outside} {action : ErrorAction} {invocation : Nat}

/-- What is outside after some calls. -/
def after (sink : Sink Outside) (calls : List SinkCall) (outside : Outside) : Outside :=
  calls.foldl (fun outside call => call.effect sink outside) outside

theorem after_append (earlier later : List SinkCall) (outside : Outside) :
    sink.after (earlier ++ later) outside = sink.after later (sink.after earlier outside) :=
  List.foldl_append

theorem judge_after (action : ErrorAction) (record : ErrorRecord) (outside : Outside) :
    (action.judge sink record outside).2 =
      sink.after (sink.callsFor action record outside) outside := by
  cases action with
  | silent => rfl
  | stop => rfl
  | proceed => rfl
  | ignore => rfl
  | inquire =>
    rw [judge_inquire, callsFor]
    split <;> rfl

/-- A sink that cancelled when it was asked about an error does not take that back when the error
is reported. -/
def Lasting (sink : Sink Outside) : Prop :=
  ∀ record outside, sink.isCancelled outside = true →
    sink.isCancelled (sink.report record outside) = true

/-- The calls that are made to answer the request at which a run is. -/
def callsAt {Result : Type} (sink : Sink Outside) (action : ErrorAction) (invocation : Nat)
    (delivery : Delivery (Outside × List SinkCall)) : Run Workspace Result → List SinkCall
  | .emit value _ _ => [.output ⟨invocation, delivery.emitted, value⟩]
  | .raise record _ _ => sink.callsFor action record delivery.outside.1
  | _ => []

/-- The error that a call is about is reported, after an inquiry or without one, or declined. -/
theorem callsFor_eq_append {record : ErrorRecord} {outside : Outside} {passed later : List SinkCall}
    {call : SinkCall}
    (isAmong : sink.callsFor action record outside = passed ++ call :: later) :
    ((action.judge sink record outside).1 = .log ∧
        (call = .report record ∧ later = [] ∨
          call = .inquire record true ∧ later = [.report record])) ∨
      (action.judge sink record outside).1 = .stop ∧ call = .inquire record false ∧ later = [] := by
  have single : ∀ {passed : List SinkCall} {only : SinkCall}, [only] = passed ++ call :: later →
      call = only ∧ later = [] := by
    intro passed only isOnly
    rcases List.append_eq_singleton_iff.mp isOnly.symm with ⟨_, isCall⟩ | ⟨_, never⟩
    · cases isCall
      exact ⟨rfl, rfl⟩
    · cases never
  cases action with
  | silent => cases (List.append_eq_nil_iff.mp isAmong.symm).2
  | stop => cases (List.append_eq_nil_iff.mp isAmong.symm).2
  | ignore => cases (List.append_eq_nil_iff.mp isAmong.symm).2
  | proceed => exact .inl ⟨rfl, .inl (single isAmong)⟩
  | inquire =>
    rw [judge_inquire]
    unfold callsFor at isAmong
    cases answer : (sink.inquire record outside).1 with
    | false =>
      rw [answer] at isAmong
      exact .inr ⟨rfl, single isAmong⟩
    | true =>
      rw [answer] at isAmong
      refine .inl ⟨rfl, ?_⟩
      cases passed with
      | nil =>
        cases isAmong
        exact .inr ⟨rfl, rfl⟩
      | cons first passed => exact .inl (single (List.cons.inj isAmong).2)

/-- The calls because of an error that cancel the invocation leave it cancelled. -/
theorem Lasting.judge (lasting : sink.Lasting)
    {record : ErrorRecord} {outside : Outside} {passed later : List SinkCall} {call : SinkCall}
    (isAmong : sink.callsFor action record outside = passed ++ call :: later)
    (cancels : sink.isCancelled (sink.after (passed ++ [call]) outside) = true) :
    sink.isCancelled (action.judge sink record outside).2 = true := by
  rw [judge_after, isAmong, List.append_cons, after_append]
  have laterReports : later = [] ∨ later = [.report record] := by
    rcases callsFor_eq_append isAmong with ⟨_, ⟨_, none⟩ | ⟨_, one⟩⟩ | ⟨_, _, none⟩
    · exact .inl none
    · exact .inr one
    · exact .inl none
  rcases laterReports with rfl | rfl
  · exact cancels
  · exact lasting record _ cancels

/-- To answer a request is to make its calls. -/
theorem push_calls (value : Value) (delivery : Delivery (Outside × List SinkCall)) :
    (sink.recorded.push invocation value delivery).outside =
      (sink.after [.output ⟨invocation, delivery.emitted, value⟩] delivery.outside.1,
        delivery.outside.2 ++ [.output ⟨invocation, delivery.emitted, value⟩]) := rfl

theorem settle_calls (record : ErrorRecord) (delivery : Delivery (Outside × List SinkCall)) :
    (sink.recorded.settle action record delivery).outside =
      (sink.after (sink.callsFor action record delivery.outside.1) delivery.outside.1,
        delivery.outside.2 ++ sink.callsFor action record delivery.outside.1) := by
  rw [settle_recorded, ← judge_after]
  rfl

end Sink

theorem ErrorAction.judge_ne_cancel {Outside : Type} (action : ErrorAction) (sink : Sink Outside)
    (record : ErrorRecord) (outside : Outside) : (action.judge sink record outside).1 ≠ .cancel := by
  cases action with
  | inquire =>
    rw [Sink.judge_inquire]
    split <;> nofun
  | silent => nofun
  | stop => nofun
  | proceed => nofun
  | ignore => nofun

/-- Only an error of an invocation that is cancelled is not judged. -/
theorem Sink.of_judge_cancel {Outside : Type} {sink : Sink Outside} {action : ErrorAction}
    {record : ErrorRecord} {delivery after : Delivery Outside}
    (judged : sink.judge action record delivery = (.cancel, after)) : after = delivery := by
  cases live : sink.isCancelled delivery.outside with
  | true =>
    cases (judge_of_cancelled live action record).symm.trans judged
    rfl
  | false =>
    have verdict := congrArg Prod.fst ((judge_of_live live action record).symm.trans judged)
    exact absurd verdict (action.judge_ne_cancel sink record delivery.outside)

/-! ### The place of a call -/

/-- A call is one of the first, or it comes later. -/
theorem SinkCall.later_or_among {first more passed later : List SinkCall} {call : SinkCall}
    (same : first ++ more = passed ++ call :: later) :
    (∃ remaining, passed = first ++ remaining ∧ more = remaining ++ call :: later) ∨
      ∃ others, first = passed ++ call :: others := by
  rcases List.append_eq_append_iff.mp same with
    ⟨remaining, isPassed, isMore⟩ | ⟨others, isFirst, isLater⟩
  · exact .inl ⟨remaining, isPassed, isMore⟩
  · cases others with
    | nil => exact .inl ⟨[], by rw [isFirst, List.append_nil, List.append_nil], isLater.symm⟩
    | cons other others =>
      cases isLater
      exact .inr ⟨others, isFirst⟩

namespace Run

variable {Outside Result : Type} {sink : Sink Outside} {action : ErrorAction} {invocation : Nat}
  {run rest : Run Workspace Result} {answers : List Answer}
  {delivery after : Delivery (Outside × List SinkCall)}
  {ended : Ended Workspace Result (Delivery (Outside × List SinkCall))}

/-- The sink gets a call after some others because of a request to which it leads a run by its
answers. -/
def Makes (sink : Sink Outside) (action : ErrorAction) (invocation : Nat)
    (run : Run Workspace Result) (delivery : Delivery (Outside × List SinkCall))
    (before : List SinkCall) (call : SinkCall) : Prop :=
  ∃ answers place there made others,
    Answered (sink.recorded.host action invocation) run delivery answers place there ∧
      sink.isCancelled there.outside.1 = false ∧ there.outside.2 ++ made = before ∧
        sink.callsAt action invocation there place = made ++ call :: others

/-- If the answer to a request makes calls, a call is one of them, or the rest of the run makes
it. -/
theorem Makes.of_answer {next : Run Workspace Result} {answer : Answer}
    {between : Delivery (Outside × List SinkCall)}
    (live : sink.isCancelled delivery.outside.1 = false)
    (makes : between.outside.2 = delivery.outside.2 ++ sink.callsAt action invocation delivery run)
    (answers : ∀ {later place there},
      Answered (sink.recorded.host action invocation) next between later place there →
        Answered (sink.recorded.host action invocation) run delivery (answer :: later) place there)
    {calls passed later : List SinkCall} {call : SinkCall} (grown : between.outside.2 <+: calls)
    (isCall : calls = delivery.outside.2 ++ (passed ++ call :: later))
    (onward : ∀ {passed}, calls = between.outside.2 ++ (passed ++ call :: later) →
      Makes sink action invocation next between (between.outside.2 ++ passed) call) :
    Makes sink action invocation run delivery (delivery.outside.2 ++ passed) call := by
  obtain ⟨more, rfl⟩ := grown
  have remaining := isCall
  rw [makes, List.append_assoc] at remaining
  rcases SinkCall.later_or_among (List.append_cancel_left remaining) with
    ⟨others, rfl, rfl⟩ | ⟨others, isAmong⟩
  · obtain ⟨later, place, there, made, others, answered, isLive, isMade, isCall⟩ := onward rfl
    rw [makes, List.append_assoc] at isMade
    exact ⟨answer :: later, place, there, made, others, answers answered, isLive, isMade, isCall⟩
  · exact ⟨[], run, delivery, passed, others, .here run delivery, live, rfl, isAmong⟩

/-- The calls that were made stay on record until the run ends. -/
theorem Answered.calls_prefix
    (answered : Answered (sink.recorded.host action invocation) run delivery answers rest after)
    (left : LeftBy (sink.recorded.host action invocation) rest after ended) :
    delivery.outside.2 <+: ended.outside.outside.2 := by
  have grown := run.serve_recorded_extends sink action invocation delivery
  rw [answered.serve_eq, left.serve_eq] at grown
  exact grown

/-- Every call is made because of a request. -/
theorem Answered.makes
    (answered : Answered (sink.recorded.host action invocation) run delivery answers rest after)
    (left : LeftBy (sink.recorded.host action invocation) rest after ended)
    {passed later : List SinkCall} {call : SinkCall}
    (isCall : ended.outside.outside.2 = delivery.outside.2 ++ (passed ++ call :: later)) :
    Makes sink action invocation run delivery (delivery.outside.2 ++ passed) call := by
  have noCall : ∀ {delivery : Delivery (Outside × List SinkCall)} {passed : List SinkCall},
      delivery.outside.2 ≠ delivery.outside.2 ++ (passed ++ call :: later) := by
    intro delivery passed same
    cases (List.append_eq_nil_iff.mp (List.self_eq_append_right.mp same)).2
  induction answered generalizing passed with
  | here run delivery =>
    cases left with
    | done result now _ => exact absurd isCall noCall
    | exhausted now _ => exact absurd isCall noCall
    | poll _ => exact absurd isCall noCall
    | emit _ => exact absurd isCall noCall
    | raise judged =>
      rw [Sink.of_judge_cancel judged] at isCall
      exact absurd isCall noCall
    | stopped judged =>
      obtain ⟨live, _, rfl⟩ := Sink.of_judge judged nofun
      rw [Sink.settle_calls] at isCall
      exact ⟨[], _, delivery, passed, later, .here _ delivery, live, rfl,
        List.append_cancel_left isCall⟩
  | goOn live answered inductionHypothesis =>
    obtain ⟨earlier, place, there, made, others, leads, made⟩ := inductionHypothesis left isCall
    exact ⟨_, place, there, _, others, .goOn live leads, made⟩
  | taken taken answered inductionHypothesis =>
    obtain ⟨live, rfl⟩ := Sink.of_deliver taken
    exact Makes.of_answer live rfl (.taken taken) (answered.calls_prefix left) isCall
      (inductionHypothesis left)
  | @kept _ _ _ keeping _ _ _ _ _ judged answered inductionHypothesis =>
    obtain ⟨live, _, rfl⟩ := Sink.of_judge judged keeping.verdict_ne_cancel
    exact Makes.of_answer live (congrArg Prod.snd (Sink.settle_calls _ _)) (.kept judged)
      (answered.calls_prefix left) isCall (inductionHypothesis left)

/-- What is outside is what the calls on record have made of it. -/
theorem Answered.outside_eq
    (answered : Answered (sink.recorded.host action invocation) run delivery answers rest after)
    {outside : Outside} (isOutside : delivery.outside.1 = sink.after delivery.outside.2 outside) :
    after.outside.1 = sink.after after.outside.2 outside := by
  induction answered with
  | here run delivery => exact isOutside
  | goOn _ _ inductionHypothesis => exact inductionHypothesis isOutside
  | taken taken _ inductionHypothesis =>
    obtain ⟨_, rfl⟩ := Sink.of_deliver taken
    refine inductionHypothesis ?_
    rw [Sink.push_calls, Sink.after_append, ← isOutside]
  | @kept _ _ _ keeping _ _ _ _ _ judged _ inductionHypothesis =>
    obtain ⟨_, _, rfl⟩ := Sink.of_judge judged keeping.verdict_ne_cancel
    refine inductionHypothesis ?_
    rw [Sink.settle_calls, Sink.after_append, ← isOutside]

/-- With more rounds a run makes the same calls at its place. -/
theorem Deepens.callsAt_eq {run' : Run Workspace Result} (deepens : run.Deepens run') :
    sink.callsAt action invocation delivery run' = sink.callsAt action invocation delivery run := by
  cases deepens <;> rfl

/-- With more rounds a run does not give up where it gave up before. -/
theorem Deepens.leaving_ne {run' : Run Workspace Result} (deepens : run.Deepens run') :
    run'.leaving ≠ .exhausted := by
  cases deepens <;> nofun

/-- The run goes on with a request. -/
def Asks : Run Workspace Result → Prop
  | .done _ _ => False
  | .exhausted _ => False
  | .poll _ _ => True
  | .emit _ _ _ => True
  | .raise _ _ _ => True

end Run

/-! ### Requests at which the sink cancels -/

namespace Run

variable {Outside Result : Type} {sink : Sink Outside} {action : ErrorAction} {invocation : Nat}
  {delivery : Delivery (Outside × List SinkCall)} {record : ErrorRecord} {now : Workspace}

/-- A value that cancels the invocation is the last thing that is answered. -/
theorem serve_emit_of_cancels {value : Value} (next : Unit → Run Workspace Result)
    (live : sink.isCancelled delivery.outside.1 = false)
    (cancels : sink.isCancelled (sink.recorded.push invocation value delivery).outside.1 = true) :
    (Run.emit value now next).serve (sink.recorded.host action invocation) delivery =
      ⟨(next ()).leaving, (next ()).shown, sink.recorded.push invocation value delivery⟩ := by
  have taken : (sink.recorded.host action invocation).take value delivery =
      some (sink.recorded.push invocation value delivery) := Sink.deliver_of_live live _ value
  exact (serve_emit_of_take taken).trans (serve_of_cancelled cancels _ _ _)

variable (next : Keeping → Run Workspace Result)

/-- An error that is logged and cancels the invocation is the last thing that is answered. -/
theorem serve_raise_of_cancels (live : sink.isCancelled delivery.outside.1 = false)
    (verdict : (action.judge sink record delivery.outside.1).1 = .log)
    (cancels : sink.isCancelled (action.judge sink record delivery.outside.1).2 = true) :
    (Run.raise record now next).serve (sink.recorded.host action invocation) delivery =
      ⟨(next .logged).leaving, (next .logged).shown,
        sink.recorded.settle action record delivery⟩ := by
  have liveRecorded : sink.recorded.isCancelled delivery.outside = false := live
  have judged : (sink.recorded.host action invocation).judge record delivery =
      (Keeping.logged.verdict, sink.recorded.settle action record delivery) := by
    show sink.recorded.judge action record delivery = _
    rw [Sink.judge_of_live liveRecorded, Sink.judge_recorded, verdict]
    rfl
  have cancelled : sink.recorded.isCancelled
      (sink.recorded.settle action record delivery).outside = true := by
    rw [Sink.settle_recorded]
    exact cancels
  exact (serve_raise_of_keep judged).trans (serve_of_cancelled cancelled _ _ _)

/-- An error that is declined stops the script. -/
theorem serve_raise_of_declined (live : sink.isCancelled delivery.outside.1 = false)
    (verdict : (action.judge sink record delivery.outside.1).1 = .stop) :
    (Run.raise record now next).serve (sink.recorded.host action invocation) delivery =
      ⟨.stopped record, now, sink.recorded.settle action record delivery⟩ := by
  have liveRecorded : sink.recorded.isCancelled delivery.outside = false := live
  have judged : (sink.recorded.host action invocation).judge record delivery =
      (.stop, sink.recorded.settle action record delivery) := by
    show sink.recorded.judge action record delivery = _
    rw [Sink.judge_of_live liveRecorded, Sink.judge_recorded, verdict]
  exact serve_raise_of_stop judged

end Run

/-! ### How a cancelled invocation ends -/

namespace Upshot

variable {Outside : Type}

/-- With this much of its script left an invocation that was cancelled has ended: it is complete if
the script is at its end, and it is cancelled if the script has another request. -/
def GivesUp (upshot : Upshot Outside) (rest : Run Workspace Unit) : Prop :=
  (∃ now outcome, rest = .done () now ∧ upshot.result = .ok outcome) ∨
    rest.Asks ∧ upshot.result = .error .cancelled

/-- An invocation that was cancelled in a call has left its script at the request that made the
call. -/
inductive LeftAt (items : List Expression) (upshot : Upshot Outside) :
    SinkCall → Run Workspace Unit → Prop where
  /-- The value was handed over, and if it belongs to a list of values, the next item of the list
  was evaluated. -/
  | output {event : OutputEvent} {now : Workspace} {next : Unit → Run Workspace Unit}
    (inside : upshot.inside = now ∨ ∃ item ∈ items, upshot.inside = (item.evaluate now).2)
    (givesUp : upshot.GivesUp (next ())) :
    LeftAt items upshot (.output event) (.emit event.value now next)
  /-- The error was reported, or is going to be, and is kept in the log. -/
  | error {call : SinkCall} {record : ErrorRecord} {now : Workspace}
    {next : Keeping → Run Workspace Unit}
    (isCall : call = .report record ∨ call = .inquire record true)
    (inside : upshot.inside = now.record record) (givesUp : upshot.GivesUp (next .logged)) :
    LeftAt items upshot call (.raise record now next)
  /-- The error was declined. -/
  | declined {record : ErrorRecord} {now : Workspace} {next : Keeping → Run Workspace Unit}
    (inside : upshot.inside = now) (isStopped : upshot.result = .error (.stopped record)) :
    LeftAt items upshot (.inquire record false) (.raise record now next)

end Upshot

namespace Session

variable {Outside : Type} {sink : Sink Outside} {request : Request} {session : Session Outside}

/-- An invocation whose script gets no more answers gives up, unless it is out of rounds. -/
theorem givesUp_of_leaving {upshot : Upshot Outside} {rest : Run Workspace Unit} {invocation : Nat}
    {delivery : Delivery (Outside × List SinkCall)}
    (isResult : upshot.result = conclude invocation delivery rest.leaving)
    (goesOn : upshot.result ≠ .error .exhausted ∨ ∃ shorter : Run Workspace Unit,
      shorter.Deepens rest) : upshot.GivesUp rest := by
  cases rest with
  | done result now => exact .inl ⟨now, _, rfl, isResult⟩
  | poll now next => exact .inr ⟨trivial, isResult⟩
  | emit value now next => exact .inr ⟨trivial, isResult⟩
  | raise record now next => exact .inr ⟨trivial, isResult⟩
  | exhausted now =>
    rcases goesOn with notExhausted | ⟨shorter, deepens⟩
    · exact absurd isResult notExhausted
    · exact absurd rfl deepens.leaving_ne

section

variable {answers : List Answer} {place : Run Workspace Unit}
  {there : Delivery (Outside × List SinkCall)}

/-- Cancelled in a call, an invocation gets no further than the request that made the call. -/
theorem upshot_leftAt (lasting : sink.Lasting)
    (live : sink.isCancelled session.outside = false)
    (answered : Run.Answered (sink.recorded.host request.action session.engine.next)
      (session.run request) ⟨(session.outside, []), 0, 0⟩ answers place there)
    (liveThere : sink.isCancelled there.outside.1 = false) {made later : List SinkCall}
    {call : SinkCall}
    (isMade : sink.callsAt request.action session.engine.next there place = made ++ call :: later)
    (cancels : sink.isCancelled (sink.after (there.outside.2 ++ made ++ [call]) session.outside) =
      true) :
    (session.upshot sink request).calls = there.outside.2 ++ made ++ call :: later ∧
      (later = [] ∨ ∃ record, call = .inquire record true ∧ later = [.report record]) ∧
        (((session.upshot sink request).result ≠ .error .exhausted ∨
            ∃ shorter : Run Workspace Unit, shorter.Deepens place) →
          (session.upshot sink request).LeftAt (Statement.blockItems request.script.statements) call
            place) := by
  have orderly := answered.leadsTo.orderly (Interpreter.runScript_orderly session.engine.roundLimit
    request.script.statements (session.workspace.enter request.mode request.arguments))
  rw [List.append_assoc, Sink.after_append, ← answered.outside_eq rfl] at cancels
  rw [List.append_assoc, ← isMade]
  rw [upshot_of_live live]
  cases place with
  | done result now => cases (List.append_eq_nil_iff.mp isMade.symm).2
  | exhausted now => cases (List.append_eq_nil_iff.mp isMade.symm).2
  | poll now next => cases (List.append_eq_nil_iff.mp isMade.symm).2
  | emit value now next =>
    rcases List.append_eq_singleton_iff.mp isMade.symm with ⟨rfl, isCall⟩ | ⟨_, never⟩
    · cases isCall
      have served : session.recording.served sink.recorded request =
          ⟨(next ()).leaving, (next ()).shown,
            sink.recorded.push session.engine.next value there⟩ :=
        answered.serve_eq.trans (Run.serve_emit_of_cancels next liveThere cancels)
      rw [served]
      refine ⟨rfl, .inl rfl, fun goesOn => .output orderly.1 (givesUp_of_leaving rfl ?_)⟩
      refine goesOn.imp_right fun ⟨shorter, deepens⟩ => ?_
      cases deepens with
      | emit value now rest => exact ⟨_, rest⟩
    · cases never
  | raise record now next =>
    rcases Sink.callsFor_eq_append isMade with ⟨verdict, reported⟩ | ⟨verdict, rfl, rfl⟩
    · have served : session.recording.served sink.recorded request =
          ⟨(next .logged).leaving, (next .logged).shown,
            sink.recorded.settle request.action record there⟩ :=
        answered.serve_eq.trans
          (Run.serve_raise_of_cancels next liveThere verdict (lasting.judge isMade cancels))
      rw [served]
      refine ⟨congrArg Prod.snd (Sink.settle_calls record there), ?_, fun goesOn => .error ?_ ?_
        (givesUp_of_leaving rfl ?_)⟩
      · exact reported.imp And.right fun ⟨isCall, isLater⟩ => ⟨record, isCall, isLater⟩
      · exact reported.imp And.left And.left
      · exact (orderly .logged).1
      · refine goesOn.imp_right fun ⟨shorter, deepens⟩ => ?_
        cases deepens with
        | raise record now rest => exact ⟨_, rest .logged⟩
    · have served : session.recording.served sink.recorded request =
          ⟨.stopped record, now, sink.recorded.settle request.action record there⟩ :=
        answered.serve_eq.trans (Run.serve_raise_of_declined next liveThere verdict)
      rw [served]
      exact ⟨congrArg Prod.snd (Sink.settle_calls record there), .inl rfl,
        fun _ => .declined rfl rfl⟩

/-- Under a limit that is not smaller a script comes to the same place, where it makes the same
calls, and if the limit is larger there are more rounds before it. -/
theorem answered_withRoundLimit {calls : List SinkCall}
    (answered : Run.Answered (sink.recorded.host request.action session.engine.next)
      (session.run request) ⟨(session.outside, []), 0, 0⟩ answers place there)
    (isMade : sink.callsAt request.action session.engine.next there place = calls) {limit : Nat}
    (atLeast : session.engine.roundLimit ≤ limit) {otherwise : Prop}
    (more : session.engine.roundLimit < limit ∨ otherwise) :
    ∃ place', Run.Answered (sink.recorded.host request.action session.engine.next)
        ((session.withRoundLimit limit).run request) ⟨(session.outside, []), 0, 0⟩ answers place'
        there ∧
      sink.callsAt request.action session.engine.next there place' = calls ∧
        (otherwise ∨ ∃ shorter : Run Workspace Unit, shorter.Deepens place') := by
  by_cases larger : session.engine.roundLimit < limit
  · obtain ⟨place', answered', deepens⟩ := answered.deepen (Interpreter.runScript_deepens larger
      request.script.statements (session.workspace.enter request.mode request.arguments))
    exact ⟨place', answered', deepens.callsAt_eq.trans isMade, .inr ⟨place, deepens⟩⟩
  · obtain rfl := Nat.le_antisymm atLeast (Nat.le_of_not_lt larger)
    exact ⟨place, answered, isMade, .inl (more.resolve_left larger)⟩

end

/-- What an invocation comes to that its sink cancels in a call, after these calls and before
these. -/
structure Cut (sink : Sink Outside) (request : Request) (session : Session Outside)
    (before : List SinkCall) (call : SinkCall) (later : List SinkCall) (upshot : Upshot Outside) :
    Prop where
  calls : upshot.calls = before ++ call :: later
  /-- The sink gets no call after this one but the report of the error that it was asked about. -/
  sameError : later = [] ∨ ∃ record, call = .inquire record true ∧ later = [.report record]
  depth : upshot.session.workspace.depth = session.workspace.depth
  frames : upshot.session.workspace.frames = session.workspace.frames
  /-- The script is left at the request that made the call: no statement and no round of a loop has
  begun after it. -/
  left : ∃ answers place there made,
    Run.Answered (sink.recorded.host request.action session.engine.next) (session.run request)
        ⟨(session.outside, []), 0, 0⟩ answers place there ∧
      there.outside.2 ++ made = before ∧
        sink.callsAt request.action session.engine.next there place = made ++ call :: later ∧
          upshot.LeftAt (Statement.blockItems request.script.statements) call place

/-- If a call of the sink cancels an invocation without capacity, no call for another value or
error follows and nothing else of the script is run; the invocation is cancelled then, unless its
script has come to its end or the error of the call was declined. If it was cancelled before, it
does nothing. In any case worker and consumer come to an end. The limit on rounds has to leave room
for one more, or not to be the reason for the end. -/
theorem yields_cut (sink : Sink Outside) (request : Request) (session : Session Outside)
    (noCapacity : session.engine.capacity = 0) (lasting : sink.Lasting) :
    (sink.isCancelled session.outside = true → ∀ upshot, session.Yields sink request upshot →
      upshot.calls = [] ∧ upshot.result = .error .cancelled ∧
        upshot.session = ⟨session.advanced, session.workspace, session.outside⟩) ∧
      (∀ state, ReflTransGen (session.recording.channel sink.recorded request).Step
          (session.recording.opened request) state →
        ∃ last result, ReflTransGen (session.recording.channel sink.recorded request).Step state
            last ∧ session.recording.joined last = some result) ∧
        ∀ before call later, session.calls sink request = before ++ call :: later →
          sink.isCancelled (sink.after (before ++ [call]) session.outside) = true →
            ∀ limit, session.engine.roundLimit ≤ limit → ∀ upshot,
              (session.withRoundLimit limit).Yields sink request upshot →
                session.engine.roundLimit < limit ∨ upshot.result ≠ .error .exhausted →
                  (session.withRoundLimit limit).Cut sink request before call later upshot := by
  refine ⟨fun cancelled upshot yields => ?_, fun state => exists_joined noCapacity, ?_⟩
  · rw [yields.eq_upshot noCapacity, upshot_of_cancelled cancelled]
    exact ⟨rfl, rfl, rfl⟩
  intro before call later isCall cancels limit atLeast upshot yields more
  have live : sink.isCancelled session.outside = false := by
    cases isLive : sink.isCancelled session.outside with
    | false => rfl
    | true =>
      rw [calls_of_cancelled isLive] at isCall
      cases (List.append_eq_nil_iff.mp isCall.symm).2
  obtain ⟨_, _, _, all, left⟩ := Run.serve_answered
    (sink.recorded.host request.action session.engine.next) (session.run request)
    ⟨(session.outside, []), 0, 0⟩
  have isAmong := isCall
  rw [calls_of_live live] at isAmong
  obtain ⟨answers, place, there, made, others, answered, liveThere, rfl, isMade⟩ :=
    all.makes left isAmong
  have isLater : others = later := by
    have calls := (upshot_leftAt lasting live answered liveThere isMade cancels).1
    exact (List.cons.inj (List.append_cancel_left (calls.symm.trans isCall))).2
  subst isLater
  obtain ⟨place', answered', isMade', goesOn⟩ :=
    answered_withRoundLimit answered isMade atLeast more
  obtain ⟨depth, frames⟩ := yields.restores
  have noCapacityLonger : (session.withRoundLimit limit).engine.capacity = 0 := noCapacity
  have liveLonger : sink.isCancelled (session.withRoundLimit limit).outside = false := live
  obtain rfl := yields.eq_upshot noCapacityLonger
  obtain ⟨calls, sameError, leftAt⟩ :=
    upshot_leftAt lasting liveLonger answered' liveThere isMade' cancels
  exact ⟨calls, sameError, depth, frames, answers, place', there, made, answered', rfl, isMade',
    leftAt goesOn⟩

/-- The first value that is handed over cancels the invocation, and no error follows it. Cancelled
already, the next invocation does nothing. -/
theorem yields_cut_interrupted :
    let sink : Sink (List SinkCall) :=
      { Sink.collector true with isCancelled := fun calls => !calls.isEmpty }
    let first : SinkCall := .output ⟨1, 0, .text "before"⟩
    let request := interrupted .inquire
    let upshot := beginning.upshot sink request
    beginning.Cut sink request [] first [] upshot ∧ upshot.result = .error .cancelled ∧
      (upshot.session.upshot sink request).calls = [] := by
  intro sink first request upshot
  have lasting : sink.Lasting := by
    intro record calls _
    show (!(calls ++ [_]).isEmpty) = true
    simp
  have notExhausted : upshot.result ≠ .error .exhausted := nofun
  obtain ⟨_, _, cuts⟩ := yields_cut sink request beginning rfl lasting
  obtain ⟨untouched, _⟩ := yields_cut sink request upshot.session rfl lasting
  exact ⟨cuts [] first [] rfl rfl _ (Nat.le_refl _) upshot .atOnce (.inr notExhausted), rfl,
    (untouched rfl _ .atOnce).1⟩

end Session

end SlashScript
