/-
This file balances the books of an invocation. Three parties keep count: the summary counts the
values that were handed over and the errors that were kept, the log has the errors themselves, and
the sink knows what it got. They learn of a value or an error in different places, and the course
of the script is what they have to agree with: an answer adds to each of the books what the error
action makes of it, and so the books agree at every place of the course and in particular at its
end.

Invocations that are cancelled have books as well, which may be ahead of each other, but what they
hand over is numbered all the same.
-/

import SlashScript.Proofs.Channel.Outcomes
import SlashScript.Proofs.Requests
import SlashScript.Proofs.Tolerance

namespace SlashScript

open Relation

/-! ### What is on record -/

/-- The values of one invocation on their way to the sink, counted from zero on. -/
def OutputEvent.numbered (invocation : Nat) (values : List Value) : List OutputEvent :=
  values.mapIdx fun position value => ⟨invocation, position, value⟩

theorem OutputEvent.numbered_append (invocation : Nat) (values : List Value) (value : Value) :
    numbered invocation (values ++ [value]) =
      numbered invocation values ++ [⟨invocation, values.length, value⟩] :=
  List.mapIdx_concat

namespace Upshot

variable {Outside : Type}

/-- The values that the sink got. -/
def outputs (upshot : Upshot Outside) : List OutputEvent :=
  upshot.calls.filterMap SinkCall.output?

/-- The errors that were reported to the sink. -/
def reports (upshot : Upshot Outside) : List ErrorRecord :=
  upshot.calls.filterMap SinkCall.report?

end Upshot

/-! ### What an error adds -/

namespace Sink

variable {Outside : Type} {sink : Sink Outside} {action : ErrorAction} {record : ErrorRecord}
  {outside : Outside}

/-- Because of an error no value is handed over. -/
theorem callsFor_outputs (sink : Sink Outside) (action : ErrorAction) (record : ErrorRecord)
    (outside : Outside) : (sink.callsFor action record outside).filterMap SinkCall.output? = [] := by
  cases action with
  | inquire =>
    show (if (sink.inquire record outside).1 then _ else _ : List SinkCall).filterMap _ = _
    split <;> rfl
  | silent => rfl
  | stop => rfl
  | proceed => rfl
  | ignore => rfl

/-- An error after which the script goes on is kept as the action keeps errors, and reported if
the action reports errors. -/
theorem of_judge_keeps {keeping : Keeping}
    (judged : (action.judge sink record outside).1 = keeping.verdict) :
    keeping = action.keeping ∧
      (sink.callsFor action record outside).filterMap SinkCall.report? =
        action.reported [record] := by
  cases action with
  | stop => cases keeping <;> cases judged
  | silent => cases keeping <;> cases judged; exact ⟨rfl, rfl⟩
  | proceed => cases keeping <;> cases judged; exact ⟨rfl, rfl⟩
  | ignore => cases keeping <;> cases judged; exact ⟨rfl, rfl⟩
  | inquire =>
    rw [judge_inquire] at judged
    unfold callsFor
    cases answer : (sink.inquire record outside).1 with
    | true =>
      rw [answer] at judged
      cases keeping <;> cases judged
      exact ⟨rfl, rfl⟩
    | false =>
      rw [answer] at judged
      cases keeping <;> cases judged

/-- Only two actions stop because of an error, and neither reports it. -/
theorem of_judge_stops (judged : (action.judge sink record outside).1 = .stop) :
    (action = .stop ∨ action = .inquire) ∧
      (sink.callsFor action record outside).filterMap SinkCall.report? = [] := by
  cases action with
  | stop => exact ⟨.inl rfl, rfl⟩
  | silent => cases judged
  | proceed => cases judged
  | ignore => cases judged
  | inquire =>
    refine ⟨.inr rfl, ?_⟩
    rw [judge_inquire] at judged
    unfold callsFor
    cases answer : (sink.inquire record outside).1 with
    | true =>
      rw [answer] at judged
      cases judged
    | false => rfl

end Sink

/-! ### Books that agree with a course -/

namespace Delivery

variable {Outside : Type} {sink : Sink Outside} {action : ErrorAction} {invocation : Nat}
  {delivery after : Delivery (Outside × List SinkCall)}

/-- The values that the sink got are numbered and counted. -/
def Numbered (invocation : Nat) (delivery : Delivery (Outside × List SinkCall)) : Prop :=
  ∃ values, delivery.outside.2.filterMap SinkCall.output? =
      OutputEvent.numbered invocation values ∧ delivery.emitted = values.length

/-- A value is handed over with the next number. -/
theorem outputs_push {values : List Value} (value : Value)
    (outputs : delivery.outside.2.filterMap SinkCall.output? =
      OutputEvent.numbered invocation values) (emitted : delivery.emitted = values.length) :
    (sink.recorded.push invocation value delivery).outside.2.filterMap SinkCall.output? =
        OutputEvent.numbered invocation (values ++ [value]) ∧
      (sink.recorded.push invocation value delivery).emitted = (values ++ [value]).length := by
  constructor
  · show (delivery.outside.2 ++ [_]).filterMap _ = _
    rw [List.filterMap_append, outputs, OutputEvent.numbered_append, ← emitted]
    rfl
  · rw [List.length_append, ← emitted]
    rfl

/-- To judge an error is to hand over nothing. -/
theorem outputs_settle (record : ErrorRecord) (delivery : Delivery (Outside × List SinkCall)) :
    (sink.recorded.settle action record delivery).outside.2.filterMap SinkCall.output? =
      delivery.outside.2.filterMap SinkCall.output? := by
  rw [Sink.settle_recorded, List.filterMap_append, Sink.callsFor_outputs, List.append_nil]

theorem Numbered.push (numbered : delivery.Numbered invocation) (value : Value) :
    (sink.recorded.push invocation value delivery).Numbered invocation := by
  obtain ⟨values, outputs, emitted⟩ := numbered
  exact ⟨values ++ [value], outputs_push value outputs emitted⟩

theorem Numbered.settle (numbered : delivery.Numbered invocation) (record : ErrorRecord) :
    (sink.recorded.settle action record delivery).Numbered invocation := by
  obtain ⟨values, outputs, emitted⟩ := numbered
  exact ⟨values, (outputs_settle record delivery).trans outputs, emitted⟩

/-- The books agree with what the script has handed over and raised. -/
structure Agrees (action : ErrorAction) (invocation : Nat)
    (delivery : Delivery (Outside × List SinkCall)) (values : List Value)
    (records : List ErrorRecord) : Prop where
  emitted : delivery.emitted = values.length
  errors : delivery.errors = (action.kept records).length
  outputs : delivery.outside.2.filterMap SinkCall.output? = OutputEvent.numbered invocation values
  reports : delivery.outside.2.filterMap SinkCall.report? = action.reported records

theorem agrees_nothing (outside : Outside) :
    (⟨(outside, []), 0, 0⟩ : Delivery (Outside × List SinkCall)).Agrees action invocation [] [] := by
  constructor <;> cases action <;> rfl

variable {values : List Value} {records : List ErrorRecord}

theorem Agrees.push (agrees : delivery.Agrees action invocation values records) (value : Value) :
    (sink.recorded.push invocation value delivery).Agrees action invocation (values ++ [value])
      records where
  emitted := (outputs_push value agrees.outputs agrees.emitted).2
  errors := agrees.errors
  outputs := (outputs_push value agrees.outputs agrees.emitted).1
  reports := by
    show (delivery.outside.2 ++ [_]).filterMap _ = _
    rw [List.filterMap_append, agrees.reports]
    exact List.append_nil _

/-- An error after which the script goes on is in all the books in which it has to be. -/
theorem Agrees.keep (agrees : delivery.Agrees action invocation values records)
    {record : ErrorRecord} {keeping : Keeping}
    (judged : (action.judge sink record delivery.outside.1).1 = keeping.verdict) :
    (sink.recorded.settle action record delivery).Agrees action invocation values
      (records ++ [record]) where
  emitted := agrees.emitted
  errors := by
    obtain ⟨rfl, _⟩ := Sink.of_judge_keeps judged
    show (if (action.judge sink.recorded record delivery.outside).1 = .log then _ else _) = _
    rw [Sink.judge_recorded, judged, action.kept_append, List.length_append, ← agrees.errors]
    cases action <;> rfl
  outputs := (outputs_settle record delivery).trans agrees.outputs
  reports := by
    rw [Sink.settle_recorded, List.filterMap_append, (Sink.of_judge_keeps judged).2,
      agrees.reports, action.reported_append]

end Delivery

/-! ### Books along a course -/

namespace Run

variable {Outside Result : Type} {sink : Sink Outside} {action : ErrorAction} {invocation : Nat}
  {run rest : Run Workspace Result} {answers : List Answer}
  {delivery after : Delivery (Outside × List SinkCall)}

/-- Every answer adds to the books what has to be added. -/
theorem Answered.agrees
    (answered : Answered (sink.recorded.host action invocation) run delivery answers rest after)
    {values : List Value} {records : List ErrorRecord}
    (agrees : delivery.Agrees action invocation values records) :
    after.Agrees action invocation (values ++ Answer.values answers)
      (records ++ Answer.records answers) := by
  induction answered generalizing values records with
  | here run delivery =>
    show delivery.Agrees _ _ (values ++ []) (records ++ [])
    rw [List.append_nil, List.append_nil]
    exact agrees
  | goOn _ _ inductionHypothesis => exact inductionHypothesis agrees
  | @taken value _ _ _ _ _ _ _ taken _ inductionHypothesis =>
    rw [(Sink.of_deliver taken).2] at inductionHypothesis
    have agreesAfter := inductionHypothesis (agrees.push value)
    rw [List.append_assoc] at agreesAfter
    exact agreesAfter
  | @kept record _ _ keeping _ _ _ _ _ judged _ inductionHypothesis =>
    obtain ⟨_, verdict, rfl⟩ := Sink.of_judge judged keeping.verdict_ne_cancel
    rw [Sink.judge_recorded] at verdict
    have agreesAfter := inductionHypothesis (agrees.keep verdict)
    rw [List.append_assoc] at agreesAfter
    exact agreesAfter

/-- The log keeps the errors that the action keeps. -/
theorem Answered.logged
    (answered : Answered (sink.recorded.host action invocation) run delivery answers rest after) :
    Answer.logged answers = action.kept (Answer.records answers) := by
  induction answered with
  | here run delivery => cases action <;> rfl
  | goOn _ _ inductionHypothesis => exact inductionHypothesis
  | taken _ _ inductionHypothesis => exact inductionHypothesis
  | @kept record _ _ keeping _ _ _ answers _ judged _ inductionHypothesis =>
    obtain ⟨_, verdict, _⟩ := Sink.of_judge judged keeping.verdict_ne_cancel
    obtain ⟨rfl, _⟩ := Sink.of_judge_keeps verdict
    show Answer.logged ([.kept record action.keeping] ++ answers) =
      action.kept ([record] ++ Answer.records answers)
    rw [action.kept_append, ← inductionHypothesis, Answer.logged, List.filterMap_append]
    cases action <;> rfl

/-- Under an action that lets no error pass, a course has none. -/
theorem Answered.records_of_stop
    (answered : Answered (sink.recorded.host action invocation) run delivery answers rest after)
    (isStop : action = .stop) : Answer.records answers = [] := by
  induction answered with
  | here run delivery => rfl
  | goOn _ _ inductionHypothesis => exact inductionHypothesis
  | taken _ _ inductionHypothesis => exact inductionHypothesis
  | @kept _ _ _ keeping _ _ _ _ _ judged _ _ =>
    obtain ⟨_, verdict, _⟩ := Sink.of_judge judged keeping.verdict_ne_cancel
    rw [isStop] at verdict
    cases keeping <;> cases verdict

end Run

/-! ### The books of an exchange -/

namespace Channel

variable {Outside : Type} {channel : Channel (Outside × List SinkCall)}
  {sink : Sink Outside}

/-- The parties add to a delivery only by handing over a value and by judging an error. -/
theorem Step.delivery {state after : Exchange (Outside × List SinkCall)}
    (step : channel.Step state after) :
    after.delivery = state.delivery ∨
      (∃ value, after.delivery = channel.sink.push channel.invocation value state.delivery) ∨
        ∃ record, after.delivery = channel.sink.settle channel.action record state.delivery := by
  cases step with
  | deliver _ _ => exact .inr (.inl ⟨_, rfl⟩)
  | judge _ _ => exact .inr (.inr ⟨_, rfl⟩)
  | _ => exact .inl rfl

theorem numbered_of_reached {request : Request} {session : Session Outside}
    {state : Exchange (Outside × List SinkCall)}
    (reached : ReflTransGen (session.recording.channel sink.recorded request).Step
      (session.recording.opened request) state) : state.delivery.Numbered session.engine.next := by
  induction reached with
  | refl => exact ⟨[], rfl, rfl⟩
  | tail _ step inductionHypothesis =>
    rcases step.delivery with same | ⟨value, pushed⟩ | ⟨record, settled⟩
    · rw [same]
      exact inductionHypothesis
    · rw [pushed]
      exact inductionHypothesis.push value
    · rw [settled]
      exact inductionHypothesis.settle record

end Channel

/-! ### The books of an invocation -/

namespace Session

variable {Outside : Type}

/-- What is on record of an invocation agrees with what its script handed over and raised. -/
structure Balances (request : Request) (session : Session Outside) (upshot : Upshot Outside) :
    Prop where
  /-- The invocation has taken its number, however it ended. -/
  engine : upshot.session.engine = session.advanced
  /-- What the sink got has that number, and is counted from zero on. -/
  numbered : ∃ values, upshot.outputs = OutputEvent.numbered session.engine.next values
  /-- At the end of the script all values have been handed over and all errors been kept that the
  summary counts, and no error follows a thrown one. -/
  completed : ∀ outcome, upshot.result = .ok outcome → ∃ answers now,
    (session.run request).LeadsTo answers (.done () now) ∧
      upshot.outputs = OutputEvent.numbered outcome.invocation (Answer.values answers) ∧
        upshot.session.workspace.errors =
            session.workspace.errors ++ request.action.kept (Answer.records answers) ∧
          upshot.reports = request.action.reported (Answer.records answers) ∧
            outcome = ⟨session.engine.next, (Answer.values answers).length,
              (request.action.kept (Answer.records answers)).length⟩ ∧
              ∀ before record after, Answer.records answers = before ++ record :: after →
                record.kind = .thrown → after = []
  /-- The error that stops a script is on no record, but all errors before it are. -/
  stopped : ∀ record, upshot.result = .error (.stopped record) → ∃ answers now next,
    (session.run request).LeadsTo answers (.raise record now next) ∧
      upshot.outputs = OutputEvent.numbered session.engine.next (Answer.values answers) ∧
        upshot.session.workspace.errors = session.workspace.errors ++ Answer.records answers ∧
          upshot.reports = Answer.records answers ∧
            ∀ before ∈ Answer.records answers, before.kind ≠ .thrown

variable {sink : Sink Outside} {request : Request} {session : Session Outside}

/-- Whatever an invocation comes to, its values are numbered. -/
theorem Yields.numbered {upshot : Upshot Outside} (yields : session.Yields sink request upshot) :
    ∃ values, upshot.outputs = OutputEvent.numbered session.engine.next values := by
  cases yields with
  | atOnce =>
    cases live : sink.isCancelled session.outside with
    | true =>
      rw [upshot_of_cancelled live]
      exact ⟨[], rfl⟩
    | false =>
      have numbered : (session.recording.served sink.recorded request).outside.Numbered
          session.engine.next := by
        refine Run.serve_outside (Delivery.Numbered session.engine.next)
          (fun value before after taken numbered => ?_) (fun record before numbered => ?_)
          (session.run request) ⟨[], rfl, rfl⟩
        · rw [(Sink.of_deliver taken).2]
          exact numbered.push value
        · show (sink.recorded.judge request.action record before).2.Numbered session.engine.next
          cases live : sink.recorded.isCancelled before.outside with
          | true =>
            rw [Sink.judge_of_cancelled live]
            exact numbered
          | false =>
            rw [Sink.judge_of_live live]
            exact numbered.settle record
      obtain ⟨values, outputs, _⟩ := numbered
      rw [upshot_of_live live]
      exact ⟨values, outputs⟩
  | exchanged _ reached worker joined =>
    obtain ⟨values, outputs, _⟩ := Channel.numbered_of_reached reached
    rw [joined_after worker joined]
    exact ⟨values, outputs⟩

/-- The books agree with the course that the script has taken. -/
structure Books (request : Request) (session : Session Outside) (upshot : Upshot Outside)
    (answers : List Answer) : Prop where
  outputs : upshot.outputs = OutputEvent.numbered session.engine.next (Answer.values answers)
  reports : upshot.reports = request.action.reported (Answer.records answers)
  errors : upshot.session.workspace.errors =
    session.workspace.errors ++ request.action.kept (Answer.records answers)

/-- A sink that answers at once leads a script along a course to the place at which it is left, and
the books agree with that course. -/
theorem served_course (sink : Sink Outside) (request : Request) (session : Session Outside) :
    ∃ answers rest after,
      Run.Answered (sink.recorded.host request.action session.engine.next) (session.run request)
          ⟨(session.outside, []), 0, 0⟩ answers rest after ∧
        Run.LeftBy (sink.recorded.host request.action session.engine.next) rest after
            (session.recording.served sink.recorded request) ∧
          after.Agrees request.action session.engine.next (Answer.values answers)
              (Answer.records answers) ∧
            rest.shown.errors =
              session.workspace.errors ++ request.action.kept (Answer.records answers) := by
  obtain ⟨answers, rest, after, answered, left⟩ := Run.serve_answered
    (sink.recorded.host request.action session.engine.next) (session.run request)
    ⟨(session.outside, []), 0, 0⟩
  have only := Interpreter.runScript_writesOnly session.engine.roundLimit
    request.script.statements (session.workspace.enter request.mode request.arguments)
  have errors := answered.leadsTo.errors only
  rw [answered.logged] at errors
  exact ⟨answers, rest, after, answered, left,
    answered.agrees (Delivery.agrees_nothing session.outside), errors⟩

/-- At the end of its script an invocation has kept what it had to keep, and has counted all. -/
theorem upshot_completed {outcome : Outcome}
    (isOk : (session.upshot sink request).result = .ok outcome) :
    ∃ answers now, (session.run request).LeadsTo answers (.done () now) ∧
      session.Books request (session.upshot sink request) answers ∧
        outcome = ⟨session.engine.next, (Answer.values answers).length,
          (request.action.kept (Answer.records answers)).length⟩ := by
  cases live : sink.isCancelled session.outside with
  | true =>
    rw [upshot_of_cancelled live] at isOk
    cases isOk
  | false =>
    obtain ⟨answers, rest, after, answered, left, agrees, errors⟩ :=
      session.served_course sink request
    rw [upshot_of_live live] at isOk ⊢
    generalize session.recording.served sink.recorded request = ended at left isOk
    cases left with
    | done result now _ =>
      cases isOk
      refine ⟨answers, now, answered.leadsTo, ⟨agrees.outputs, agrees.reports, errors⟩, ?_⟩
      rw [agrees.emitted, agrees.errors]
    | exhausted now _ => cases isOk
    | poll _ => cases isOk
    | emit _ => cases isOk
    | raise _ => cases isOk
    | stopped _ => cases isOk

/-- When an error stops its script, an invocation has kept what it had to keep before. -/
theorem upshot_stopped {record : ErrorRecord}
    (isStopped : (session.upshot sink request).result = .error (.stopped record)) :
    ∃ answers now next, (session.run request).LeadsTo answers (.raise record now next) ∧
      session.Books request (session.upshot sink request) answers ∧
        (request.action = .stop ∧ Answer.records answers = [] ∨ request.action = .inquire) := by
  cases live : sink.isCancelled session.outside with
  | true =>
    rw [upshot_of_cancelled live] at isStopped
    cases isStopped
  | false =>
    obtain ⟨answers, rest, after, answered, left, agrees, errors⟩ :=
      session.served_course sink request
    rw [upshot_of_live live] at isStopped ⊢
    generalize session.recording.served sink.recorded request = ended at left isStopped
    cases left with
    | done result now _ => cases isStopped
    | exhausted now _ => cases isStopped
    | poll _ => cases isStopped
    | emit _ => cases isStopped
    | raise _ => cases isStopped
    | stopped judged =>
      cases isStopped
      -- The last error made its calls as well, but none of them reports it.
      obtain ⟨_, verdict, rfl⟩ := Sink.of_judge judged nofun
      rw [Sink.judge_recorded] at verdict
      obtain ⟨stops, noReports⟩ := Sink.of_judge_stops verdict
      refine ⟨answers, _, _, answered.leadsTo,
        ⟨(Delivery.outputs_settle _ _).trans agrees.outputs, ?_, errors⟩, ?_⟩
      · show ((sink.recorded.settle request.action record _).outside.2).filterMap _ = _
        rw [Sink.settle_recorded, List.filterMap_append, noReports, agrees.reports,
          List.append_nil]
      · rcases stops with isStop | isInquire
        · exact .inl ⟨isStop, answered.records_of_stop isStop⟩
        · exact .inr isInquire

/-- The books of an invocation balance if the sink answers at once. -/
theorem upshot_balances (sink : Sink Outside) (request : Request) (session : Session Outside) :
    session.Balances request (session.upshot sink request) := by
  have orderly := Interpreter.runScript_orderly session.engine.roundLimit
    request.script.statements (session.workspace.enter request.mode request.arguments)
  refine ⟨Yields.atOnce.session_eq.1, Yields.atOnce.numbered, fun outcome isOk => ?_,
    fun record isStopped => ?_⟩
  · obtain ⟨answers, now, leads, books, rfl⟩ := upshot_completed isOk
    refine ⟨answers, now, leads, books.outputs, books.errors, books.reports, rfl, ?_⟩
    intro before record after isAmong isThrown
    exact (leads.records_thrown_last orderly isAmong isThrown).1
  · obtain ⟨answers, now, next, leads, books, stops⟩ := upshot_stopped isStopped
    have all : request.action.kept (Answer.records answers) = Answer.records answers ∧
        request.action.reported (Answer.records answers) = Answer.records answers := by
      rcases stops with ⟨isStop, none⟩ | isInquire
      · rw [isStop, none]
        exact ⟨rfl, rfl⟩
      · rw [isInquire]
        exact ⟨rfl, rfl⟩
    refine ⟨answers, now, next, leads, books.outputs, ?_, ?_, fun before isBefore isThrown => ?_⟩
    · rw [books.errors, all.1]
    · rw [books.reports, all.2]
    · obtain ⟨earlier, later, isAmong⟩ := List.append_of_mem isBefore
      obtain ⟨_, now, atEnd⟩ := leads.records_thrown_last orderly isAmong isThrown
      cases atEnd

/-- The books of an invocation balance, whatever it comes to. -/
theorem Yields.balances {upshot : Upshot Outside} (yields : session.Yields sink request upshot) :
    session.Balances request upshot := by
  refine ⟨yields.session_eq.1, yields.numbered, fun outcome isOk => ?_, fun record isStopped => ?_⟩
  · rcases yields.of_not_cancelled (.inl ⟨outcome, isOk⟩) with rfl | rfl
    · exact (session.upshot_balances sink request).completed outcome isOk
    · exact (session.upshot_balances sink.steadfast request).completed outcome isOk
  · rcases yields.of_not_cancelled (.inr ⟨record, isStopped⟩) with rfl | rfl
    · exact (session.upshot_balances sink request).stopped record isStopped
    · exact (session.upshot_balances sink.steadfast request).stopped record isStopped

end Session

/-! ### Numbers -/

/-- Invocations on an engine, one after the other, with the numbers that they take. Between them
the workspace and what is outside may become anything. -/
inductive Engine.Invokes (Outside : Type) : Engine → List Nat → Prop where
  | nothing (engine : Engine) : Invokes Outside engine []
  | invoke {sink : Sink Outside} {request : Request} {session : Session Outside}
    {upshot : Upshot Outside} {numbers : List Nat} (yields : session.Yields sink request upshot)
    (later : Invokes Outside upshot.session.engine numbers) :
    Invokes Outside session.engine (session.engine.next :: numbers)

namespace Engine.Invokes

variable {Outside : Type} {engine : Engine} {numbers : List Nat}

/-- No number is taken that was taken before. -/
theorem le_of_mem (invokes : Invokes Outside engine numbers) :
    ∀ number ∈ numbers, engine.next ≤ number := by
  induction invokes with
  | nothing engine => exact nofun
  | invoke yields _ inductionHypothesis =>
    rw [yields.session_eq.1] at inductionHypothesis
    intro number isTaken
    rcases List.mem_cons.mp isTaken with rfl | isLater
    · exact Nat.le_refl _
    · exact Nat.le_of_succ_le (inductionHypothesis number isLater)

theorem pairwise (invokes : Invokes Outside engine numbers) : numbers.Pairwise (· < ·) := by
  induction invokes with
  | nothing engine => exact .nil
  | invoke yields later inductionHypothesis =>
    refine .cons (fun number isLater => ?_) inductionHypothesis
    have above := later.le_of_mem number isLater
    rw [yields.session_eq.1] at above
    exact above

end Engine.Invokes

namespace Session

/-- The books of every invocation balance: at the end of its script the summary, the log and the
sink have the values and errors of the course that the script took; when an error stops the
script, log and sink have those before it; and the numbers that invocations take strictly
increase, however they end. -/
theorem yields_balance {Outside : Type} {sink : Sink Outside} {request : Request}
    {session : Session Outside} {upshot : Upshot Outside}
    (yields : session.Yields sink request upshot) :
    session.Balances request upshot ∧
      ∀ numbers, Engine.Invokes Outside upshot.session.engine numbers →
        (session.engine.next :: numbers).Pairwise (· < ·) :=
  ⟨yields.balances, fun _ later => (Engine.Invokes.invoke yields later).pairwise⟩

/-- Of two values and an error between them, the summary counts all, and the next invocation takes
the next number. -/
theorem yields_balance_interrupted :
    let upshot := beginning.upshot (.collector true) (interrupted .inquire)
    beginning.Balances (interrupted .inquire) upshot ∧
      upshot.result.toOption = some ⟨1, 2, 1⟩ ∧ [1, 2].Pairwise (· < ·) := by
  intro upshot
  obtain ⟨balances, increasing⟩ := yields_balance (.atOnce : beginning.Yields (.collector true)
    (interrupted .inquire) upshot)
  have again : upshot.session.Yields (.collector true) (interrupted .stop) _ := .atOnce
  exact ⟨balances, rfl, increasing [2] (.invoke again (.nothing _))⟩

end Session

end SlashScript
