/-
This file relates an invocation that ends at its first error to the one that reports its errors
and goes on. The first makes the calls of the second up to the first report, and nothing after
it; where nothing is reported the two are the same. It does not matter how deep in blocks and
loops the error is raised, since the run is left at the request that raised it.

Nor does it matter whether the second invocation ever comes to an end. A loop that goes on after
the first error takes rounds that the first invocation never sees, and so the first ends in the
same way however many rounds are allowed.
-/

import SlashScript.Proofs.Calls

namespace SlashScript

/-! ### Actions that end an invocation -/

namespace Sink

variable {Outside : Type} {sink : Sink Outside} {action : ErrorAction}

/-- Every error ends the invocation, at once or because the sink never wants to go on. -/
def Refuses (sink : Sink Outside) (action : ErrorAction) : Prop :=
  action = .stop ∨ action = .inquire ∧ ∀ record outside, (sink.inquire record outside).1 = false

/-- The calls that an action makes of a sink because of the error that ends the invocation. -/
def refusalCalls (action : ErrorAction) (record : ErrorRecord) : List SinkCall :=
  if action = .inquire then [.inquire record false] else []

theorem Refuses.judge (refuses : sink.Refuses action) (record : ErrorRecord) (outside : Outside) :
    (action.judge sink record outside).1 = .stop := by
  rcases refuses with rfl | ⟨rfl, declines⟩
  · rfl
  · rw [judge_inquire, declines record outside]
    rfl

theorem Refuses.callsFor (refuses : sink.Refuses action) (record : ErrorRecord)
    (outside : Outside) : sink.callsFor action record outside = refusalCalls action record := by
  rcases refuses with rfl | ⟨rfl, declines⟩
  · rfl
  · unfold Sink.callsFor
    rw [declines record outside]
    rfl

end Sink

/-! ### A run that is cut at its first report -/

/-- The second of two ends is the first, cut where the first has its first report. The calls
before the two runs are given, and the log in which the second is to end. -/
inductive Ended.Cut {Result Outside : Type} (action : ErrorAction) (before : List SinkCall)
    (errors : List ErrorRecord)
    (whole cut : Ended Workspace Result (Delivery (Outside × List SinkCall))) : Prop where
  /-- Nothing is reported. -/
  | nowhere (events : List OutputEvent)
    (calls : whole.outside.outside.2 = before ++ events.map .output) (same : cut = whole)
  | first (events : List OutputEvent) (record : ErrorRecord) (rest : List SinkCall)
    (calls : whole.outside.outside.2 = before ++ (events.map .output ++ .report record :: rest))
    (cutCalls : cut.outside.outside.2 =
      before ++ (events.map .output ++ Sink.refusalCalls action record))
    (ending : cut.ending = .stopped record) (log : cut.state.errors = errors)

/-- A value that was handed over before both runs may be counted to both. -/
theorem Ended.Cut.output {Result Outside : Type} {action : ErrorAction} {before : List SinkCall}
    {errors : List ErrorRecord}
    {whole cut : Ended Workspace Result (Delivery (Outside × List SinkCall))}
    {event : OutputEvent} (isCut : whole.Cut action (before ++ [.output event]) errors cut) :
    whole.Cut action before errors cut := by
  cases isCut with
  | nowhere events calls same =>
    refine .nowhere (event :: events) ?_ same
    rw [calls, List.append_assoc]
    rfl
  | first events record rest calls cutCalls ending log =>
    refine .first (event :: events) record rest ?_ ?_ ending log
    · rw [calls, List.append_assoc]
      rfl
    · rw [cutCalls, List.append_assoc]
      rfl

section

variable {Outside Result : Type} {sink : Sink Outside} {action : ErrorAction}
  {allowed : List Touch}

/-- A run that an error ends is cut there. -/
theorem Run.serve_cut (quiet : sink.Quiet) (refuses : sink.Refuses action) (invocation : Nat)
    {run : Run Workspace Result} {start : Workspace} (only : run.WritesOnly allowed start)
    (delivery : Delivery (Outside × List SinkCall))
    (live : sink.recorded.isCancelled delivery.outside = false) :
    (run.serve (sink.recorded.host .proceed invocation) delivery).Cut action delivery.outside.2
      start.errors (run.serve (sink.recorded.host action invocation) delivery) := by
  induction run generalizing start delivery with
  | done result now => exact .nowhere [] (List.append_nil _).symm rfl
  | exhausted now => exact .nowhere [] (List.append_nil _).symm rfl
  | poll now next inductionHypothesis =>
    have rest := inductionHypothesis () only.2 delivery live
    rw [only.1.errors] at rest
    rw [Run.serve, Run.serve]
    show Ended.Cut action _ _ (if sink.recorded.isCancelled delivery.outside then _ else _)
      (if sink.recorded.isCancelled delivery.outside then _ else _)
    rw [live]
    exact rest
  | emit value now next inductionHypothesis =>
    have rest := inductionHypothesis () only.2 _ (quiet.recorded.push live invocation value)
    rw [only.1.errors] at rest
    have taken := Sink.deliver_of_live live invocation value
    rw [Run.serve_emit_of_take taken, Run.serve_emit_of_take taken]
    exact rest.output
  | raise record now next inductionHypothesis =>
    -- The whole run goes on after the report, and adds its calls after it.
    have reported := Sink.judge_of_live live .proceed record
    have refused := Sink.judge_of_live live action record
    rw [Sink.judge_recorded, Sink.settle_recorded] at reported refused
    rw [refuses.judge, refuses.callsFor] at refused
    have goesOn : (sink.recorded.host .proceed invocation).judge record delivery =
        (Keeping.logged.verdict, _) := reported
    rw [Run.serve_raise_of_keep goesOn, Run.serve_raise_of_stop refused]
    obtain ⟨rest, later⟩ := (next .logged).serve_recorded_extends sink .proceed invocation _
    refine .first [] record rest ?_ rfl rfl only.1.errors
    rw [← later]
    exact List.append_assoc _ _ _

end

/-! ### Invocations that end at their first error -/

namespace Session

variable {Outside : Type} {sink : Sink Outside} {action : ErrorAction} {session : Session Outside}

theorem served_cut (quiet : sink.Quiet) (refuses : sink.Refuses action) (request : Request)
    (live : sink.isCancelled session.outside = false) :
    (session.recording.served sink.recorded (request.under .proceed)).Cut action []
      session.workspace.errors
      (session.recording.served sink.recorded (request.under action)) :=
  have only := Interpreter.runScript_writesOnly session.engine.roundLimit
    request.script.statements (session.workspace.enter request.mode request.arguments)
  have recordingLive : sink.recorded.isCancelled session.recording.outside = false := live
  Run.serve_cut quiet refuses session.engine.next only ⟨session.recording.outside, 0, 0⟩
    recordingLive

/-- An invocation that hands over these values and then an error, which ends it. Nothing is
added to the log. -/
structure StopsAt (sink : Sink Outside) (request : Request) (events : List OutputEvent)
    (record : ErrorRecord) (session : Session Outside) : Prop where
  calls : session.calls sink request =
    events.map .output ++ Sink.refusalCalls request.action record
  result : (session.invoke sink request).1 = .error (.stopped record)
  log : (session.invoke sink request).2.workspace.errors = session.workspace.errors

/-- An invocation that an error ends does so however many rounds of a loop are allowed besides. -/
theorem StopsAt.withRoundLimit {request : Request} {events : List OutputEvent}
    {record : ErrorRecord} (stops : session.StopsAt sink request events record) {limit : Nat}
    (larger : session.engine.roundLimit ≤ limit) :
    (session.withRoundLimit limit).StopsAt sink request events record := by
  have ends : (session.invoke sink request).1 ≠ .error .exhausted := by
    rw [stops.result]
    intro isExhausted
    cases isExhausted
  constructor
  · rw [calls_withRoundLimit ends larger]
    exact stops.calls
  · rw [invoke_withRoundLimit ends larger]
    exact stops.result
  · rw [invoke_withRoundLimit ends larger]
    exact stops.log

/-- An invocation that an error ends is the one that goes on after errors, cut at its first
report. It ends there under every limit on rounds under which the other comes to the report. -/
theorem invoke_cut (quiet : sink.Quiet) (refuses : sink.Refuses action) (request : Request)
    (session : Session Outside) :
    ((∀ record, .report record ∉ session.calls sink (request.under .proceed)) →
      session.calls sink (request.under action) = session.calls sink (request.under .proceed) ∧
        session.invoke sink (request.under action) =
          session.invoke sink (request.under .proceed)) ∧
    ((∃ record, .report record ∈ session.calls sink (request.under .proceed)) →
      ∃ (events : List OutputEvent) (record : ErrorRecord) (rest : List SinkCall),
        session.calls sink (request.under .proceed) =
            events.map .output ++ .report record :: rest ∧
          ∀ limit, session.engine.roundLimit ≤ limit →
            (session.withRoundLimit limit).StopsAt sink (request.under action) events record) := by
  cases live : sink.isCancelled session.outside with
  | true =>
    rw [calls_of_cancelled live, calls_of_cancelled live, invoke_of_cancelled live,
      invoke_of_cancelled live]
    refine ⟨fun _ => ⟨rfl, rfl⟩, fun ⟨record, reported⟩ => ?_⟩
    cases reported
  | false =>
    have calls := calls_of_live live (request.under .proceed)
    cases served_cut quiet refuses request live with
    | nowhere events wholeCalls same =>
      refine ⟨fun _ => invoke_eq_of_recording same, fun ⟨record, reported⟩ => ?_⟩
      rw [calls, wholeCalls, List.nil_append] at reported
      obtain ⟨event, _, isOutput⟩ := List.mem_map.mp reported
      cases isOutput
    | first events record rest wholeCalls cutCalls ending log =>
      rw [← calls, List.nil_append] at wholeCalls
      rw [← calls_of_live live, List.nil_append] at cutCalls
      have stops : session.StopsAt sink (request.under action) events record := by
        refine ⟨cutCalls, ?_, ?_⟩
        · rw [invoke_of_recording live, ending]
          rfl
        · rw [invoke_of_recording live]
          exact log
      refine ⟨fun unreported => ?_, fun _ => ⟨events, record, rest, wholeCalls, fun limit larger =>
        stops.withRoundLimit larger⟩⟩
      refine absurd ?_ (unreported record)
      rw [wholeCalls]
      exact List.mem_append_right _ List.mem_cons_self

/-- The sink does not want to go on after an error between two values. -/
theorem invoke_cut_interrupted :
    beginning.StopsAt (.collector false) (interrupted .inquire) [⟨1, 0, .text "before"⟩]
      ⟨.nonTerminating, "between"⟩ := by
  have refuses : (Sink.collector false).Refuses .inquire := .inr ⟨rfl, fun _ _ => rfl⟩
  have whole : beginning.calls (.collector false) (interrupted .proceed) =
      [.output ⟨1, 0, .text "before"⟩, .report ⟨.nonTerminating, "between"⟩,
        .output ⟨1, 1, .text "after"⟩] := rfl
  have reported : ∃ record, .report record ∈
      beginning.calls (.collector false) (interrupted .proceed) := by
    rw [whole]
    exact ⟨⟨.nonTerminating, "between"⟩, .tail _ (.head _)⟩
  obtain ⟨events, record, rest, calls, stops⟩ :=
    (invoke_cut (Sink.collector_quiet false) refuses (interrupted .inquire) beginning).2 reported
  have compared := whole.symm.trans calls
  rcases events with _ | ⟨first, _ | ⟨second, more⟩⟩
  · cases compared
  · cases compared
    exact stops _ (Nat.le_refl _)
  · cases compared

end Session

end SlashScript
