/-
This file compares the error actions that let an invocation go on after its errors. They agree on
everything but the errors: the values that are handed over, the variables that are left and the
way in which the invocation ends are the same under each of them. They differ in what is reported
and in what the log and the summary keep.

All of them are compared with one host that takes every value and keeps every error. The host
makes no calls and asks nobody, so what it writes down belongs to the script and not to an
action.
-/

import SlashScript.Proofs.Calls

namespace SlashScript

/-! ### Actions that let errors pass -/

/-- The value that a call hands over. -/
def SinkCall.output? : SinkCall → Option OutputEvent
  | output event => some event
  | report _ => none
  | inquire _ _ => none

/-- The error that a call reports. -/
def SinkCall.report? : SinkCall → Option ErrorRecord
  | output _ => none
  | report record => some record
  | inquire _ _ => none

namespace ErrorAction

/-- What becomes of an error that the action lets pass. -/
def keeping : ErrorAction → Keeping
  | ignore => .dropped
  | _ => .logged

/-- The errors that an action keeps, of those that it lets pass. -/
def kept : ErrorAction → List ErrorRecord → List ErrorRecord
  | ignore, _ => []
  | _, records => records

/-- The errors that an action reports, of those that it lets pass. -/
def reported : ErrorAction → List ErrorRecord → List ErrorRecord
  | proceed, records => records
  | inquire, records => records
  | _, _ => []

theorem kept_append (action : ErrorAction) (earlier later : List ErrorRecord) :
    action.kept (earlier ++ later) = action.kept earlier ++ action.kept later := by
  cases action <;> rfl

theorem reported_append (action : ErrorAction) (earlier later : List ErrorRecord) :
    action.reported (earlier ++ later) = action.reported earlier ++ action.reported later := by
  cases action <;> rfl

end ErrorAction

namespace Sink

variable {Outside : Type} {sink : Sink Outside} {action : ErrorAction}

/-- No error ends the invocation: if the sink is asked, it always wants to go on. -/
def Tolerates (sink : Sink Outside) (action : ErrorAction) : Prop :=
  action ≠ .stop ∧
    (action = .inquire → ∀ record outside, (sink.inquire record outside).1 = true)

theorem Tolerates.judge (tolerates : sink.Tolerates action) (record : ErrorRecord)
    (outside : Outside) : (action.judge sink record outside).1 = action.keeping.verdict := by
  cases action with
  | silent => rfl
  | stop => exact absurd rfl tolerates.1
  | proceed => rfl
  | inquire =>
    rw [judge_inquire, tolerates.2 rfl record outside]
    rfl
  | ignore => rfl

/-- Because of an error that it lets pass, an action hands over no value and reports the error
if it reports errors. -/
theorem Tolerates.callsFor (tolerates : sink.Tolerates action) (record : ErrorRecord)
    (outside : Outside) :
    (sink.callsFor action record outside).filterMap SinkCall.output? = [] ∧
      (sink.callsFor action record outside).filterMap SinkCall.report? =
        action.reported [record] := by
  cases action with
  | silent => exact ⟨rfl, rfl⟩
  | stop => exact absurd rfl tolerates.1
  | proceed => exact ⟨rfl, rfl⟩
  | inquire =>
    unfold Sink.callsFor
    rw [tolerates.2 rfl record outside]
    exact ⟨rfl, rfl⟩
  | ignore => exact ⟨rfl, rfl⟩

/-- An error that is let pass counts if it is kept. -/
theorem Tolerates.settle_errors (tolerates : sink.Tolerates action) (record : ErrorRecord)
    (delivery : Delivery Outside) :
    (sink.settle action record delivery).errors =
      delivery.errors + (action.kept [record]).length := by
  unfold settle
  rw [tolerates.judge]
  cases action <;> rfl

end Sink

/-! ### A host that takes everything -/

/-- A host that takes all values and keeps all errors, and writes both down. -/
def Host.tolerant (invocation : Nat) : Host (List OutputEvent × List ErrorRecord) where
  isCancelled _ := false
  take value handed := some (handed.1 ++ [⟨invocation, handed.1.length, value⟩], handed.2)
  judge record handed := (.log, handed.1, handed.2 ++ [record])

namespace Run

variable {Result : Type}

/-- A host that takes everything ends no run. -/
theorem serve_tolerant_ending (run : Run Workspace Result) (invocation : Nat)
    (handed : List OutputEvent × List ErrorRecord) :
    (∃ result, (run.serve (.tolerant invocation) handed).ending = .finished result) ∨
      (run.serve (.tolerant invocation) handed).ending = .exhausted := by
  induction run generalizing handed with
  | done result now => exact .inl ⟨result, rfl⟩
  | exhausted now => exact .inr rfl
  | poll now next inductionHypothesis => exact inductionHypothesis () handed
  | emit value now next inductionHypothesis => exact inductionHypothesis () _
  | raise record now next inductionHypothesis => exact inductionHypothesis .logged _

/-- With a host that takes everything, the log grows by the errors that are handed over. -/
theorem serve_tolerant_errors {allowed : List Touch} {run : Run Workspace Result}
    {start : Workspace} (only : run.WritesOnly allowed start) (invocation : Nat)
    (events : List OutputEvent) (earlier : List ErrorRecord) :
    ∃ raised, (run.serve (.tolerant invocation) (events, earlier)).outside.2 = earlier ++ raised ∧
      (run.serve (.tolerant invocation) (events, earlier)).state.errors =
        start.errors ++ raised := by
  induction run generalizing start events earlier with
  | done result now =>
    refine ⟨[], (List.append_nil _).symm, ?_⟩
    rw [List.append_nil, ← Workspace.Reaches.errors only]
    rfl
  | exhausted now =>
    refine ⟨[], (List.append_nil _).symm, ?_⟩
    rw [List.append_nil, ← Workspace.Reaches.errors only]
    rfl
  | poll now next inductionHypothesis =>
    rw [← only.1.errors]
    exact inductionHypothesis () only.2 events earlier
  | emit value now next inductionHypothesis =>
    rw [← only.1.errors]
    exact inductionHypothesis () only.2 _ earlier
  | raise record now next inductionHypothesis =>
    obtain ⟨raised, handed, log⟩ :=
      inductionHypothesis .logged (only.2 .logged) events (earlier ++ [record])
    refine ⟨record :: raised, handed.trans (List.append_assoc _ _ _), log.trans ?_⟩
    rw [← only.1.errors]
    exact List.append_assoc _ _ _

end Run

/-! ### Runs against the host that takes everything -/

/-- The first of two runs has its errors kept in the given way, the second has all of them kept
in the log. If the first has them dropped, its log stays as given. -/
def Matching.against (errors : List ErrorRecord) : Keeping → Matching
  | .logged => .same
  | .dropped =>
    ⟨fun left right => left = { right with errors := errors }, fun left _ => left = .dropped, False⟩

/-- Writes do not look at the log. -/
theorem Workspace.set_withErrors (workspace : Workspace) (errors : List ErrorRecord)
    (name : String) (value : Value) :
    { workspace with errors := errors }.set name value =
      { workspace.set name value with errors := errors } := by
  obtain ⟨locals, global, frames, _⟩ := workspace
  cases locals <;> rfl

theorem Matching.against_closed (errors : List ErrorRecord) (keeping : Keeping)
    (allowed : List Touch) : (Matching.against errors keeping).Closed allowed := by
  cases keeping with
  | logged => exact .eq allowed False
  | dropped =>
    exact {
      get? := by
        rintro _ right name rfl
        rfl
      arguments := by
        rintro _ right rfl
        rfl
      set := by
        rintro _ right name value _ rfl
        exact right.set_withErrors errors name value
      setGlobal := by
        rintro _ right name value _ rfl
        rfl
      unset := by
        rintro _ right name _ rfl
        rfl
      keep := by
        rintro _ right _ keeping record rfl rfl
        cases keeping <;> rfl }

/-- A run that starts from the log matches itself. -/
theorem Matching.against_states (keeping : Keeping) (workspace : Workspace) :
    (Matching.against workspace.errors keeping).states workspace workspace := by
  cases keeping <;> rfl

/-- The first of two workspaces that agree is the second, up to the errors that were kept. -/
theorem Matching.against_eq {errors raised : List ErrorRecord} {action : ErrorAction}
    {left right : Workspace} (states : (Matching.against errors action.keeping).states left right)
    (log : right.errors = errors ++ raised) :
    left = { right with errors := errors ++ action.kept raised } := by
  have kept : { right with errors := errors ++ raised } = right := by
    rw [← log]
  cases action with
  | ignore =>
    show left = { right with errors := errors ++ [] }
    rw [List.append_nil]
    exact states
  | silent => exact Eq.trans states kept.symm
  | stop => exact Eq.trans states kept.symm
  | proceed => exact Eq.trans states kept.symm
  | inquire => exact Eq.trans states kept.symm

/-- What a host that takes everything answers to an error, a host that keeps it in the given way
may answer too. -/
theorem Matching.against_verdicts (errors : List ErrorRecord) (keeping : Keeping) :
    Verdict.Matches (Matching.against errors keeping).keepings keeping.verdict
      Keeping.logged.verdict := by
  cases keeping <;> exact .keep rfl

namespace Sink

variable {Outside : Type} {sink : Sink Outside} {action : ErrorAction}

/-- What was delivered under an action that lets errors pass, when these values and errors were
handed over. -/
structure Delivered (sink : Sink Outside) (action : ErrorAction)
    (delivery : Delivery (Outside × List SinkCall))
    (handed : List OutputEvent × List ErrorRecord) : Prop where
  live : sink.recorded.isCancelled delivery.outside = false
  emitted : delivery.emitted = handed.1.length
  errors : delivery.errors = (action.kept handed.2).length
  outputs : delivery.outside.2.filterMap SinkCall.output? = handed.1
  reports : delivery.outside.2.filterMap SinkCall.report? = action.reported handed.2

theorem Delivered.push (quiet : sink.Quiet) {delivery : Delivery (Outside × List SinkCall)}
    {handed : List OutputEvent × List ErrorRecord}
    (delivered : sink.Delivered action delivery handed) (invocation : Nat) (value : Value) :
    sink.Delivered action (sink.recorded.push invocation value delivery)
      (handed.1 ++ [⟨invocation, handed.1.length, value⟩], handed.2) where
  live := quiet.recorded.push delivered.live invocation value
  emitted := by
    rw [List.length_append, ← delivered.emitted]
    rfl
  errors := delivered.errors
  outputs := by
    show (delivery.outside.2 ++ [_]).filterMap _ = _
    rw [List.filterMap_append, delivered.outputs, ← delivered.emitted]
    rfl
  reports := by
    show (delivery.outside.2 ++ [_]).filterMap _ = _
    rw [List.filterMap_append, delivered.reports]
    exact List.append_nil _

theorem Delivered.settle (quiet : sink.Quiet) (tolerates : sink.Tolerates action)
    {delivery : Delivery (Outside × List SinkCall)}
    {handed : List OutputEvent × List ErrorRecord}
    (delivered : sink.Delivered action delivery handed) (record : ErrorRecord) :
    sink.Delivered action (sink.recorded.settle action record delivery)
      (handed.1, handed.2 ++ [record]) where
  live := quiet.recorded.settle delivered.live action record
  emitted := delivered.emitted
  errors := by
    rw [settle_recorded, tolerates.settle_errors, action.kept_append, List.length_append,
      ← delivered.errors]
    rfl
  outputs := by
    rw [settle_recorded, List.filterMap_append, (tolerates.callsFor record _).1, delivered.outputs]
    exact List.append_nil _
  reports := by
    rw [settle_recorded, List.filterMap_append, (tolerates.callsFor record _).2, delivered.reports,
      action.reported_append]

/-- Under an action that lets errors pass, a sink takes what the host takes that takes
everything. -/
theorem recorded_mirrors_tolerant (quiet : sink.Quiet) (tolerates : sink.Tolerates action)
    (invocation : Nat) (errors : List ErrorRecord) :
    (sink.recorded.host action invocation).Mirrors (Matching.against errors action.keeping).keepings
      (sink.Delivered action) (.tolerant invocation) where
  isCancelled delivered := delivered.live
  take value delivered := by
    show Option.Rel _ (sink.recorded.deliver _ _ _) _
    rw [deliver_of_live delivered.live]
    exact .some (delivered.push quiet invocation value)
  judge record delivered := by
    show Verdict.Matches _ (sink.recorded.judge _ _ _).1 _ ∧
      sink.Delivered _ (sink.recorded.judge _ _ _).2 _
    rw [judge_of_live delivered.live, judge_recorded, tolerates.judge]
    exact ⟨Matching.against_verdicts errors action.keeping,
      delivered.settle quiet tolerates record⟩

end Sink

/-! ### Errors that a script raises -/

/-- The host, which also writes down the errors that are handed to it. -/
def Host.observed {Outside : Type} (host : Host Outside) :
    Host (Outside × List ErrorRecord) where
  isCancelled outside := host.isCancelled outside.1
  take value outside := (host.take value outside.1).map fun after => (after, outside.2)
  judge record outside :=
    ((host.judge record outside.1).1, (host.judge record outside.1).2, outside.2 ++ [record])

theorem Sink.observed_mirrors_tolerant {Outside : Type} {sink : Sink Outside}
    {action : ErrorAction} (quiet : sink.Quiet) (tolerates : sink.Tolerates action)
    (invocation : Nat) (errors : List ErrorRecord) :
    (sink.host action invocation).observed.Mirrors (Matching.against errors action.keeping).keepings
      (fun observed handed => sink.isCancelled observed.1.outside = false ∧ observed.2 = handed.2)
      (.tolerant invocation) where
  isCancelled agree := agree.1
  take value agree := by
    show Option.Rel _ ((sink.deliver _ _ _).map _) _
    rw [deliver_of_live agree.1]
    exact .some ⟨quiet.push agree.1 invocation value, agree.2⟩
  judge record agree := by
    show Verdict.Matches _ (sink.judge _ _ _).1 _ ∧
      sink.isCancelled (sink.judge _ _ _).2.outside = false ∧ _ ++ [record] = _
    rw [judge_of_live agree.1, tolerates.judge, agree.2]
    exact ⟨Matching.against_verdicts errors action.keeping,
      quiet.settle agree.1 action record, rfl⟩

/-! ### Invocations that go on after errors -/

namespace Session

variable {Outside : Type}

/-- The errors that the script of a request raises, in order and whatever becomes of them. -/
def raised (sink : Sink Outside) (request : Request) (session : Session Outside) :
    List ErrorRecord :=
  ((session.run request).serve (sink.host request.action session.engine.next).observed
    (⟨session.outside, 0, 0⟩, [])).outside.2

/-- The end of the script of a request, with a host that takes everything. -/
def tolerated (request : Request) (session : Session Outside) :
    Ended Workspace Unit (List OutputEvent × List ErrorRecord) :=
  (session.run request).serve (.tolerant session.engine.next) ([], [])

/-- A script comes to the same end with every host that lets errors pass. -/
theorem serve_tolerated {Place : Type} {host : Host Place} {keeping : Keeping}
    (request : Request) (session : Session Outside)
    {agree : Place → List OutputEvent × List ErrorRecord → Prop}
    (mirrors : host.Mirrors (Matching.against session.workspace.errors keeping).keepings agree
      (.tolerant session.engine.next))
    (outside : Place) (agrees : agree outside ([], [])) :
    Ended.Matches (Matching.against session.workspace.errors keeping).states agree
      ((session.run request).serve host outside) (session.tolerated request) := by
  have runs : Run.Matches (Matching.against session.workspace.errors keeping)
      (session.run request) (session.run request) :=
    Interpreter.runScript_matches (Matching.against_closed session.workspace.errors keeping _)
      (.inl rfl) request.script.statements (List.Subset.refl _)
      (Matching.against_states keeping (session.workspace.enter request.mode request.arguments))
  rcases runs.serve mirrors agrees with ⟨short, _⟩ | ended
  · cases keeping <;> exact short.elim
  · exact ended

/-- An invocation that comes to the end of its script, handing over these values and raising these
errors. The workspace that it leaves is given up to the log. -/
structure Passes (sink : Sink Outside) (request : Request) (events : List OutputEvent)
    (records : List ErrorRecord) (left : Workspace) (session : Session Outside) : Prop where
  raised : session.raised sink request = records
  outputs : (session.calls sink request).filterMap SinkCall.output? = events
  reports : (session.calls sink request).filterMap SinkCall.report? =
    request.action.reported records
  result : (session.invoke sink request).1 =
    .ok ⟨session.engine.next, events.length, (request.action.kept records).length⟩
  workspace : (session.invoke sink request).2.workspace =
    { left with errors := session.workspace.errors ++ request.action.kept records }

section

variable {sink : Sink Outside} {request : Request} {session : Session Outside}

/-- With a sink that lets errors pass, the script ends as with a host that takes everything. -/
theorem served_tolerated (quiet : sink.Quiet) (tolerates : sink.Tolerates request.action)
    (live : sink.isCancelled session.outside = false) :
    Ended.Matches (Matching.against session.workspace.errors request.action.keeping).states
      (sink.Delivered request.action) (session.recording.served sink.recorded request)
      (session.tolerated request) := by
  have mirrors := Sink.recorded_mirrors_tolerant quiet tolerates session.engine.next
    session.workspace.errors
  refine session.recording.serve_tolerated request mirrors ⟨session.recording.outside, 0, 0⟩
    ⟨live, rfl, ?_, rfl, ?_⟩
  · cases request.action <;> rfl
  · cases request.action <;> rfl

/-- With a sink that lets errors pass, the script raises what it raises with a host that takes
everything. -/
theorem raised_tolerated (quiet : sink.Quiet) (tolerates : sink.Tolerates request.action)
    (live : sink.isCancelled session.outside = false) :
    session.raised sink request = (session.tolerated request).outside.2 := by
  have mirrors := Sink.observed_mirrors_tolerant quiet tolerates session.engine.next
    session.workspace.errors
  have ended := session.serve_tolerated request mirrors (⟨session.outside, 0, 0⟩, []) ⟨live, rfl⟩
  exact ended.outside.2

/-- An invocation that lets errors pass and does not run out of rounds comes to its end. -/
theorem tolerated_finished (quiet : sink.Quiet) (tolerates : sink.Tolerates request.action)
    (live : sink.isCancelled session.outside = false)
    (ends : (session.invoke sink request).1 ≠ .error .exhausted) :
    (session.tolerated request).ending = .finished () := by
  rcases (session.run request).serve_tolerant_ending session.engine.next ([], []) with
    ⟨_, finished⟩ | exhausted
  · exact finished
  · refine absurd ?_ ends
    have ending := (served_tolerated quiet tolerates live).ending.trans exhausted
    rw [invoke_of_recording live, ending]
    rfl

/-- The invocation is described by the run with a host that takes everything. -/
theorem passes_tolerated (quiet : sink.Quiet) (tolerates : sink.Tolerates request.action)
    (live : sink.isCancelled session.outside = false)
    (finished : (session.tolerated request).ending = .finished ()) :
    session.Passes sink request (session.tolerated request).outside.1
      (session.tolerated request).outside.2
      ((session.tolerated request).state.leave session.workspace) := by
  have only := Interpreter.runScript_writesOnly session.engine.roundLimit
    request.script.statements (session.workspace.enter request.mode request.arguments)
  obtain ⟨ending, states, delivered⟩ := served_tolerated quiet tolerates live
  obtain ⟨records, handed, log⟩ := Run.serve_tolerant_errors only session.engine.next [] []
  constructor
  · exact raised_tolerated quiet tolerates live
  · rw [calls_of_live live]
    exact delivered.outputs
  · rw [calls_of_live live]
    exact delivered.reports
  · rw [invoke_of_recording live, ending, finished, ← delivered.emitted, ← delivered.errors]
    rfl
  -- Under an action that forgets errors only the log differs from that of the other host.
  · have same := Matching.against_eq states log
    have handedOver : (session.tolerated request).outside.2 = records := handed
    rw [invoke_of_recording live, handedOver]
    show (session.recording.served sink.recorded request).state.leave session.workspace = _
    rw [same]
    rfl

end

/-- If an invocation that lets errors pass does not go on for ever, then under every action, and
with every sink, that lets errors pass the same values are handed over, the same errors are raised
and the same variables are left. Only the reports, the log and the count of errors follow the
action. -/
theorem invoke_passes {sink : Sink Outside} (quiet : sink.Quiet) (request : Request)
    (tolerates : sink.Tolerates request.action) (session : Session Outside)
    (live : sink.isCancelled session.outside = false)
    (ends : (session.invoke sink request).1 ≠ .error .exhausted) :
    ∃ (events : List OutputEvent) (records : List ErrorRecord) (left : Workspace),
      ∀ {Other : Type} {other : Sink Other} {action : ErrorAction} (outside : Other),
        other.Quiet → other.Tolerates action → other.isCancelled outside = false →
          (⟨session.engine, session.workspace, outside⟩ : Session Other).Passes other
            (request.under action) events records left := by
  have finished := tolerated_finished quiet tolerates live ends
  refine ⟨(session.tolerated request).outside.1, (session.tolerated request).outside.2,
    (session.tolerated request).state.leave session.workspace, ?_⟩
  intro Other other action outside otherQuiet otherTolerates otherLive
  let elsewhere : Session Other := ⟨session.engine, session.workspace, outside⟩
  have elsewhereFinished : (elsewhere.tolerated (request.under action)).ending = .finished () :=
    finished
  exact passes_tolerated otherQuiet otherTolerates otherLive elsewhereFinished

/-- An error between two values is dropped by one action as it is reported by another. -/
theorem invoke_passes_interrupted :
    ∃ left, beginning.Passes (.collector true) (interrupted .ignore)
      [⟨1, 0, .text "before"⟩, ⟨1, 1, .text "after"⟩] [⟨.nonTerminating, "between"⟩] left := by
  have tolerates : (Sink.collector true).Tolerates .inquire := by
    refine ⟨?_, fun _ _ _ => rfl⟩
    intro isStop
    cases isStop
  have ignores : (Sink.collector true).Tolerates .ignore := by
    refine ⟨?_, fun _ _ _ => rfl⟩
    intro isStop
    cases isStop
  have ends : (beginning.invoke (.collector true) (interrupted .inquire)).1 ≠
      .error .exhausted := by
    intro isExhausted
    cases isExhausted
  obtain ⟨events, records, left, passes⟩ :=
    invoke_passes (Sink.collector_quiet true) (interrupted .inquire) tolerates beginning rfl ends
  have ignored := passes [] (Sink.collector_quiet true) ignores rfl
  refine ⟨left, ?_⟩
  have sameEvents : [⟨1, 0, .text "before"⟩, ⟨1, 1, .text "after"⟩] = events := ignored.outputs
  have sameRecords : [⟨.nonTerminating, "between"⟩] = records := ignored.raised
  rw [sameEvents, sameRecords]
  exact ignored

end Session

end SlashScript
