/-
This file collects what an invocation may come to. If the sink answers every request at once there
is one upshot. If a worker runs the script and a consumer serves the sink, and a call of the sink
cancels the invocation while values are under way, then the upshot depends on how far the worker
has come by the time it notices, and there may be several.

Two things hold of all of them. The script is left at a place to which a course leads, so what its
writes preserve holds of the workspace in which it is left. And an invocation that was not
cancelled has come to what it comes to with a sink that never cancels, where there is one upshot
only.
-/

import SlashScript.Proofs.Channel.Refinement
import SlashScript.Proofs.Pipes

namespace SlashScript

open Relation

/-! ### Upshots -/

/-- What an invocation comes to. -/
structure Upshot (Outside : Type) where
  result : Except Failure Outcome
  /-- The workspace of the script when it was left. -/
  inside : Workspace
  /-- The session after the invocation. -/
  session : Session Outside
  /-- The calls that the sink got. -/
  calls : List SinkCall

namespace Session

variable {Outside : Type}

/-- The workspace of the script of a request when it is left, if the sink answers at once. -/
def inside (sink : Sink Outside) (request : Request) (session : Session Outside) : Workspace :=
  if sink.isCancelled session.outside then session.workspace.enter request.mode request.arguments
  else (session.served sink request).state

/-- What an invocation comes to if the sink answers at once. -/
def upshot (sink : Sink Outside) (request : Request) (session : Session Outside) :
    Upshot Outside where
  result := (session.invoke sink request).1
  inside := session.inside sink request
  session := (session.invoke sink request).2
  calls := session.calls sink request

theorem upshot_of_cancelled {sink : Sink Outside} {session : Session Outside}
    (cancelled : sink.isCancelled session.outside = true) (request : Request) :
    session.upshot sink request =
      ⟨.error .cancelled, session.workspace.enter request.mode request.arguments,
        ⟨session.advanced, session.workspace, session.outside⟩, []⟩ := by
  unfold upshot inside
  rw [invoke_of_cancelled cancelled, calls_of_cancelled cancelled, if_pos cancelled]

/-- What an invocation comes to can be read off the end of its script with the recorded sink. -/
theorem upshot_of_live {sink : Sink Outside} {session : Session Outside}
    (live : sink.isCancelled session.outside = false) (request : Request) :
    session.upshot sink request =
      ⟨conclude session.engine.next (session.recording.served sink.recorded request).outside
          (session.recording.served sink.recorded request).ending,
        (session.recording.served sink.recorded request).state,
        ⟨session.advanced,
          (session.recording.served sink.recorded request).state.leave session.workspace,
          (session.recording.served sink.recorded request).outside.outside.1⟩,
        (session.recording.served sink.recorded request).outside.outside.2⟩ := by
  unfold upshot inside
  rw [invoke_of_recording live, calls_of_live live, if_neg (ne_true_of_eq_false live),
    (session.served_recording sink request).state]

/-- What an invocation may come to. -/
inductive Yields (sink : Sink Outside) (request : Request) (session : Session Outside) :
    Upshot Outside → Prop where
  | atOnce : Yields sink request session (session.upshot sink request)
  /-- Worker and consumer have both ended, whatever was the order of their steps. -/
  | exchanged {state : Exchange (Outside × List SinkCall)} {ending : Ending Unit}
    {now : Workspace} {result : Except Failure Outcome}
    {after : Session (Outside × List SinkCall)}
    (live : sink.isCancelled session.outside = false)
    (reached : ReflTransGen (session.recording.channel sink.recorded request).Step
      (session.recording.opened request) state)
    (worker : state.worker = .ended ending now)
    (joined : session.recording.joined state = some (result, after)) :
    Yields sink request session ⟨result, now, plain after, after.outside.2⟩

end Session

/-! ### The course of the worker -/

/-- The worker is somewhere on the way of a run, with a course behind it. -/
inductive Worker.Follows (run : Run Workspace Unit) (answers : List Answer) : Worker → Prop where
  | running {rest : Run Workspace Unit} (leads : run.LeadsTo answers rest) :
    Follows run answers (.running rest)
  | waiting {question : Question} (leads : run.LeadsTo answers question.run) :
    Follows run answers (.waiting question)
  | ended {rest : Run Workspace Unit} {ending : Ending Unit} {now : Workspace}
    (leads : run.LeadsTo answers rest) (leaves : rest.Leaves ending) (shown : rest.shown = now) :
    Follows run answers (.ended ending now)

namespace Worker.Follows

variable {run rest : Run Workspace Unit} {answers : List Answer}

theorem of_running (follows : (Worker.running rest).Follows run answers) :
    run.LeadsTo answers rest := by
  cases follows with
  | running leads => exact leads

theorem of_waiting {question : Question} (follows : (Worker.waiting question).Follows run answers) :
    run.LeadsTo answers question.run := by
  cases follows with
  | waiting leads => exact leads

end Worker.Follows

theorem Question.follows_answer {run : Run Workspace Unit} {answers : List Answer}
    (question : Question) (leads : run.LeadsTo answers question.run) (reply : Reply) :
    ∃ answers, (question.answer reply).Follows run answers := by
  cases question with
  | output value now next =>
    have given : ∃ answers, (Worker.ended .cancelled now).Follows run answers :=
      ⟨_, .ended leads (.emit value now next) rfl⟩
    cases reply with
    | resume => exact ⟨_, .running (leads.append (.taken (.here _)))⟩
    | log => exact given
    | drop => exact given
    | stop => exact given
  | error record now next =>
    cases reply with
    | resume => exact ⟨_, .ended leads (.raise record now next) rfl⟩
    | log => exact ⟨_, .running (leads.append (.kept .logged (.here _)))⟩
    | drop => exact ⟨_, .running (leads.append (.kept .dropped (.here _)))⟩
    | stop => exact ⟨_, .ended leads (.stopped record now next) rfl⟩

namespace Channel

variable {Outside : Type} {channel : Channel Outside} {run : Run Workspace Unit}

theorem offer?_follows {rest : Run Workspace Unit} {event : Event} {after : Worker}
    (offers : channel.offer? rest = some (event, after)) {answers : List Answer}
    (leads : run.LeadsTo answers rest) : ∃ answers, after.Follows run answers := by
  rcases offer?_eq_some offers with
    ⟨question, _, rfl, _, rfl⟩ | ⟨value, now, next, _, rfl, _, rfl⟩
  · exact ⟨answers, .waiting leads⟩
  · exact ⟨_, .running (leads.append (.taken (.here _)))⟩

/-- Who finds nobody to send to leaves the script at a request. -/
theorem offer?_leaves {rest : Run Workspace Unit} {event : Event} {after : Worker}
    (offers : channel.offer? rest = some (event, after)) : rest.Leaves .cancelled := by
  rcases offer?_eq_some offers with
    ⟨question, _, rfl, _, _⟩ | ⟨value, now, next, _, rfl, _, _⟩
  · cases question with
    | output value now next => exact .emit value now next
    | error record now next => exact .raise record now next
  · exact .emit value now next

theorem Step.follows {state after : Exchange Outside} (step : channel.Step state after)
    (follows : ∃ answers, state.worker.Follows run answers) :
    ∃ answers, after.worker.Follows run answers := by
  obtain ⟨answers, follows⟩ := follows
  cases step with
  | goOn worker _ =>
    rw [worker] at follows
    exact ⟨_, .running (follows.of_running.append (.goOn (.here _)))⟩
  | quit worker _ =>
    rw [worker] at follows
    exact ⟨_, .ended follows.of_running (.poll _ _) rfl⟩
  | finish worker =>
    rw [worker] at follows
    exact ⟨_, .ended follows.of_running (.done _ _) rfl⟩
  | exhaust worker =>
    rw [worker] at follows
    exact ⟨_, .ended follows.of_running (.exhausted _) rfl⟩
  | enqueue worker offers _ _ =>
    rw [worker] at follows
    exact offer?_follows offers follows.of_running
  | handOver worker offers _ _ =>
    rw [worker] at follows
    exact offer?_follows offers follows.of_running
  | sendFails worker offers _ =>
    rw [worker] at follows
    exact ⟨_, .ended follows.of_running (offer?_leaves offers) rfl⟩
  | take worker _ =>
    rw [worker] at follows
    exact Question.follows_answer _ follows.of_waiting _
  | @hangUp question _ worker _ _ =>
    rw [worker] at follows
    cases question with
    | output value now next => exact ⟨_, .ended follows.of_waiting (.emit value now next) rfl⟩
    | error record now next => exact ⟨_, .ended follows.of_waiting (.raise record now next) rfl⟩
  | receive _ _ => exact ⟨answers, follows⟩
  | drained _ _ _ => exact ⟨answers, follows⟩
  | observe _ _ => exact ⟨answers, follows⟩
  | deliver _ _ => exact ⟨answers, follows⟩
  | judge _ _ => exact ⟨answers, follows⟩
  | reply _ _ _ => exact ⟨answers, follows⟩
  | replyFails _ _ => exact ⟨answers, follows⟩

/-- Whatever the parties do, the worker keeps to the way of its script. -/
theorem follows_of_reached {outside : Outside} {state : Exchange Outside}
    (reached : ReflTransGen channel.Step (start run outside) state) :
    ∃ answers, state.worker.Follows run answers := by
  induction reached with
  | refl => exact ⟨[], .running (.here run)⟩
  | tail _ step inductionHypothesis => exact step.follows inductionHypothesis

end Channel

/-! ### The place at which a script is left -/

/-- To leave a workspace that was just entered is to have done nothing. -/
theorem Workspace.leave_enter (workspace : Workspace) (mode : ScopeMode) (arguments : List Value) :
    (workspace.enter mode arguments).leave workspace = workspace := by
  obtain ⟨locals, global, frames, errors⟩ := workspace
  unfold enter leave
  cases mode with
  | newScope => simp only [List.length_cons, Nat.add_sub_cancel_left, List.drop_one, List.tail_cons]
  | callerScope =>
    simp only [List.length_cons, Nat.add_sub_cancel_left, Nat.sub_self, List.drop_zero,
      List.drop_one, List.tail_cons]

namespace Session

variable {Outside : Type} {sink : Sink Outside} {request : Request} {session : Session Outside}

/-- A script begins in the workspace that was entered. -/
theorem run_shown (request : Request) (session : Session Outside) :
    (session.run request).shown = session.workspace.enter request.mode request.arguments := by
  unfold run Interpreter.runScript
  cases request.script.statements <;> rfl

theorem joined_after {session : Session Outside} {state : Exchange Outside}
    {ending : Ending Unit} {now : Workspace} {result : Except Failure Outcome}
    {after : Session Outside} (worker : state.worker = .ended ending now)
    (joined : session.joined state = some (result, after)) :
    after = ⟨session.advanced, now.leave session.workspace, state.delivery.outside⟩ := by
  unfold Session.joined at joined
  rw [worker] at joined
  split at joined
  · rename_i ended _
    cases ended
    cases joined
    rfl
  · rename_i ended _
    cases ended
    cases joined
    rfl
  · cases joined

/-- An invocation takes its number, and then the workspace of its script is left. -/
theorem Yields.session_eq {upshot : Upshot Outside} (yields : session.Yields sink request upshot) :
    upshot.session.engine = session.advanced ∧
      upshot.session.workspace = upshot.inside.leave session.workspace := by
  cases yields with
  | atOnce =>
    cases live : sink.isCancelled session.outside with
    | true =>
      rw [upshot_of_cancelled live]
      exact ⟨rfl, (Workspace.leave_enter _ _ _).symm⟩
    | false =>
      rw [upshot_of_live live]
      exact ⟨rfl, rfl⟩
  | exchanged _ _ worker joined =>
    rw [joined_after worker joined]
    exact ⟨rfl, rfl⟩

/-- A script is left at a place to which a course leads. -/
theorem Yields.course {upshot : Upshot Outside} (yields : session.Yields sink request upshot) :
    ∃ answers rest, (session.run request).LeadsTo answers rest ∧ rest.shown = upshot.inside := by
  cases yields with
  | atOnce =>
    cases live : sink.isCancelled session.outside with
    | true =>
      rw [upshot_of_cancelled live]
      exact ⟨[], _, .here _, session.run_shown request⟩
    | false =>
      obtain ⟨answers, rest, after, answered, left⟩ := Run.serve_answered
        (sink.recorded.host request.action session.engine.next) (session.run request)
        ⟨(session.outside, []), 0, 0⟩
      rw [upshot_of_live live]
      exact ⟨answers, rest, answered.leadsTo, left.state_eq.symm⟩
  | exchanged _ reached worker _ =>
    obtain ⟨answers, follows⟩ := Channel.follows_of_reached reached
    rw [worker] at follows
    cases follows with
    | ended leads _ shown => exact ⟨answers, _, leads, shown⟩

end Session

/-! ### Invocations that are not cancelled -/

/-- A sink with the same effect which never cancels. -/
def Sink.steadfast {Outside : Type} (sink : Sink Outside) : Sink Outside :=
  { sink with isCancelled := fun _ => false }

theorem Sink.steadfast_quiet {Outside : Type} (sink : Sink Outside) : sink.steadfast.Quiet :=
  ⟨fun _ _ _ => rfl, fun _ _ _ => rfl, fun _ _ _ => rfl⟩

/-- The channel with a sink that never cancels. -/
def Channel.steadfast {Outside : Type} (channel : Channel Outside) : Channel Outside :=
  { channel with sink := channel.sink.steadfast }

namespace Exchange

variable {Outside : Type} {channel : Channel Outside} {state after : Exchange Outside}

/-- One of the parties has noticed that the invocation is cancelled, and will not take note of
anything else. -/
def Disturbed (state : Exchange Outside) : Prop :=
  (∃ now, state.worker = .ended .cancelled now) ∨
    state.consumer = .ended true ∧ state.slot = none ∧
      ∀ record now, state.worker ≠ .ended (.stopped record) now

/-- When an error has ended the script, no event is under way. -/
def Settled (state : Exchange Outside) : Prop :=
  ∀ record now, state.worker = .ended (.stopped record) now →
    state.queue = [] ∧ ∀ number event, state.consumer ≠ .handling number event

theorem Disturbed.step (disturbed : state.Disturbed) (step : channel.Step state after) :
    after.Disturbed := by
  rcases disturbed with ⟨now, ended⟩ | ⟨consumer, slot, notStopped⟩
  · cases step with
    | goOn worker _ => cases worker.symm.trans ended
    | quit worker _ => cases worker.symm.trans ended
    | finish worker => cases worker.symm.trans ended
    | exhaust worker => cases worker.symm.trans ended
    | enqueue worker _ _ _ => cases worker.symm.trans ended
    | handOver worker _ _ _ => cases worker.symm.trans ended
    | sendFails worker _ _ => cases worker.symm.trans ended
    | take worker _ => cases worker.symm.trans ended
    | hangUp worker _ _ => cases worker.symm.trans ended
    | receive _ _ => exact .inl ⟨now, ended⟩
    | drained _ _ _ => exact .inl ⟨now, ended⟩
    | observe _ _ => exact .inl ⟨now, ended⟩
    | deliver _ _ => exact .inl ⟨now, ended⟩
    | judge _ _ => exact .inl ⟨now, ended⟩
    | reply _ _ _ => exact .inl ⟨now, ended⟩
    | replyFails _ _ => exact .inl ⟨now, ended⟩
  · cases step with
    | goOn _ _ => exact .inr ⟨consumer, slot, fun _ _ => nofun⟩
    | quit _ _ => exact .inl ⟨_, rfl⟩
    | finish _ => exact .inr ⟨consumer, slot, fun _ _ => nofun⟩
    | exhaust _ => exact .inr ⟨consumer, slot, fun _ _ => nofun⟩
    | enqueue _ _ listening _ => exact absurd consumer (listening true)
    | handOver _ _ receiving _ => cases consumer.symm.trans receiving
    | sendFails _ _ _ => exact .inl ⟨_, rfl⟩
    | take _ full => cases slot.symm.trans full
    | hangUp _ _ _ => exact .inl ⟨_, rfl⟩
    | receive receiving _ => cases consumer.symm.trans receiving
    | drained receiving _ _ => cases consumer.symm.trans receiving
    | observe handling _ => cases consumer.symm.trans handling
    | deliver handling _ => cases consumer.symm.trans handling
    | judge handling _ => cases consumer.symm.trans handling
    | reply replying _ _ => cases consumer.symm.trans replying
    | replyFails replying _ => cases consumer.symm.trans replying

theorem Settled.step {whole : Ended Workspace Unit (Delivery Outside)} (settled : state.Settled)
    (phase : state.Phase channel whole) (step : channel.Step state after) : after.Settled := by
  intro record now stopped
  cases step with
  | goOn _ _ => cases stopped
  | quit _ _ => cases stopped
  | finish _ => cases stopped
  | exhaust _ => cases stopped
  | enqueue _ offers _ _ =>
    rcases Channel.offer?_eq_some offers with ⟨_, _, _, _, rfl⟩ | ⟨_, _, _, _, _, _, rfl⟩
    · cases stopped
    · cases stopped
  | handOver _ offers _ _ =>
    rcases Channel.offer?_eq_some offers with ⟨_, _, _, _, rfl⟩ | ⟨_, _, _, _, _, _, rfl⟩
    · cases stopped
    · cases stopped
  | sendFails _ _ _ => cases stopped
  | take _ slot =>
    obtain ⟨_, _, receiving, queue, _⟩ := phase.of_slot slot
    refine ⟨queue, fun number event handling => ?_⟩
    cases receiving.symm.trans handling
  | hangUp _ _ _ => cases stopped
  | receive _ queue => cases queue.symm.trans (settled record now stopped).1
  | drained _ queue _ => exact ⟨queue, fun _ _ => nofun⟩
  | observe _ _ => exact ⟨(settled record now stopped).1, fun _ _ => nofun⟩
  | deliver handling _ => exact absurd handling ((settled record now stopped).2 _ _)
  | judge handling _ => exact absurd handling ((settled record now stopped).2 _ _)
  | reply _ _ _ => exact ⟨(settled record now stopped).1, fun _ _ => nofun⟩
  | replyFails _ _ => exact ⟨(settled record now stopped).1, fun _ _ => nofun⟩

theorem Phase.slot_of_handling {whole : Ended Workspace Unit (Delivery Outside)}
    (phase : state.Phase channel whole) {number : Nat} {event : Event}
    (consumer : state.consumer = .handling number event) : state.slot = none := by
  cases phase with
  | free _ _ _ slot _ => exact slot
  | asking _ _ _ _ slot _ _ _ => exact slot
  | answering _ replying => cases consumer.symm.trans replying
  | answered _ receiving => cases consumer.symm.trans receiving
  | closed _ _ _ slot _ => exact slot

end Exchange

/-- A step by which nobody notices a cancellation could be made with a sink that never cancels. -/
theorem Channel.Step.steadfast {Outside : Type} {channel : Channel Outside}
    {state after : Exchange Outside} (step : channel.Step state after) :
    channel.steadfast.Step state after ∨ (∃ now, after.worker = .ended .cancelled now) ∨
      (∃ number event, state.consumer = .handling number event) ∧
        after = { state with consumer := .ended true } := by
  cases step with
  | goOn worker _ => exact .inl (.goOn worker rfl)
  | quit _ _ => exact .inr (.inl ⟨_, rfl⟩)
  | finish worker => exact .inl (.finish worker)
  | exhaust worker => exact .inl (.exhaust worker)
  | enqueue worker offers listening room => exact .inl (.enqueue worker offers listening room)
  | handOver worker offers consumer noCapacity =>
    exact .inl (.handOver worker offers consumer noCapacity)
  | sendFails worker offers consumer => exact .inl (.sendFails worker offers consumer)
  | take worker slot => exact .inl (.take worker slot)
  | hangUp worker slot consumer => exact .inl (.hangUp worker slot consumer)
  | receive consumer queue => exact .inl (.receive consumer queue)
  | drained consumer queue worker => exact .inl (.drained consumer queue worker)
  | observe consumer _ => exact .inr (.inr ⟨⟨_, _, consumer⟩, rfl⟩)
  | deliver consumer _ => exact .inl (.deliver consumer rfl)
  | judge consumer _ => exact .inl (.judge consumer rfl)
  | reply consumer slot listening => exact .inl (.reply consumer slot listening)
  | replyFails consumer worker => exact .inl (.replyFails consumer worker)

/-- A disturbed exchange does not come to the end of the script, nor is it stopped. -/
theorem Exchange.Disturbed.result {Outside : Type} {session : Session Outside}
    {state : Exchange Outside} (disturbed : state.Disturbed) {result : Except Failure Outcome}
    {after : Session Outside} (joined : session.joined state = some (result, after)) :
    (∀ outcome, result ≠ .ok outcome) ∧ ∀ record, result ≠ .error (.stopped record) := by
  unfold Session.joined at joined
  split at joined
  · cases joined
    exact ⟨fun _ => nofun, fun _ => nofun⟩
  · rename_i ending now cancelled notBoth worker consumer
    cases joined
    rcases disturbed with ⟨_, ended⟩ | ⟨ended, _, notStopped⟩
    · cases worker.symm.trans ended
      exact ⟨fun _ => nofun, fun _ => nofun⟩
    · cases consumer.symm.trans ended
      cases ending with
      | finished result => exact (notBoth rfl rfl).elim
      | stopped record => exact absurd worker (notStopped record now)
      | cancelled => exact ⟨fun _ => nofun, fun _ => nofun⟩
      | exhausted => exact ⟨fun _ => nofun, fun _ => nofun⟩
  · cases joined

namespace Session

variable {Outside : Type} {sink : Sink Outside} {request : Request} {session : Session Outside}

/-- An exchange goes as with a sink that never cancels until one of the parties notices that it is
cancelled. -/
theorem steadfast_or_disturbed {state : Exchange (Outside × List SinkCall)}
    (reached : ReflTransGen (session.recording.channel sink.recorded request).Step
      (session.recording.opened request) state) :
    (ReflTransGen (session.recording.channel sink.steadfast.recorded request).Step
        (session.recording.opened request) state ∧ state.Settled) ∨ state.Disturbed := by
  induction reached with
  | refl => exact .inl ⟨.refl, fun _ _ => nofun⟩
  | tail _ step inductionHypothesis =>
    rcases inductionHypothesis with ⟨undisturbed, settled⟩ | disturbed
    · have sound := reached_sound sink.steadfast_quiet rfl request undisturbed
      rcases step.steadfast with same | ended | ⟨⟨number, event, handling⟩, rfl⟩
      · exact .inl ⟨undisturbed.tail same, settled.step sound.phase same⟩
      · exact .inr (.inl ended)
      · refine .inr (.inr ⟨rfl, sound.phase.slot_of_handling handling, ?_⟩)
        intro record now stopped
        exact (settled record now stopped).2 number event handling
    · exact .inr (disturbed.step step)

/-- With a sink whose calls do not cancel, an exchange comes to what the invocation comes to if the
sink answers at once. -/
theorem upshot_of_quiet (quiet : sink.Quiet) (live : sink.isCancelled session.outside = false)
    {state : Exchange (Outside × List SinkCall)} {ending : Ending Unit} {now : Workspace}
    {result : Except Failure Outcome} {after : Session (Outside × List SinkCall)}
    (reached : ReflTransGen (session.recording.channel sink.recorded request).Step
      (session.recording.opened request) state)
    (worker : state.worker = .ended ending now)
    (joined : session.recording.joined state = some (result, after)) :
    (⟨result, now, plain after, after.outside.2⟩ : Upshot Outside) =
      session.upshot sink request := by
  obtain ⟨_, _, _, _, consumer⟩ := ended_of_joined joined
  obtain ⟨rfl, whole⟩ :=
    (reached_sound quiet live request reached).phase.of_ended worker consumer
  cases joined.symm.trans (session.recording.joined_of_ended worker consumer)
  rw [upshot_of_live live, whole]
  rfl

/-- With a sink whose calls do not cancel there is one upshot. -/
theorem Yields.eq_of_quiet {upshot : Upshot Outside} (quiet : sink.Quiet)
    (yields : session.Yields sink request upshot) : upshot = session.upshot sink request := by
  cases yields with
  | atOnce => rfl
  | exchanged live reached worker joined => exact upshot_of_quiet quiet live reached worker joined

/-- An invocation that comes to the end of its script or is stopped by an error has come to what it
comes to if the sink answers at once, or else, if neither worker nor consumer has noticed that the
sink cancelled, to what it comes to with a sink that never cancels. -/
theorem Yields.of_not_cancelled {upshot : Upshot Outside}
    (yields : session.Yields sink request upshot)
    (ends : (∃ outcome, upshot.result = .ok outcome) ∨
      ∃ record, upshot.result = .error (.stopped record)) :
    upshot = session.upshot sink request ∨ upshot = session.upshot sink.steadfast request := by
  cases yields with
  | atOnce => exact .inl rfl
  | exchanged _ reached worker joined =>
    rcases steadfast_or_disturbed reached with ⟨undisturbed, _⟩ | disturbed
    · exact .inr (upshot_of_quiet sink.steadfast_quiet rfl undisturbed worker joined)
    · obtain ⟨notFinished, notStopped⟩ := disturbed.result joined
      rcases ends with ⟨outcome, isOk⟩ | ⟨record, isStopped⟩
      · exact absurd isOk (notFinished outcome)
      · exact absurd isStopped (notStopped record)

end Session

end SlashScript
