/-
This file compares two exchanges whose scripts match. The parties of an exchange look at the
workspace of the script only when both have ended, so whatever the parties of one exchange do, in
whatever order, those of the other can do as well, and the two exchanges differ in nothing but the
place of their workers. It does not matter whether the sink cancels on the way.
-/

import SlashScript.Proofs.Channel.Outcomes

namespace SlashScript

open Relation

/-- Runs that get the same answers show workspaces that are related so. -/
def Matching.answeredAlike (states : Workspace → Workspace → Prop) : Matching :=
  ⟨states, Eq, False⟩

variable {states : Workspace → Workspace → Prop}

/-! ### Workers that match -/

/-- Two workers are at matching places of their scripts. -/
inductive Worker.Matches (states : Workspace → Workspace → Prop) : Worker → Worker → Prop where
  | running {rest rest' : Run Workspace Unit}
    (runs : Run.Matches (.answeredAlike states) rest rest') :
    Matches states (.running rest) (.running rest')
  | waiting {question question' : Question}
    (runs : Run.Matches (.answeredAlike states) question.run question'.run) :
    Matches states (.waiting question) (.waiting question')
  | ended (ending : Ending Unit) {now now' : Workspace} (shown : states now now') :
    Matches states (.ended ending now) (.ended ending now')

namespace Run

variable {run run' : Run Workspace Unit}

theorem Matches.shown (runs : Matches (.answeredAlike states) run run') :
    states run.shown run'.shown := by
  cases runs with
  | done result shown => exact shown
  | exhausted shown => exact shown
  | short now run short => exact short.elim
  | poll shown rest => exact shown
  | emit value shown rest => exact shown
  | raise record shown rest => exact shown

/-- Where one of the runs asks whether to go on, the other does. -/
theorem Matches.of_poll {now : Workspace} {next : Unit → Run Workspace Unit}
    (runs : Matches (.answeredAlike states) (.poll now next) run') :
    ∃ now' next', run' = .poll now' next' ∧ states now now' ∧
      Matches (.answeredAlike states) (next ()) (next' ()) := by
  cases runs with
  | poll shown rest => exact ⟨_, _, rfl, shown, rest⟩

theorem Matches.of_done {now : Workspace}
    (runs : Matches (.answeredAlike states) (.done () now) run') :
    ∃ now', run' = .done () now' ∧ states now now' := by
  cases runs with
  | done result shown => exact ⟨_, rfl, shown⟩

theorem Matches.of_exhausted {now : Workspace}
    (runs : Matches (.answeredAlike states) (.exhausted now) run') :
    ∃ now', run' = .exhausted now' ∧ states now now' := by
  cases runs with
  | exhausted shown => exact ⟨_, rfl, shown⟩
  | short now run short => exact short.elim

end Run

namespace Question

variable {question question' : Question}

theorem now_of_matches (runs : Run.Matches (.answeredAlike states) question.run question'.run) :
    states question.now question'.now := by
  cases question <;> cases question' <;> exact runs.shown

/-- The same reply to both questions leads to matching places. -/
theorem answer_matches (runs : Run.Matches (.answeredAlike states) question.run question'.run)
    (reply : Reply) : (question.answer reply).Matches states (question'.answer reply) := by
  cases question with
  | output value now next =>
    cases question' with
    | error record now' next' => cases runs
    | output value' now' next' =>
      cases runs with
      | emit value shown rest =>
        cases reply with
        | resume => exact .running rest
        | log => exact .ended .cancelled shown
        | drop => exact .ended .cancelled shown
        | stop => exact .ended .cancelled shown
  | error record now next =>
    cases question' with
    | output value' now' next' => cases runs
    | error record' now' next' =>
      cases runs with
      | raise record shown rest =>
        cases reply with
        | resume => exact .ended .cancelled shown
        | log => exact .running (rest .logged .logged rfl)
        | drop => exact .running (rest .dropped .dropped rfl)
        | stop => exact .ended (.stopped record) shown

end Question

/-! ### Exchanges that match -/

namespace Channel

variable {Outside : Type} {channel : Channel Outside}

/-- Two workers have the same event to send, and are at matching places when it is sent. -/
theorem offer?_matches {rest rest' : Run Workspace Unit}
    (runs : Run.Matches (.answeredAlike states) rest rest') {event : Event} {next : Worker}
    (offers : channel.offer? rest = some (event, next)) :
    ∃ next', channel.offer? rest' = some (event, next') ∧ next.Matches states next' := by
  cases runs with
  | done result shown => cases offers
  | exhausted shown => cases offers
  | short now run short => exact short.elim
  | poll shown rest => cases offers
  | raise record shown rest =>
    cases offers
    exact ⟨_, rfl, .waiting (.raise record shown rest)⟩
  | @emit value now now' next next' shown rest =>
    by_cases noCapacity : channel.capacity = 0
    · rw [offer?, if_pos noCapacity] at offers
      cases offers
      have questions : Run.Matches (.answeredAlike states) (Question.output value now next).run
          (Question.output value now' next').run := .emit value shown rest
      exact ⟨_, by rw [offer?, if_pos noCapacity], .waiting questions⟩
    · rw [offer?, if_neg noCapacity] at offers
      cases offers
      exact ⟨_, by rw [offer?, if_neg noCapacity], .running rest⟩

/-- What a party does in one exchange, it can do in another in which the worker is at a matching
place. -/
theorem Step.mirrored {state after : Exchange Outside} (step : channel.Step state after)
    {worker' : Worker} (workers : state.worker.Matches states worker') :
    ∃ next', after.worker.Matches states next' ∧
      channel.Step { state with worker := worker' } { after with worker := next' } := by
  cases step with
  | goOn worker live =>
    rw [worker] at workers
    cases workers with
    | running runs =>
      obtain ⟨now', next', rfl, shown, rest⟩ := runs.of_poll
      exact ⟨_, .running rest, .goOn rfl live⟩
  | quit worker cancelled =>
    rw [worker] at workers
    cases workers with
    | running runs =>
      obtain ⟨now', next', rfl, shown, rest⟩ := runs.of_poll
      exact ⟨_, .ended .cancelled shown, .quit rfl cancelled⟩
  | finish worker =>
    rw [worker] at workers
    cases workers with
    | running runs =>
      obtain ⟨now', rfl, shown⟩ := runs.of_done
      exact ⟨_, .ended (.finished ()) shown, .finish rfl⟩
  | exhaust worker =>
    rw [worker] at workers
    cases workers with
    | running runs =>
      obtain ⟨now', rfl, shown⟩ := runs.of_exhausted
      exact ⟨_, .ended .exhausted shown, .exhaust rfl⟩
  | enqueue worker offers listening room =>
    rw [worker] at workers
    cases workers with
    | running runs =>
      obtain ⟨next', offers', next⟩ := offer?_matches runs offers
      exact ⟨next', next, .enqueue rfl offers' listening room⟩
  | handOver worker offers consumer noCapacity =>
    rw [worker] at workers
    cases workers with
    | running runs =>
      obtain ⟨next', offers', next⟩ := offer?_matches runs offers
      exact ⟨next', next, .handOver rfl offers' consumer noCapacity⟩
  | sendFails worker offers consumer =>
    rw [worker] at workers
    cases workers with
    | running runs =>
      obtain ⟨next', offers', _⟩ := offer?_matches runs offers
      exact ⟨_, .ended .cancelled runs.shown, .sendFails rfl offers' consumer⟩
  | take worker slot =>
    rw [worker] at workers
    cases workers with
    | waiting runs => exact ⟨_, Question.answer_matches runs _, .take rfl slot⟩
  | hangUp worker slot consumer =>
    rw [worker] at workers
    cases workers with
    | waiting runs =>
      exact ⟨_, .ended .cancelled (Question.now_of_matches runs), .hangUp rfl slot consumer⟩
  | receive consumer queue => exact ⟨worker', workers, .receive consumer queue⟩
  | drained consumer queue worker =>
    refine ⟨worker', workers, ?_⟩
    rw [worker] at workers
    cases workers with
    | ended ending shown => exact .drained consumer queue rfl
  | observe consumer cancelled => exact ⟨worker', workers, .observe consumer cancelled⟩
  | deliver consumer live => exact ⟨worker', workers, .deliver consumer live⟩
  | judge consumer live => exact ⟨worker', workers, .judge consumer live⟩
  | reply consumer slot listening =>
    refine ⟨worker', workers, .reply consumer slot ?_⟩
    rintro ending now rfl
    cases isWorker : state.worker with
    | running rest =>
      rw [isWorker] at workers
      cases workers
    | waiting question =>
      rw [isWorker] at workers
      cases workers
    | ended ending now => exact listening ending now isWorker
  | replyFails consumer worker =>
    refine ⟨worker', workers, ?_⟩
    rw [worker] at workers
    cases workers with
    | ended ending shown => exact .replyFails consumer rfl

/-- Every state that the parties of one exchange reach is reached by those of the other, with the
worker at a matching place. -/
theorem reached_mirrored {run run' : Run Workspace Unit}
    (runs : Run.Matches (.answeredAlike states) run run') {outside : Outside}
    {state : Exchange Outside} (reached : ReflTransGen channel.Step (start run outside) state) :
    ∃ worker', state.worker.Matches states worker' ∧
      ReflTransGen channel.Step (start run' outside) { state with worker := worker' } := by
  induction reached with
  | refl => exact ⟨_, .running runs, .refl⟩
  | tail _ step inductionHypothesis =>
    obtain ⟨worker', workers, reached'⟩ := inductionHypothesis
    obtain ⟨next', next, step'⟩ := step.mirrored workers
    exact ⟨next', next, reached'.tail step'⟩

end Channel

namespace Session

/-- When the workers have ended in the same way, the invocations have come to the same, up to the
workspaces in which the workers have left their scripts. -/
theorem joined_mirrored {Outside : Type} {session : Session Outside} {state : Exchange Outside}
    {ending : Ending Unit} {now : Workspace} {result : Except Failure Outcome}
    {after : Session Outside} (worker : state.worker = .ended ending now)
    (joined : session.joined state = some (result, after)) (now' : Workspace) :
    session.joined { state with worker := .ended ending now' } =
      some (result, { after with workspace := now'.leave session.workspace }) := by
  obtain ⟨_, _, cancelled, _, consumer⟩ := ended_of_joined joined
  obtain ⟨_, _, queue, slot, delivery, sent⟩ := state
  cases worker
  cases consumer
  cases ending with
  | finished result =>
    cases cancelled with
    | true => cases Option.some.inj joined; rfl
    | false => cases Option.some.inj joined; rfl
  | stopped record => cases Option.some.inj joined; rfl
  | cancelled => cases Option.some.inj joined; rfl
  | exhausted => cases Option.some.inj joined; rfl

end Session

end SlashScript
