/-
This file lets a pipe answer the requests of a run. A host has one way of refusing a value, and
being asked leaves it as it was. A pipe is anything that can answer: it may change whenever it is
asked, and it may end the run in both ways at every value and every error. What is said of all pipes
is so said of all that a run may meet.

A pipe that ends the run does so at a request, and the run ends there with the state that the
request shows. So a run either comes to its own end, by answers of the pipe to all its requests, or
it stands at the request at which the pipe interrupted it.

A host is a pipe too, so all this holds of a host that serves a run.
-/

import SlashScript.Proofs.Course

namespace SlashScript

/-- Goes on from the end of a run that came to a result. -/
def Ended.andThen {State First Second Outside : Type} (ended : Ended State First Outside)
    (next : First → State → Outside → Ended State Second Outside) : Ended State Second Outside :=
  match ended.ending with
  | .finished result => next result ended.state ended.outside
  | .stopped record => ⟨.stopped record, ended.state, ended.outside⟩
  | .cancelled => ⟨.cancelled, ended.state, ended.outside⟩
  | .exhausted => ⟨.exhausted, ended.state, ended.outside⟩

/-! ### Pipes -/

/-- The ways in which a pipe ends a run. -/
inductive Interruption where
  /-- An error is to stop the script. -/
  | stopped (record : ErrorRecord)
  | cancelled

/-- How a run ends that was interrupted. -/
def Interruption.ending {Result : Type} : Interruption → Ending Result
  | stopped record => .stopped record
  | cancelled => .cancelled

/-- Where a run sends its values and errors. -/
structure Pipe (Outside : Type) where
  /-- Whether the run is to end. -/
  isCancelled : Outside → Bool × Outside
  emit : Value → Outside → Except Interruption Unit × Outside
  /-- Takes an error and tells what became of it. -/
  fail : ErrorRecord → Outside → Except Interruption Keeping × Outside

variable {Outside Result First Second : Type} {pipe : Pipe Outside}

namespace Run

/-- Lets a pipe answer the requests of a run. -/
def drive (pipe : Pipe Outside) : Run Workspace Result → Outside → Ended Workspace Result Outside
  | done result now, outside => ⟨.finished result, now, outside⟩
  | exhausted now, outside => ⟨.exhausted, now, outside⟩
  | poll now next, outside =>
    match pipe.isCancelled outside with
    | (true, outside) => ⟨.cancelled, now, outside⟩
    | (false, outside) => (next ()).drive pipe outside
  | emit value now next, outside =>
    match pipe.emit value outside with
    | (.ok (), outside) => (next ()).drive pipe outside
    | (.error interruption, outside) => ⟨interruption.ending, now, outside⟩
  | raise record now next, outside =>
    match pipe.fail record outside with
    | (.ok keeping, outside) => (next keeping).drive pipe outside
    | (.error interruption, outside) => ⟨interruption.ending, now, outside⟩

/-- A pipe answers one run and then the next. -/
theorem drive_bind (pipe : Pipe Outside) (run : Run Workspace First)
    (continuation : First → Workspace → Run Workspace Second) (outside : Outside) :
    (run.bind continuation).drive pipe outside =
      (run.drive pipe outside).andThen fun result now outside =>
        (continuation result now).drive pipe outside := by
  have interrupted (interruption : Interruption) (now : Workspace) (after : Outside)
      (next : First → Workspace → Outside → Ended Workspace Second Outside) :
      (⟨interruption.ending, now, after⟩ : Ended Workspace First Outside).andThen next =
        ⟨interruption.ending, now, after⟩ := by
    cases interruption <;> rfl
  induction run generalizing outside with
  | done result now => rfl
  | exhausted now => rfl
  | poll now next inductionHypothesis =>
    rw [bind, drive, drive]
    rcases pipe.isCancelled outside with ⟨_ | _, after⟩
    · exact inductionHypothesis () after
    · rfl
  | emit value now next inductionHypothesis =>
    rw [bind, drive, drive]
    rcases pipe.emit value outside with ⟨interruption | _, after⟩
    · exact (interrupted interruption now after _).symm
    · exact inductionHypothesis () after
  | raise record now next inductionHypothesis =>
    rw [bind, drive, drive]
    rcases pipe.fail record outside with ⟨interruption | keeping, after⟩
    · exact (interrupted interruption now after _).symm
    · exact inductionHypothesis keeping after

/-! ### Courses with a pipe -/

/-- A pipe answers with this course, and comes from one state to another on the way. -/
inductive Passes (pipe : Pipe Outside) :
    Run Workspace Result → Outside → List Answer → Run Workspace Result → Outside → Prop where
  | here (run : Run Workspace Result) (outside : Outside) : Passes pipe run outside [] run outside
  | goOn {now : Workspace} {next : Unit → Run Workspace Result} {outside between after : Outside}
    {answers : List Answer} {rest : Run Workspace Result}
    (live : pipe.isCancelled outside = (false, between))
    (later : Passes pipe (next ()) between answers rest after) :
    Passes pipe (.poll now next) outside (.goOn :: answers) rest after
  | taken {value : Value} {now : Workspace} {next : Unit → Run Workspace Result}
    {outside between after : Outside} {answers : List Answer} {rest : Run Workspace Result}
    (taken : pipe.emit value outside = (.ok (), between))
    (later : Passes pipe (next ()) between answers rest after) :
    Passes pipe (.emit value now next) outside (.taken value :: answers) rest after
  | kept {record : ErrorRecord} {now : Workspace} {next : Keeping → Run Workspace Result}
    {keeping : Keeping} {outside between after : Outside} {answers : List Answer}
    {rest : Run Workspace Result} (allowed : pipe.fail record outside = (.ok keeping, between))
    (later : Passes pipe (next keeping) between answers rest after) :
    Passes pipe (.raise record now next) outside (.kept record keeping :: answers) rest after

/-- The pipe interrupts a run at its first request, in this state, and is then in another one. -/
inductive Interrupts (pipe : Pipe Outside) :
    Run Workspace Result → Outside → Interruption → Workspace → Outside → Prop where
  | poll {now : Workspace} {next : Unit → Run Workspace Result} {outside after : Outside}
    (cancelled : pipe.isCancelled outside = (true, after)) :
    Interrupts pipe (.poll now next) outside .cancelled now after
  | emit {value : Value} {now : Workspace} {next : Unit → Run Workspace Result}
    {interruption : Interruption} {outside after : Outside}
    (refused : pipe.emit value outside = (.error interruption, after)) :
    Interrupts pipe (.emit value now next) outside interruption now after
  | raise {record : ErrorRecord} {now : Workspace} {next : Keeping → Run Workspace Result}
    {interruption : Interruption} {outside after : Outside}
    (refused : pipe.fail record outside = (.error interruption, after)) :
    Interrupts pipe (.raise record now next) outside interruption now after

/-- Here a run with a pipe ends: it is at its own end, or the pipe interrupts it. -/
inductive EndsHere (pipe : Pipe Outside) :
    Run Workspace Result → Outside → Ended Workspace Result Outside → Prop where
  | done (result : Result) (now : Workspace) (outside : Outside) :
    EndsHere pipe (.done result now) outside ⟨.finished result, now, outside⟩
  | exhausted (now : Workspace) (outside : Outside) :
    EndsHere pipe (.exhausted now) outside ⟨.exhausted, now, outside⟩
  | interrupted {run : Run Workspace Result} {interruption : Interruption} {now : Workspace}
    {outside after : Outside} (interrupts : Interrupts pipe run outside interruption now after) :
    EndsHere pipe run outside ⟨interruption.ending, now, after⟩

variable {run rest : Run Workspace Result} {outside after : Outside} {answers : List Answer}

theorem Passes.leadsTo (passes : Passes pipe run outside answers rest after) :
    run.LeadsTo answers rest := by
  induction passes with
  | here run outside => exact .here run
  | goOn _ _ inductionHypothesis => exact .goOn inductionHypothesis
  | taken _ _ inductionHypothesis => exact .taken inductionHypothesis
  | kept _ _ inductionHypothesis => exact .kept _ inductionHypothesis

theorem Passes.drive_eq (passes : Passes pipe run outside answers rest after) :
    run.drive pipe outside = rest.drive pipe after := by
  induction passes with
  | here run outside => rfl
  | goOn live _ inductionHypothesis => rw [← inductionHypothesis, drive, live]
  | taken taken _ inductionHypothesis => rw [← inductionHypothesis, drive, taken]
  | kept allowed _ inductionHypothesis => rw [← inductionHypothesis, drive, allowed]

theorem EndsHere.drive_eq {ended : Ended Workspace Result Outside}
    (ends : EndsHere pipe run outside ended) : run.drive pipe outside = ended := by
  cases ends with
  | done result now outside => rfl
  | exhausted now outside => rfl
  | interrupted interrupts =>
    cases interrupts with
    | poll cancelled => rw [drive, cancelled]; rfl
    | emit refused => rw [drive, refused]
    | raise refused => rw [drive, refused]

theorem EndsHere.state_eq {ended : Ended Workspace Result Outside}
    (ends : EndsHere pipe run outside ended) : ended.state = run.shown := by
  cases ends with
  | done result now outside => rfl
  | exhausted now outside => rfl
  | interrupted interrupts => cases interrupts <;> rfl

/-- A run that a pipe answers follows a course to the place at which it ends. -/
theorem drive_passes (pipe : Pipe Outside) (run : Run Workspace Result) (outside : Outside) :
    ∃ answers rest after, Passes pipe run outside answers rest after ∧
      EndsHere pipe rest after (run.drive pipe outside) := by
  induction run generalizing outside with
  | done result now => exact ⟨_, _, _, .here _ _, .done result now outside⟩
  | exhausted now => exact ⟨_, _, _, .here _ _, .exhausted now outside⟩
  | poll now next inductionHypothesis =>
    rw [drive]
    rcases live : pipe.isCancelled outside with ⟨_ | _, between⟩
    · obtain ⟨_, _, _, passes, ends⟩ := inductionHypothesis () between
      exact ⟨_, _, _, .goOn live passes, ends⟩
    · exact ⟨_, _, _, .here _ _, .interrupted (.poll live)⟩
  | emit value now next inductionHypothesis =>
    rw [drive]
    rcases taken : pipe.emit value outside with ⟨interruption | _, between⟩
    · exact ⟨_, _, _, .here _ _, .interrupted (.emit taken)⟩
    · obtain ⟨_, _, _, passes, ends⟩ := inductionHypothesis () between
      exact ⟨_, _, _, .taken taken passes, ends⟩
  | raise record now next inductionHypothesis =>
    rw [drive]
    rcases allowed : pipe.fail record outside with ⟨interruption | keeping, between⟩
    · exact ⟨_, _, _, .here _ _, .interrupted (.raise allowed)⟩
    · obtain ⟨_, _, _, passes, ends⟩ := inductionHypothesis keeping between
      exact ⟨_, _, _, .kept allowed passes, ends⟩

/-- A run that comes to a result does so by answers of the pipe to all its requests. -/
theorem passes_of_finished {result : Result}
    (finished : (run.drive pipe outside).ending = .finished result) :
    ∃ answers, Passes pipe run outside answers (.done result (run.drive pipe outside).state)
      (run.drive pipe outside).outside := by
  obtain ⟨answers, rest, after, passes, ends⟩ := drive_passes pipe run outside
  generalize run.drive pipe outside = ended at finished ends ⊢
  cases ends with
  | done result' now _ =>
    cases finished
    exact ⟨answers, passes⟩
  | exhausted now _ => cases finished
  | @interrupted _ interruption now _ after interrupts => cases interruption <;> cases finished

/-- A run is interrupted only by the pipe, at a request to which a course has led. -/
theorem interrupts_of_interrupted {interruption : Interruption}
    (interrupted : (run.drive pipe outside).ending = interruption.ending) :
    ∃ answers rest between, Passes pipe run outside answers rest between ∧
      Interrupts pipe rest between interruption (run.drive pipe outside).state
        (run.drive pipe outside).outside := by
  obtain ⟨answers, rest, after, passes, ends⟩ := drive_passes pipe run outside
  generalize run.drive pipe outside = ended at interrupted ends ⊢
  cases ends with
  | done result' now _ => cases interruption <;> cases interrupted
  | exhausted now _ => cases interruption <;> cases interrupted
  | @interrupted _ interruption' now _ after interrupts =>
    have same : interruption' = interruption := by
      cases interruption' <;> cases interruption <;> cases interrupted <;> rfl
    exact ⟨answers, rest, _, passes, same ▸ interrupts⟩

end Run

/-! ### Hosts -/

namespace Host

/-- A host is a pipe. -/
def asPipe (host : Host Outside) : Pipe Outside where
  isCancelled outside := (host.isCancelled outside, outside)
  emit value outside :=
    match host.take value outside with
    | some outside => (.ok (), outside)
    | none => (.error .cancelled, outside)
  fail record outside :=
    match host.judge record outside with
    | (.log, outside) => (.ok .logged, outside)
    | (.drop, outside) => (.ok .dropped, outside)
    | (.stop, outside) => (.error (.stopped record), outside)
    | (.cancel, outside) => (.error .cancelled, outside)

variable {host : Host Outside} {value : Value} {record : ErrorRecord} {outside after : Outside}

theorem asPipe_emit_ok :
    host.asPipe.emit value outside = (.ok (), after) ↔ host.take value outside = some after := by
  unfold asPipe
  dsimp only
  cases host.take value outside with
  | none => exact ⟨nofun, nofun⟩
  | some between => simp

theorem asPipe_emit_error {interruption : Interruption} :
    host.asPipe.emit value outside = (.error interruption, after) ↔
      host.take value outside = none ∧ interruption = .cancelled ∧ after = outside := by
  unfold asPipe
  dsimp only
  cases host.take value outside with
  | none => simp [eq_comm]
  | some between => exact ⟨nofun, nofun⟩

theorem asPipe_fail_ok {keeping : Keeping} :
    host.asPipe.fail record outside = (.ok keeping, after) ↔
      host.judge record outside = (keeping.verdict, after) := by
  unfold asPipe
  dsimp only
  rcases host.judge record outside with ⟨verdict, between⟩
  cases verdict <;> cases keeping <;> simp [Keeping.verdict]

theorem asPipe_fail_error {interruption : Interruption} :
    host.asPipe.fail record outside = (.error interruption, after) ↔
      host.judge record outside = (.stop, after) ∧ interruption = .stopped record ∨
        host.judge record outside = (.cancel, after) ∧ interruption = .cancelled := by
  unfold asPipe
  dsimp only
  rcases host.judge record outside with ⟨verdict, between⟩
  cases verdict <;> simp [eq_comm, and_comm]

end Host

namespace Run

theorem drive_host (host : Host Outside) (run : Run Workspace Result) (outside : Outside) :
    run.drive host.asPipe outside = run.serve host outside := by
  induction run generalizing outside with
  | done result now => rfl
  | exhausted now => rfl
  | poll now next inductionHypothesis =>
    simp only [drive, serve, Host.asPipe]
    cases host.isCancelled outside with
    | true => rfl
    | false => exact inductionHypothesis () outside
  | emit value now next inductionHypothesis =>
    simp only [drive, serve, Host.asPipe]
    cases host.take value outside with
    | none => rfl
    | some after => exact inductionHypothesis () after
  | raise record now next inductionHypothesis =>
    simp only [drive, serve, Host.asPipe]
    rcases host.judge record outside with ⟨verdict, after⟩
    cases verdict with
    | log => exact inductionHypothesis .logged after
    | drop => exact inductionHypothesis .dropped after
    | stop => rfl
    | cancel => rfl

/-- A host serves one run and then the next. -/
theorem serve_bind (host : Host Outside) (run : Run Workspace First)
    (continuation : First → Workspace → Run Workspace Second) (outside : Outside) :
    (run.bind continuation).serve host outside =
      (run.serve host outside).andThen fun result now outside =>
        (continuation result now).serve host outside := by
  have bound := drive_bind host.asPipe run continuation outside
  simp only [drive_host] at bound
  exact bound

/-! ### Courses with a host -/

variable {host : Host Outside}

/-- A host answers with this course, and comes from one state to another on the way. -/
def Answered (host : Host Outside) (run : Run Workspace Result) (outside : Outside)
    (answers : List Answer) (rest : Run Workspace Result) (after : Outside) : Prop :=
  Passes host.asPipe run outside answers rest after

namespace Answered

theorem here (run : Run Workspace Result) (outside : Outside) :
    Answered host run outside [] run outside :=
  Passes.here run outside

theorem goOn {now : Workspace} {next : Unit → Run Workspace Result} {outside after : Outside}
    {answers : List Answer} {rest : Run Workspace Result}
    (live : host.isCancelled outside = false)
    (later : Answered host (next ()) outside answers rest after) :
    Answered host (.poll now next) outside (.goOn :: answers) rest after :=
  Passes.goOn (congrArg (·, outside) live) later

theorem taken {value : Value} {now : Workspace} {next : Unit → Run Workspace Result}
    {outside between after : Outside} {answers : List Answer} {rest : Run Workspace Result}
    (taken : host.take value outside = some between)
    (later : Answered host (next ()) between answers rest after) :
    Answered host (.emit value now next) outside (.taken value :: answers) rest after :=
  Passes.taken (Host.asPipe_emit_ok.mpr taken) later

theorem kept {record : ErrorRecord} {now : Workspace} {next : Keeping → Run Workspace Result}
    {keeping : Keeping} {outside between after : Outside} {answers : List Answer}
    {rest : Run Workspace Result}
    (judged : host.judge record outside = (keeping.verdict, between))
    (later : Answered host (next keeping) between answers rest after) :
    Answered host (.raise record now next) outside (.kept record keeping :: answers) rest after :=
  Passes.kept (Host.asPipe_fail_ok.mpr judged) later

/-- The induction on a course with the answers of the host in place of those of its pipe. -/
@[induction_eliminator]
theorem induction
    {motive : ∀ (run : Run Workspace Result) (outside : Outside) (answers : List Answer)
      (rest : Run Workspace Result) (after : Outside),
        Answered host run outside answers rest after → Prop}
    (here : ∀ (run : Run Workspace Result) (outside : Outside),
      motive run outside [] run outside (.here run outside))
    (goOn : ∀ {now : Workspace} {next : Unit → Run Workspace Result} {outside after : Outside}
      {answers : List Answer} {rest : Run Workspace Result}
      (live : host.isCancelled outside = false)
      (later : Answered host (next ()) outside answers rest after),
        motive (next ()) outside answers rest after later →
          motive (.poll now next) outside (.goOn :: answers) rest after (.goOn live later))
    (taken : ∀ {value : Value} {now : Workspace} {next : Unit → Run Workspace Result}
      {outside between after : Outside} {answers : List Answer} {rest : Run Workspace Result}
      (taken : host.take value outside = some between)
      (later : Answered host (next ()) between answers rest after),
        motive (next ()) between answers rest after later →
          motive (.emit value now next) outside (.taken value :: answers) rest after
            (.taken taken later))
    (kept : ∀ {record : ErrorRecord} {now : Workspace} {next : Keeping → Run Workspace Result}
      {keeping : Keeping} {outside between after : Outside} {answers : List Answer}
      {rest : Run Workspace Result}
      (judged : host.judge record outside = (keeping.verdict, between))
      (later : Answered host (next keeping) between answers rest after),
        motive (next keeping) between answers rest after later →
          motive (.raise record now next) outside (.kept record keeping :: answers) rest after
            (.kept judged later))
    {run : Run Workspace Result} {outside : Outside} {answers : List Answer}
    {rest : Run Workspace Result} {after : Outside}
    (answered : Answered host run outside answers rest after) :
    motive run outside answers rest after answered := by
  have passes : Passes host.asPipe run outside answers rest after := answered
  induction passes with
  | here run outside => exact here run outside
  | goOn polled later inductionHypothesis =>
    obtain ⟨live, rfl⟩ := Prod.mk.inj polled
    exact goOn live later (inductionHypothesis later)
  | taken emitted later inductionHypothesis =>
    exact taken (Host.asPipe_emit_ok.mp emitted) later (inductionHypothesis later)
  | kept allowed later inductionHypothesis =>
    exact kept (Host.asPipe_fail_ok.mp allowed) later (inductionHypothesis later)

variable {run rest : Run Workspace Result} {outside after : Outside} {answers : List Answer}

theorem leadsTo (answered : Answered host run outside answers rest after) :
    run.LeadsTo answers rest :=
  Passes.leadsTo answered

theorem serve_eq (answered : Answered host run outside answers rest after) :
    run.serve host outside = rest.serve host after := by
  have driven := Passes.drive_eq answered
  rwa [drive_host, drive_host] at driven

end Answered

/-- A host lets a run go no further, and so it ends. -/
def LeftBy (host : Host Outside) (run : Run Workspace Result) (outside : Outside)
    (ended : Ended Workspace Result Outside) : Prop :=
  EndsHere host.asPipe run outside ended

namespace LeftBy

/-- The cases of an end with the answers of the host in place of those of its pipe. -/
@[cases_eliminator]
theorem elim
    {motive : ∀ (run : Run Workspace Result) (outside : Outside)
      (ended : Ended Workspace Result Outside), LeftBy host run outside ended → Prop}
    (done : ∀ (result : Result) (now : Workspace) (outside : Outside),
      motive (.done result now) outside ⟨.finished result, now, outside⟩ (EndsHere.done _ _ _))
    (exhausted : ∀ (now : Workspace) (outside : Outside),
      motive (.exhausted now) outside ⟨.exhausted, now, outside⟩ (EndsHere.exhausted _ _))
    (poll : ∀ {now : Workspace} {next : Unit → Run Workspace Result} {outside : Outside}
      (cancelled : host.isCancelled outside = true),
        motive (.poll now next) outside ⟨.cancelled, now, outside⟩
          (EndsHere.interrupted (.poll (congrArg (·, outside) cancelled))))
    (emit : ∀ {value : Value} {now : Workspace} {next : Unit → Run Workspace Result}
      {outside : Outside} (refused : host.take value outside = none),
        motive (.emit value now next) outside ⟨.cancelled, now, outside⟩
          (EndsHere.interrupted (.emit (Host.asPipe_emit_error.mpr ⟨refused, rfl, rfl⟩))))
    (raise : ∀ {record : ErrorRecord} {now : Workspace} {next : Keeping → Run Workspace Result}
      {outside after : Outside} (judged : host.judge record outside = (.cancel, after)),
        motive (.raise record now next) outside ⟨.cancelled, now, after⟩
          (EndsHere.interrupted (.raise (Host.asPipe_fail_error.mpr (.inr ⟨judged, rfl⟩)))))
    (stopped : ∀ {record : ErrorRecord} {now : Workspace} {next : Keeping → Run Workspace Result}
      {outside after : Outside} (judged : host.judge record outside = (.stop, after)),
        motive (.raise record now next) outside ⟨.stopped record, now, after⟩
          (EndsHere.interrupted (.raise (Host.asPipe_fail_error.mpr (.inl ⟨judged, rfl⟩)))))
    {run : Run Workspace Result} {outside : Outside} {ended : Ended Workspace Result Outside}
    (left : LeftBy host run outside ended) : motive run outside ended left := by
  have ends : EndsHere host.asPipe run outside ended := left
  cases ends with
  | done result now outside => exact done result now outside
  | exhausted now outside => exact exhausted now outside
  | interrupted interrupts =>
    cases interrupts with
    | poll polled =>
      obtain ⟨cancelled, rfl⟩ := Prod.mk.inj polled
      exact poll cancelled
    | emit emitted =>
      obtain ⟨refused, rfl, rfl⟩ := Host.asPipe_emit_error.mp emitted
      exact emit refused
    | raise failed =>
      rcases Host.asPipe_fail_error.mp failed with ⟨judged, rfl⟩ | ⟨judged, rfl⟩
      · exact stopped judged
      · exact raise judged

variable {run : Run Workspace Result} {outside : Outside} {ended : Ended Workspace Result Outside}

theorem serve_eq (left : LeftBy host run outside ended) : run.serve host outside = ended :=
  (drive_host host run outside).symm.trans (EndsHere.drive_eq left)

theorem state_eq (left : LeftBy host run outside ended) : ended.state = run.shown :=
  EndsHere.state_eq left

end LeftBy

/-- A run that a host serves follows a course to the place at which it is left. -/
theorem serve_answered (host : Host Outside) (run : Run Workspace Result) (outside : Outside) :
    ∃ answers rest after, Answered host run outside answers rest after ∧
      LeftBy host rest after (run.serve host outside) := by
  rw [← drive_host]
  exact drive_passes host.asPipe run outside

/-- How a run ends that gets no more answers. -/
def leaving : Run Workspace Result → Ending Result
  | done result _ => .finished result
  | exhausted _ => .exhausted
  | poll _ _ => .cancelled
  | emit _ _ _ => .cancelled
  | raise _ _ _ => .cancelled

/-- A sink that has cancelled the invocation leaves a run where it is. -/
theorem serve_of_cancelled {sink : Sink Outside} {delivery : Delivery Outside}
    (cancelled : sink.isCancelled delivery.outside = true) (action : ErrorAction)
    (invocation : Nat) (run : Run Workspace Result) :
    run.serve (sink.host action invocation) delivery = ⟨run.leaving, run.shown, delivery⟩ := by
  cases run with
  | done result now => rfl
  | exhausted now => rfl
  | poll now next => exact if_pos cancelled
  | emit value now next =>
    have refused : (sink.host action invocation).take value delivery = none :=
      Sink.deliver_of_cancelled cancelled invocation value
    rw [serve, refused]
    rfl
  | raise record now next =>
    have judged : (sink.host action invocation).judge record delivery = (.cancel, delivery) :=
      Sink.judge_of_cancelled cancelled action record
    rw [serve, judged]
    rfl

end Run

end SlashScript
