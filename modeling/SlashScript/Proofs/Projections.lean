/-
This file sees invocations through a projection of what is outside. If the calls of a sink show in
the projection as the calls of another sink, and nothing that is logged shows there, then an
invocation with the first sink shows as one with the second and without a log: it comes to the same
result, it leaves the same workspace, and only what the projection hides is different. So a log, or
a list in which calls are written down, changes nothing else.
-/

import SlashScript.Proofs.Serving

namespace SlashScript

variable {Whole Part : Type} {project : Whole → Part}

/-! ### Sinks and loggers -/

/-- The calls of a sink show as those of another sink. -/
structure Sink.Projects (project : Whole → Part) (sink : Sink Whole) (shown : Sink Part) :
    Prop where
  output : ∀ event outside,
    project (sink.output event outside) = shown.output event (project outside)
  report : ∀ record outside,
    project (sink.report record outside) = shown.report record (project outside)
  inquire : ∀ record outside,
    Prod.map id project (sink.inquire record outside) = shown.inquire record (project outside)
  isCancelled : ∀ outside, sink.isCancelled outside = shown.isCancelled (project outside)

/-- Whether an event is told only to those who ask for details. -/
def Logging.Event.isDetail (event : Logging.Event) : Bool :=
  !event.level.isWithin .info

/-- Nothing that a logger notes of details shows. -/
def Logger.Unseen (project : Whole → Part) (logger : Logger Whole) : Prop :=
  ∀ entries : List Logging.Entry, (∀ entry ∈ entries, entry.event.isDetail) → ∀ outside,
    project (logger.note entries outside) = project outside

namespace Logger.Unseen

variable {logger : Logger Whole}

theorem silent (project : Whole → Part) : (Logger.silent : Logger Whole).Unseen project :=
  fun _ _ _ => rfl

theorem within (unseen : logger.Unseen project) (span : Logging.Span) :
    (logger.within span).Unseen project := by
  refine fun entries details => unseen _ fun entry member => ?_
  obtain ⟨inner, among, rfl⟩ := List.mem_map.mp member
  exact details inner among

theorem tell (unseen : logger.Unseen project) {events : List Logging.Event}
    (details : ∀ event ∈ events, event.isDetail) (outside : Whole) :
    project (logger.tell events outside) = project outside := by
  refine unseen _ (fun entry member => ?_) outside
  obtain ⟨event, among, rfl⟩ := List.mem_map.mp member
  exact details event among

end Logger.Unseen

/-! ### Events of an invocation -/

theorem Verdict.isDetail_of_mem_events {verdict : Verdict} :
    ∀ event ∈ verdict.events, event.isDetail := by
  cases verdict <;> exact List.all_eq_true.mp rfl

theorem Request.isDetail_of_mem_opening {request : Request} {caller : Workspace} :
    ∀ event ∈ request.opening caller, event.isDetail :=
  List.all_eq_true.mp rfl

theorem Ending.isDetail_of_mem_events {handingOver : Bool} {caller : Workspace}
    {delivery : Delivery Whole} {ending : Ending Unit} :
    ∀ event ∈ ending.events handingOver caller delivery, event.isDetail := by
  cases ending <;> cases handingOver <;> exact List.all_eq_true.mp rfl

/-! ### Deliveries -/

/-- An inquiry is judged by its answer. -/
theorem Sink.judge_inquire {Outside : Type} (sink : Sink Outside) (record : ErrorRecord)
    (outside : Outside) :
    ErrorAction.inquire.judge sink record outside =
      if (sink.inquire record outside).1 then
        (.log, sink.report record (sink.inquire record outside).2)
      else (.stop, (sink.inquire record outside).2) := rfl

/-- What of a delivery shows. -/
def Delivery.map (project : Whole → Part) (delivery : Delivery Whole) : Delivery Part :=
  ⟨project delivery.outside, delivery.emitted, delivery.errors⟩

namespace Sink.Projects

variable {sink : Sink Whole} {shown : Sink Part}

/-- An action judges alike. -/
theorem action_judge (projects : sink.Projects project shown) (action : ErrorAction)
    (record : ErrorRecord) (outside : Whole) :
    Prod.map id project (action.judge sink record outside) =
      action.judge shown record (project outside) := by
  cases action with
  | silent | stop | ignore => rfl
  | proceed => exact congrArg (Prod.mk _) (projects.report record outside)
  | inquire =>
    rw [judge_inquire, judge_inquire, ← projects.inquire]
    rcases sink.inquire record outside with ⟨goOn | goOn, after⟩
    · rfl
    · exact congrArg (Prod.mk _) (projects.report record after)

theorem deliver (projects : sink.Projects project shown) (invocation : Nat) (value : Value)
    (delivery : Delivery Whole) :
    (sink.deliver invocation value delivery).map (Delivery.map project) =
      shown.deliver invocation value (delivery.map project) := by
  unfold Sink.deliver
  rw [projects.isCancelled]
  show _ = if shown.isCancelled (project delivery.outside) then none else some _
  split
  · rfl
  · exact congrArg (fun after => some (⟨after, _, _⟩ : Delivery Part)) (projects.output _ _)

theorem judge (projects : sink.Projects project shown) (action : ErrorAction)
    (record : ErrorRecord) (delivery : Delivery Whole) :
    Prod.map id (Delivery.map project) (sink.judge action record delivery) =
      shown.judge action record (delivery.map project) := by
  have judged := projects.action_judge action record delivery.outside
  have seen : (delivery.map project).outside = project delivery.outside := rfl
  unfold Sink.judge
  rw [projects.isCancelled, seen, ← judged]
  split
  · rfl
  · rcases action.judge sink record delivery.outside with ⟨verdict, after⟩
    rfl

/-- The host of the sink, with a logger that does not show, shows as the host of the other. -/
theorem mirrors (projects : sink.Projects project shown) {logger : Logger Whole}
    (unseen : logger.Unseen project) (action : ErrorAction) (invocation : Nat) :
    (logger.watch (sink.host action invocation)).Mirrors Eq
      (fun delivery seen => seen = delivery.map project) (shown.host action invocation) where
  isCancelled := by
    rintro delivery _ rfl
    exact projects.isCancelled delivery.outside
  take := by
    rintro delivery _ value rfl
    show Option.Rel _ (sink.deliver _ _ _) (shown.deliver _ _ _)
    rw [← projects.deliver]
    cases sink.deliver invocation value delivery with
    | none => exact .none
    | some after => exact .some rfl
  judge := by
    rintro delivery _ record rfl
    show Verdict.Matches Eq (sink.judge action record delivery).1 (shown.judge _ _ _).1 ∧
      (shown.judge _ _ _).2 = _
    rw [← projects.judge]
    refine ⟨.refl (fun _ => rfl) _, ?_⟩
    show Delivery.map project (sink.judge action record delivery).2 =
      ⟨project (logger.tell _ (sink.judge action record delivery).2.outside), _, _⟩
    rw [unseen.tell Verdict.isDetail_of_mem_events]
    rfl

end Sink.Projects

/-! ### Invocations -/

namespace Session

variable {Outside : Type}

/-- The script of a request under way in the session. -/
def run (request : Request) (session : Session Outside) : Run Workspace Unit :=
  Interpreter.runScript session.engine.roundLimit request.script.statements
    (session.workspace.enter request.mode request.arguments)

/-- The end of the script of a request, with the sink for its host. -/
def served (sink : Sink Outside) (request : Request) (session : Session Outside) :
    Ended Workspace Unit (Delivery Outside) :=
  (session.run request).serve (sink.host request.action session.engine.next)
    ⟨session.outside, 0, 0⟩

/-- The engine after an invocation, which took its number. -/
def advanced (session : Session Outside) : Engine :=
  { session.engine with next := session.engine.next + 1 }

theorem invoke_of_cancelled {sink : Sink Outside} {session : Session Outside}
    (cancelled : sink.isCancelled session.outside = true) (request : Request) :
    session.invoke sink request =
      (.error .cancelled, ⟨session.advanced, session.workspace, session.outside⟩) :=
  if_pos cancelled

theorem invoke_of_live {sink : Sink Outside} {session : Session Outside}
    (live : sink.isCancelled session.outside = false) (request : Request) :
    session.invoke sink request =
      (conclude session.engine.next (session.served sink request).outside
          (session.served sink request).ending,
        ⟨session.advanced, (session.served sink request).state.leave session.workspace,
          (session.served sink request).outside.outside⟩) :=
  if_neg (ne_true_of_eq_false live)

/-- What of a session shows. -/
def map (project : Whole → Part) (session : Session Whole) : Session Part :=
  ⟨session.engine, session.workspace, project session.outside⟩

theorem map_tell {logger : Logger Whole} (unseen : logger.Unseen project)
    {events : List Logging.Event} (details : ∀ event ∈ events, event.isDetail)
    (session : Session Whole) :
    (session.tell logger events).map project = session.map project :=
  congrArg (Session.mk _ _) (unseen.tell details session.outside)

theorem conclude_map (invocation : Nat) (delivery : Delivery Whole) (ending : Ending Unit) :
    conclude invocation (delivery.map project) ending = conclude invocation delivery ending := by
  cases ending <;> rfl

variable {sink : Sink Whole} {shown : Sink Part}

/-- The end of a script shows as its end with the sink that shows, and without a log. -/
theorem served_map {logger : Logger Whole} (projects : sink.Projects project shown)
    (unseen : logger.Unseen project) (request : Request) (session : Session Whole) {start : Whole}
    (starts : project start = project session.outside) :
    Ended.Matches Eq (fun delivery seen => seen = delivery.map project)
      ((session.run request).serve (logger.watch (sink.host request.action session.engine.next))
        ⟨start, 0, 0⟩)
      ((session.map project).served shown request) :=
  (session.run request).serve_mirrored
    (projects.mirrors unseen request.action session.engine.next)
    (congrArg (Delivery.mk · 0 0) starts.symm)

/-- An invocation shows as one with the sink that shows, and without a log. -/
theorem invoke_map {logger : Logger Whole} (projects : sink.Projects project shown)
    (unseen : logger.Unseen project) (request : Request) (session : Session Whole) :
    (session.map project).invoke shown request =
      Prod.map id (map project) (session.invoke sink request logger) := by
  cases live : sink.isCancelled session.outside with
  | true =>
    have cancelled : shown.isCancelled (session.map project).outside = true :=
      (projects.isCancelled _).symm.trans live
    have logged : session.invoke sink request logger =
        (.error .cancelled, ⟨session.advanced, session.workspace, session.outside⟩) := if_pos live
    rw [invoke_of_cancelled cancelled, logged]
    rfl
  | false =>
    have liveShown : shown.isCancelled (session.map project).outside = false :=
      (projects.isCancelled _).symm.trans live
    let inner := logger.within (request.span session.engine.next)
    have innerUnseen : inner.Unseen project := unseen.within _
    let host := inner.watch (sink.host request.action session.engine.next)
    let start : Delivery Whole :=
      ⟨inner.tell (request.opening session.workspace) session.outside, 0, 0⟩
    let ended := (session.run request).serve host start
    let closing := ended.ending.events ((session.run request).isCancelledHandingOver host start)
      session.workspace ended.outside
    have logged : session.invoke sink request logger =
        (conclude session.engine.next ended.outside ended.ending,
          ⟨session.advanced, ended.state.leave session.workspace,
            inner.tell closing ended.outside.outside⟩) := if_neg (ne_true_of_eq_false live)
    obtain ⟨ending, state, outside⟩ :=
      served_map projects innerUnseen request session
        (innerUnseen.tell Request.isDetail_of_mem_opening session.outside)
    rw [invoke_of_live liveShown, logged, outside, ← ending, ← state, conclude_map]
    exact congrArg (fun seen => (_, (⟨_, _, seen⟩ : Session Part)))
      (innerUnseen.tell Ending.isDetail_of_mem_events _).symm

end Session

end SlashScript
