/-
This file compares one invocation of a script that was joined from two with an invocation of each,
one after the other in the scope of the caller. If the first script runs off the end of its text,
the joined one is then where the second begins: in the same workspace, with the same arguments and
the same state outside. What is left is a difference of bookkeeping. The second invocation has a
number of its own and counts its values and errors from zero, and the joined one goes on counting.

A sink may look at those numbers. What is said here is said of the sinks that do not, and their
states outside are compared by any relation that they respect; for most of them it is equality.
-/

import SlashScript.Proofs.Blocks.Joining
import SlashScript.Proofs.Boundary
import SlashScript.Proofs.Literal.Escaped

namespace SlashScript

/-! ### Blocks and scripts -/

namespace Interpreter

/-- What follows a block that ran off its end; otherwise the block ends what is around it. -/
def afterBlock (next : Workspace → Running) : Flow → Workspace → Running
  | .normal, workspace => next workspace
  | flow, workspace => .done flow workspace

/-- The end of a script: a value that is given back is emitted. -/
def atEnd : Flow → Workspace → Run Workspace Unit
  | .giveBack (some value), workspace => .emit value workspace fun _ => .done () workspace
  | _, workspace => .done () workspace

theorem runScript_eq (limit : Nat) (block : Block) (workspace : Workspace) :
    runScript limit block workspace = (runBlock limit block workspace).bind atEnd := rfl

/-- What follows a statement in a block. -/
def afterStatement (next : Workspace → Running) : Flow → Workspace → Running
  | .fault reason, workspace => raising ⟨.statement, reason.message⟩ workspace next
  | flow, workspace => afterBlock next flow workspace

theorem runBlock_cons (limit : Nat) (statement : Statement) (rest : Block)
    (workspace : Workspace) :
    runBlock limit (statement :: rest) workspace =
      .poll workspace fun _ =>
        (runStatement limit statement workspace).bind (afterStatement (runBlock limit rest)) := by
  rw [runBlock]
  congr 1
  funext _
  congr 1
  funext flow now
  cases flow <;> rfl

/-- The second half of a block runs where the first half ran off its end. -/
theorem runBlock_append (limit : Nat) (first second : Block) (workspace : Workspace) :
    runBlock limit (first ++ second) workspace =
      (runBlock limit first workspace).bind (afterBlock (runBlock limit second)) := by
  induction first generalizing workspace with
  | nil => rw [List.nil_append, runBlock, Run.bind_done, afterBlock]
  | cons statement rest inductionHypothesis =>
    rw [List.cons_append, runBlock_cons, runBlock_cons, Run.bind]
    congr 1
    funext _
    rw [Run.bind_assoc]
    congr 1
    funext flow now
    cases flow with
    | normal => exact inductionHypothesis now
    | fault reason =>
      rw [afterStatement, afterStatement, raising_eq, raising_eq, Run.bind]
      congr 1
      funext keeping
      exact inductionHypothesis _
    | leaveLoop | giveBack | halt => rfl

/-- A script that is joined from two goes on with the second where the first runs off its end. -/
theorem serve_runScript_append {Outside : Type} (host : Host Outside) (limit : Nat)
    (first second : Block) (workspace : Workspace) (outside : Outside)
    (fallsOff : ∀ flow, ((runBlock limit first workspace).serve host outside).ending =
      .finished flow → flow = .normal) :
    (runScript limit (first ++ second) workspace).serve host outside =
      ((runScript limit first workspace).serve host outside).andThen fun _ now outside =>
        (runScript limit second now).serve host outside := by
  rw [runScript_eq, runScript_eq, runBlock_append, Run.bind_assoc, Run.serve_bind, Run.serve_bind]
  rcases ended : (runBlock limit first workspace).serve host outside with ⟨ending, now, after⟩
  rw [ended] at fallsOff
  cases ending with
  | finished flow =>
    cases fallsOff flow rfl
    show ((runBlock limit second now).bind atEnd).serve host after = _
    rw [← runScript_eq]
    rfl
  | stopped | cancelled | exhausted => rfl

end Interpreter

/-! ### Sinks that do not look at numbers -/

/-- The call without the numbers of the invocation and of the position. -/
def SinkCall.unnumbered : SinkCall → SinkCall
  | output event => .output ⟨0, 0, event.value⟩
  | report record => .report record
  | inquire record goOn => .inquire record goOn

/-- Which invocation emits a value, and at which position, makes no difference to a sink: it keeps
states that are alike so, and answers alike in them. -/
structure Sink.Unnumbered {Outside : Type} (sink : Sink Outside)
    (alike : Outside → Outside → Prop) : Prop where
  refl : ∀ outside, alike outside outside
  output : ∀ {event event' : OutputEvent} {outside outside' : Outside},
    event.value = event'.value → alike outside outside' →
      alike (sink.output event outside) (sink.output event' outside')
  report : ∀ (record : ErrorRecord) {outside outside' : Outside}, alike outside outside' →
    alike (sink.report record outside) (sink.report record outside')
  inquire : ∀ (record : ErrorRecord) {outside outside' : Outside}, alike outside outside' →
    (sink.inquire record outside).1 = (sink.inquire record outside').1 ∧
      alike (sink.inquire record outside).2 (sink.inquire record outside').2
  isCancelled : ∀ {outside outside' : Outside}, alike outside outside' →
    sink.isCancelled outside = sink.isCancelled outside'

/-- A collector keeps the same calls, up to their numbers. -/
theorem Sink.collector_unnumbered (goOn : Bool) : (collector goOn).Unnumbered
    fun calls calls' => calls.map SinkCall.unnumbered = calls'.map SinkCall.unnumbered where
  refl _ := rfl
  output {event event'} _ _ sameValue alike := by
    show (_ ++ [SinkCall.output event]).map _ = (_ ++ [SinkCall.output event']).map _
    rw [List.map_append, List.map_append, alike]
    exact congrArg (fun value => _ ++ [SinkCall.output ⟨0, 0, value⟩]) sameValue
  report record _ _ alike := by
    show (_ ++ [SinkCall.report record]).map _ = (_ ++ [SinkCall.report record]).map _
    rw [List.map_append, List.map_append, alike]
  inquire record _ _ alike := by
    refine ⟨rfl, ?_⟩
    show (_ ++ [SinkCall.inquire record goOn]).map _ = (_ ++ [SinkCall.inquire record goOn]).map _
    rw [List.map_append, List.map_append, alike]
  isCancelled _ := rfl

/-- What was delivered further on, compared with what was delivered from an outset: the calls come
after others, and the counts are greater by as much. -/
structure Delivery.Continues {Outside : Type} (alike : Outside → Outside → Prop)
    (outset further anew : Delivery (Outside × List SinkCall)) : Prop where
  outside : alike further.outside.1 anew.outside.1
  calls : further.outside.2.map SinkCall.unnumbered =
    (outset.outside.2 ++ anew.outside.2).map SinkCall.unnumbered
  emitted : further.emitted = outset.emitted + anew.emitted
  errors : further.errors = outset.errors + anew.errors

namespace Sink.Unnumbered

variable {Outside : Type} {sink : Sink Outside} {alike : Outside → Outside → Prop}
  {outset further anew : Delivery (Outside × List SinkCall)}

theorem judge (unnumbered : sink.Unnumbered alike) (action : ErrorAction) (record : ErrorRecord)
    {outside outside' : Outside} (same : alike outside outside') :
    (action.judge sink record outside).1 = (action.judge sink record outside').1 ∧
      alike (action.judge sink record outside).2 (action.judge sink record outside').2 ∧
        sink.callsFor action record outside = sink.callsFor action record outside' := by
  cases action with
  | silent | stop | ignore => exact ⟨rfl, same, rfl⟩
  | proceed => exact ⟨rfl, unnumbered.report record same, rfl⟩
  | inquire =>
    obtain ⟨answers, after⟩ := unnumbered.inquire record same
    rw [judge_inquire, judge_inquire, callsFor, callsFor, answers]
    split
    · exact ⟨rfl, unnumbered.report record after, rfl⟩
    · exact ⟨rfl, after, rfl⟩

theorem push (unnumbered : sink.Unnumbered alike)
    (continues : outset.Continues alike further anew) (invocation invocation' : Nat)
    (value : Value) :
    outset.Continues alike (sink.recorded.push invocation value further)
      (sink.recorded.push invocation' value anew) where
  outside := unnumbered.output rfl continues.outside
  calls := by
    show (further.outside.2 ++ [_]).map _ = (outset.outside.2 ++ (anew.outside.2 ++ [_])).map _
    rw [← List.append_assoc, List.map_append, List.map_append, continues.calls]
    rfl
  emitted := congrArg (· + 1) continues.emitted
  errors := continues.errors

theorem settle (unnumbered : sink.Unnumbered alike)
    (continues : outset.Continues alike further anew) (action : ErrorAction)
    (record : ErrorRecord) :
    outset.Continues alike (sink.recorded.settle action record further)
      (sink.recorded.settle action record anew) := by
  obtain ⟨verdicts, outside, calls⟩ := unnumbered.judge action record continues.outside
  rw [settle_recorded, settle_recorded]
  refine ⟨outside, ?_, continues.emitted, ?_⟩
  · show (further.outside.2 ++ _).map _ = (outset.outside.2 ++ (anew.outside.2 ++ _)).map _
    rw [← List.append_assoc, List.map_append, List.map_append, continues.calls, calls]
  · show (if (action.judge sink record further.outside.1).1 = .log then further.errors + 1
      else further.errors) = outset.errors +
        if (action.judge sink record anew.outside.1).1 = .log then anew.errors + 1 else anew.errors
    rw [verdicts, continues.errors]
    split <;> rfl

/-- Further on, a recorded sink gives the answers that it gives from an outset. -/
theorem mirrors (unnumbered : sink.Unnumbered alike) (action : ErrorAction)
    (invocation invocation' : Nat) (outset : Delivery (Outside × List SinkCall)) :
    (sink.recorded.host action invocation).Mirrors Eq (outset.Continues alike)
      (sink.recorded.host action invocation') where
  isCancelled continues := unnumbered.isCancelled continues.outside
  take {further anew} value continues := by
    show Option.Rel _ (sink.recorded.deliver _ _ _) (sink.recorded.deliver _ _ _)
    have same := unnumbered.isCancelled continues.outside
    cases live : sink.recorded.isCancelled anew.outside with
    | true =>
      rw [deliver_of_cancelled (same.trans live), deliver_of_cancelled live]
      exact .none
    | false =>
      rw [deliver_of_live (same.trans live), deliver_of_live live]
      exact .some (unnumbered.push continues _ _ value)
  judge {further anew} record continues := by
    show Verdict.Matches Eq (sink.recorded.judge _ _ _).1 (sink.recorded.judge _ _ _).1 ∧
      outset.Continues alike (sink.recorded.judge _ _ _).2 (sink.recorded.judge _ _ _).2
    have same := unnumbered.isCancelled continues.outside
    cases live : sink.recorded.isCancelled anew.outside with
    | true =>
      rw [judge_of_cancelled (same.trans live), judge_of_cancelled live]
      exact ⟨.cancel, continues⟩
    | false =>
      rw [judge_of_live (same.trans live), judge_of_live live]
      refine ⟨?_, unnumbered.settle continues action record⟩
      rw [judge_recorded, judge_recorded, (unnumbered.judge action record continues.outside).1]
      exact .refl (fun _ => rfl) _

end Sink.Unnumbered

/-! ### Workspaces between two invocations -/

namespace Workspace

variable {allowed : List Touch} {workspace inside : Workspace} {arguments : List Value}

/-- A script that shares the scope of its caller leaves everything behind but its arguments. -/
theorem Bounded.leave_callerScope
    (bounded : (workspace.enter .callerScope arguments).Bounded allowed inside) :
    inside.leave workspace = { inside with frames := workspace.frames } := by
  have locals : inside.locals.length = workspace.locals.length := bounded.1.length_eq
  have frames : (inside.leave workspace).frames = workspace.frames := (bounded.leave workspace).1
  rw [← frames]
  unfold Workspace.leave
  rw [locals, Nat.sub_self, List.drop_zero]

/-- With the same arguments, the next script finds what the first one saw last. -/
theorem Bounded.enter_leave
    (bounded : (workspace.enter .callerScope arguments).Bounded allowed inside) :
    (inside.leave workspace).enter .callerScope arguments = inside := by
  have frames : inside.frames = arguments :: workspace.frames := bounded.2
  rw [bounded.leave_callerScope]
  unfold enter
  rw [← frames]

/-- To go back to where the first script was left is to go back to where it began. -/
theorem Bounded.leave_leave
    (bounded : (workspace.enter .callerScope arguments).Bounded allowed inside)
    (later : Workspace) : later.leave (inside.leave workspace) = later.leave workspace := by
  have locals : inside.locals.length = workspace.locals.length := bounded.1.length_eq
  rw [bounded.leave_callerScope]
  unfold Workspace.leave
  rw [locals]

end Workspace

/-! ### Invocations one after the other -/

/-- Asks for a script in the scope of the caller. -/
def Request.shared (arguments : List Value) (action : ErrorAction) (script : Script) : Request :=
  ⟨script, arguments, .callerScope, action⟩

/-- The outcome of a script that goes on where another ended with an outcome of its own. -/
def Outcome.followedBy (outcome more : Outcome) : Outcome :=
  ⟨outcome.invocation, outcome.emitted + more.emitted, outcome.errors + more.errors⟩

/-- One invocation comes to what two come to, the second of which asks for `later` in the session
that the first leaves behind. A failure of the first is the end; if the second fails, then in the
same way. Only where there is nothing to run, nobody notices a cancellation between the two. -/
inductive Upshot.Joins {Outside : Type} (sink : Sink Outside) (alike : Outside → Outside → Prop)
    (later : Script) (whole one two : Upshot Outside) : Prop where
  | failed {failure : Failure} (fails : one.result = .error failure) (same : whole = one)
  | ended {outcome : Outcome} (ends : one.result = .ok outcome)
    (result : (sink.isCancelled one.session.outside = true → later.statements ≠ []) →
      whole.result = two.result.map outcome.followedBy)
    (calls : whole.calls.map SinkCall.unnumbered =
      (one.calls ++ two.calls).map SinkCall.unnumbered)
    (workspace : whole.session.workspace = two.session.workspace)
    (outside : alike whole.session.outside two.session.outside)

namespace Session

variable {Outside : Type} {sink : Sink Outside} {session : Session Outside}

/-- If the script of a request comes to an end, then at the end of its text: it is not ended by a
value that is given back, outside of loops by leaving one, or by an error that it throws. -/
def FallsOff (sink : Sink Outside) (request : Request) (session : Session Outside) : Prop :=
  ∀ flow, ((Interpreter.runBlock session.engine.roundLimit request.script.statements
      (session.workspace.enter request.mode request.arguments)).serve
        (sink.host request.action session.engine.next) ⟨session.outside, 0, 0⟩).ending =
    .finished flow → flow = .normal

theorem FallsOff.recording {request : Request} (fallsOff : session.FallsOff sink request) :
    session.recording.FallsOff sink.recorded request := by
  intro flow finished
  refine fallsOff flow (Eq.trans (Eq.symm ?_) finished)
  have mirrors := sink.recorded_projects.mirrors (.silent _) request.action session.engine.next
  exact (Run.serve_mirrored _ mirrors
    (rfl : (⟨session.outside, 0, 0⟩ : Delivery Outside) = _)).ending

/-- A script that was joined from two goes on with the second where the first fell off. -/
theorem served_join {first second joined : Script}
    (statements : joined.statements = first.statements ++ second.statements)
    {arguments : List Value} {action : ErrorAction}
    (fallsOff : session.FallsOff sink (.shared arguments action first)) :
    session.served sink (.shared arguments action joined) =
      (session.served sink (.shared arguments action first)).andThen fun _ now delivery =>
        (Interpreter.runScript session.engine.roundLimit second.statements now).serve
          (sink.host action session.engine.next) delivery := by
  refine (congrArg (fun block => (Interpreter.runScript session.engine.roundLimit block _).serve
    _ _) statements).trans ?_
  exact Interpreter.serve_runScript_append _ _ _ _ _ _ fallsOff

/-- A cancelled host lets a script do nothing. It notices that it is cancelled only if there is
something to run. -/
theorem serve_runScript_of_cancelled (host : Host Outside) {outside : Outside}
    (cancelled : host.isCancelled outside = true) (limit : Nat) (block : Block)
    (workspace : Workspace) :
    ∃ ending, (Interpreter.runScript limit block workspace).serve host outside =
        ⟨ending, workspace, outside⟩ ∧ (block ≠ [] → ending = .cancelled) := by
  cases block with
  | nil => exact ⟨.finished (), rfl, fun nonempty => absurd rfl nonempty⟩
  | cons statement rest =>
    refine ⟨.cancelled, ?_, fun _ => rfl⟩
    rw [Interpreter.runScript_eq, Interpreter.runBlock_cons, Run.bind, Run.serve,
      if_pos cancelled]

variable {alike : Outside → Outside → Prop} {arguments : List Value} {action : ErrorAction}
  {first second joined : Script}

/-- Where nobody is cancelled, the second half of a joined script is served as the second script by
itself, but for the bookkeeping. -/
theorem served_second (unnumbered : sink.Unnumbered alike) (request : Request)
    (session : Session (Outside × List SinkCall)) {now : Workspace}
    (inside : session.workspace.enter request.mode request.arguments = now)
    {outset : Delivery (Outside × List SinkCall)}
    (outside : session.outside = (outset.outside.1, [])) (invocation : Nat) :
    Ended.Matches Eq (outset.Continues alike)
      ((Interpreter.runScript session.engine.roundLimit request.script.statements now).serve
        (sink.recorded.host request.action invocation) outset)
      (session.served sink.recorded request) := by
  have anew : outset.Continues alike outset ⟨session.outside, 0, 0⟩ := by
    rw [outside]
    exact ⟨unnumbered.refl _, by rw [List.append_nil], rfl, rfl⟩
  rw [← inside]
  exact Run.serve_mirrored _ (unnumbered.mirrors _ _ _ outset) anew

theorem conclude_continues {outset further anew : Delivery (Outside × List SinkCall)}
    (continues : outset.Continues alike further anew) (invocation invocation' : Nat)
    (ending : Ending Unit) :
    conclude invocation further ending =
      (conclude invocation' anew ending).map
        (Outcome.followedBy ⟨invocation, outset.emitted, outset.errors⟩) := by
  cases ending with
  | finished => rw [conclude, continues.emitted, continues.errors]; rfl
  | stopped | cancelled | exhausted => rfl

/-- The second half of a joined script comes to what the second script comes to by itself, in the
session in which the first one is left. -/
theorem joins_of_finished (unnumbered : sink.Unnumbered alike)
    (statements : joined.statements = first.statements ++ second.statements)
    (live : sink.isCancelled session.outside = false)
    (fallsOff : session.FallsOff sink (.shared arguments action first))
    {now : Workspace} {outset : Delivery (Outside × List SinkCall)}
    (finished : session.recording.served sink.recorded (.shared arguments action first) =
      ⟨.finished (), now, outset⟩) :
    let one := session.upshot sink (.shared arguments action first)
    Upshot.Joins sink alike second (session.upshot sink (.shared arguments action joined)) one
      (one.session.upshot sink (.shared arguments action second)) := by
  have yields : session.Yields sink (.shared arguments action first) _ := .atOnce
  have bounded := yields.bounded
  rw [upshot_of_live live, finished] at bounded
  have whole : session.recording.served sink.recorded (.shared arguments action joined) =
      (Interpreter.runScript session.engine.roundLimit second.statements now).serve
        (sink.recorded.host action session.engine.next) outset := by
    rw [served_join statements fallsOff.recording, finished]
    rfl
  rw [upshot_of_live live, upshot_of_live live, finished, whole]
  let between : Session Outside :=
    ⟨session.advanced, now.leave session.workspace, outset.outside.1⟩
  show Upshot.Joins sink alike second _ _ (between.upshot sink (.shared arguments action second))
  cases later : sink.isCancelled between.outside with
  | true =>
    obtain ⟨ending, served, notices⟩ := serve_runScript_of_cancelled
      (sink.recorded.host action session.engine.next) later session.engine.roundLimit
      second.statements now
    rw [upshot_of_cancelled later, served]
    refine .ended rfl (fun nonempty => ?_) ?_ rfl (unnumbered.refl _)
    · rw [notices (nonempty later)]
      rfl
    · rw [List.append_nil]
  | false =>
    have reentered : between.workspace.enter .callerScope arguments = now := bounded.enter_leave
    obtain ⟨ending, state, continues⟩ := served_second unnumbered (.shared arguments action second)
      between.recording reentered rfl session.engine.next
    rw [upshot_of_live later]
    refine .ended rfl (fun _ => ?_) continues.calls ?_ continues.outside
    · exact (congrArg (conclude _ _) ending).trans (conclude_continues continues _ _ _)
    · exact (congrArg (·.leave session.workspace) state).trans (bounded.leave_leave _).symm

/-- If the first script falls off its end, a joined script comes to what the two come to one after
the other. -/
theorem upshot_joins (unnumbered : sink.Unnumbered alike)
    (statements : joined.statements = first.statements ++ second.statements)
    (fallsOff : session.FallsOff sink (.shared arguments action first)) :
    let one := session.upshot sink (.shared arguments action first)
    Upshot.Joins sink alike second (session.upshot sink (.shared arguments action joined)) one
      (one.session.upshot sink (.shared arguments action second)) := by
  cases live : sink.isCancelled session.outside with
  | true =>
    rw [upshot_of_cancelled live, upshot_of_cancelled live]
    exact .failed rfl rfl
  | false =>
    rcases served : session.recording.served sink.recorded (.shared arguments action first) with
      ⟨ending, now, outset⟩
    cases ending with
    | finished => exact joins_of_finished unnumbered statements live fallsOff served
    | stopped | cancelled | exhausted =>
      rw [upshot_of_live live, upshot_of_live live, served_join statements fallsOff.recording,
        served]
      exact .failed rfl rfl

end Session

namespace Script

open Session Statement

/-- Two texts that compile are compiled as one when they are joined by a newline, if the first has
no carriage returns and closes its logical lines: the statements of the second follow those of the
first. Where the first script falls off its end, to invoke the joined one in the scope of the caller
is to invoke the two one after the other. This holds if the sink answers at once; and if its calls
do not cancel, it holds of everything that worker and consumer may come to. -/
theorem compile_join {source source' : String} {first second : Script}
    (isFirst : compile source = .ok first) (isSecond : compile source' = .ok second)
    (noReturn : '\r' ∉ source.toList) (closes : Layout.Closes (Text.lines source.toList)) :
    ∃ joined, compile (source ++ "\n" ++ source') = .ok joined ∧
      joined.statements = first.statements ++ second.statements ∧
      ∀ {Outside : Type} {sink : Sink Outside} {alike : Outside → Outside → Prop},
        sink.Unnumbered alike →
        ∀ (session : Session Outside) (arguments : List Value) (action : ErrorAction),
          session.FallsOff sink (.shared arguments action first) →
          let one := session.upshot sink (.shared arguments action first)
          Upshot.Joins sink alike second (session.upshot sink (.shared arguments action joined)) one
              (one.session.upshot sink (.shared arguments action second)) ∧
            (sink.Quiet → ∀ whole one two,
              session.Yields sink (.shared arguments action joined) whole →
              session.Yields sink (.shared arguments action first) one →
              one.session.Yields sink (.shared arguments action second) two →
              Upshot.Joins sink alike second whole one two) := by
  obtain ⟨block, parsed, rfl⟩ := map_eq_ok.mp isFirst
  obtain ⟨block', parsed', rfl⟩ := map_eq_ok.mp isSecond
  have joinedText : (source ++ "\n" ++ source').toList =
      source.toList ++ '\n' :: source'.toList := by
    simp
  have compiled := Statement.parse_join noReturn closes parsed parsed'
  rw [← joinedText] at compiled
  refine ⟨_, map_eq_ok.mpr ⟨_, compiled, rfl⟩, rfl, ?_⟩
  intro Outside sink alike unnumbered session arguments action fallsOff
  have statements : (⟨source ++ "\n" ++ source', block ++ block'⟩ : Script).statements =
      block ++ (⟨source', block'⟩ : Script).statements := rfl
  have atOnce := upshot_joins unnumbered statements fallsOff
  refine ⟨atOnce, fun quiet whole one two yields isOne isTwo => ?_⟩
  cases yields.eq_of_quiet quiet
  cases isOne.eq_of_quiet quiet
  cases isTwo.eq_of_quiet quiet
  exact atOnce

/-- An error and an assignment, and then a script that shows what was assigned. -/
theorem compile_join_assignment :
    ∃ joined, compile ("/error oops\n/set x hi" ++ "\n" ++ "/echo %x") = .ok joined ∧
      (beginning.upshot (.collector true) (.shared [] .proceed joined)).calls.map
          SinkCall.unnumbered =
        [.report ⟨.nonTerminating, "oops"⟩, .output ⟨0, 0, .text "hi"⟩] := by
  let first : Script := ⟨"/error oops\n/set x hi",
    [.error ⟨[.literal "oops"]⟩, .set "x" ⟨[.literal "hi"]⟩ false]⟩
  let second : Script := ⟨"/echo %x", [.echo ⟨[.named "x" none]⟩]⟩
  have raises : directive "/error oops".toList = .ok (.plain (.error (.literal "oops"))) := by
    show templateOf "oops".toList >>=
      (fun reason => Except.ok (Directive.plain (.error reason))) = _
    rw [templateOf_of_not_mem (by decide) (by decide)]
    rfl
  have assigns : directive "/set x hi".toList = .ok (.plain (.set "x" (.literal "hi") false)) := by
    show templateOf "hi".toList >>=
      (fun value => Except.ok (Directive.plain (.set "x" value false))) = _
    rw [templateOf_of_not_mem (by decide) (by decide)]
    rfl
  have trimmed : Text.Trimmed ['%', 'x'] := Text.trim_eq_self_iff.mp rfl
  have shows : directive "/echo %x".toList = .ok (.plain (.echo ⟨[.named "x" none]⟩)) :=
    directive_echoing trimmed (Template.compile_of_part rfl)
  have lines : Layout.statements "/error oops\n/set x hi".toList =
      [⟨1, "/error oops".toList⟩, ⟨2, "/set x hi".toList⟩] := by
    decide +kernel
  have line : Layout.statements "/echo %x".toList = [⟨1, "/echo %x".toList⟩] := by
    decide +kernel
  have spells : Spells maxNesting [⟨1, "/error oops".toList⟩, ⟨2, "/set x hi".toList⟩]
      first.statements := .plain (.plain raises) (.plain (.plain assigns) .nil)
  have isFirst : compile "/error oops\n/set x hi" = .ok first :=
    map_eq_ok.mpr ⟨_, (congrArg ofSource lines).trans (ofSource_eq_ok_iff.mpr spells), rfl⟩
  have isSecond : compile "/echo %x" = .ok second :=
    map_eq_ok.mpr ⟨_, parse_of_plain line shows, rfl⟩
  have closes : Layout.Closes (Text.lines "/error oops\n/set x hi".toList) := by
    intro line isLast
    cases (show some "/set x hi".toList = some line from isLast)
    decide
  have fallsOff : beginning.FallsOff (.collector true) (.shared [] .proceed first) := by
    intro flow finished
    cases (show Ending.finished Flow.normal = .finished flow from finished)
    rfl
  obtain ⟨joined, compiled, _, runs⟩ := compile_join isFirst isSecond (by decide) closes
  refine ⟨joined, compiled, ?_⟩
  obtain ⟨joins, _⟩ := runs (Sink.collector_unnumbered true) beginning [] .proceed fallsOff
  cases joins with
  | failed fails => cases fails
  | ended _ _ calls => exact calls

end Script

end SlashScript
