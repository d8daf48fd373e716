/-
This file follows the signals by which a statement ends something around it: the innermost loop is
left, a value is given back, a thrown error has passed, or an evaluation has failed. A signal goes
from frame to frame, innermost first. A block raises a failed evaluation as an error and goes on; a
loop takes the signal to leave it for its own normal end; and every frame hands on the other
signals, so that they end everything around the statement. Interruptions do so too, and they come
from the pipe alone.
-/

import SlashScript.Proofs.Places
import SlashScript.Proofs.Unrolling

namespace SlashScript

namespace Run

variable {First Second Result : Type}

/-! ### Results -/

/-- To say what follows a result that a run does not come to makes no difference. -/
theorem EndsIn.bind_congr {allowed : First → Prop} {run : Run Workspace First}
    (endsIn : run.EndsIn allowed) {continuation other : First → Workspace → Run Workspace Second}
    (same : ∀ result now, allowed result → continuation result now = other result now) :
    run.bind continuation = run.bind other := by
  induction run with
  | done result now => exact same result now endsIn
  | exhausted now => rfl
  | poll now next inductionHypothesis => simp only [bind, inductionHypothesis () endsIn]
  | emit value now next inductionHypothesis => simp only [bind, inductionHypothesis () endsIn]
  | raise record now next inductionHypothesis =>
    simp only [bind, fun keeping => inductionHypothesis keeping (endsIn keeping)]

theorem LeadsTo.endsIn {allowed : Result → Prop} {run rest : Run Workspace Result}
    {answers : List Answer} (leads : run.LeadsTo answers rest) (endsIn : run.EndsIn allowed) :
    rest.EndsIn allowed := by
  induction leads with
  | here run => exact endsIn
  | goOn _ inductionHypothesis => exact inductionHypothesis endsIn
  | taken _ inductionHypothesis => exact inductionHypothesis endsIn
  | kept keeping _ inductionHypothesis => exact inductionHypothesis (endsIn keeping)

theorem EndsIn.of_drive {allowed : Result → Prop} {run : Run Workspace Result}
    (endsIn : run.EndsIn allowed) {Outside : Type} {pipe : Pipe Outside} {outside : Outside}
    {result : Result} (finished : (run.drive pipe outside).ending = .finished result) :
    allowed result := by
  obtain ⟨answers, passes⟩ := passes_of_finished finished
  exact passes.leadsTo.endsIn endsIn

end Run

/-! ### Signals and frames -/

/-- The signals that end the whole script. -/
def Flow.isFinal : Flow → Bool
  | giveBack _ => true
  | halt => true
  | normal => false
  | leaveLoop => false
  | fault _ => false

/-- The script is over: it was left, or it was ended from outside. -/
def Ending.isFinal : Ending Flow → Bool
  | finished flow => flow.isFinal
  | stopped _ => true
  | cancelled => true
  | exhausted => true

namespace Interpreter

/-- A signal that ends the script passes through every stack. -/
theorem resumeAll_of_isFinal {flow : Flow} (isFinal : flow.isFinal = true) (limit : Nat)
    (stack : List Frame) (now : Workspace) : resumeAll limit stack flow now = .done flow now := by
  induction stack with
  | nil => rfl
  | cons frame outer inductionHypothesis =>
    have passes : frame.resume limit flow now = .done flow now := by
      cases frame <;> cases flow <;> first | rfl | cases isFinal
    rw [resumeAll, passes, Run.bind_done, inductionHypothesis]

/-- The blocks inside a loop hand on the signal to leave it. -/
theorem resumeAll_leaveLoop_of_rests {stack : List Frame}
    (rests : ∀ frame ∈ stack, frame.isLoop = false) (limit : Nat) (now : Workspace) :
    resumeAll limit stack .leaveLoop now = .done .leaveLoop now := by
  induction stack with
  | nil => rfl
  | cons frame outer inductionHypothesis =>
    obtain ⟨isRest, rests⟩ := List.forall_mem_cons.mp rests
    have passes : frame.resume limit .leaveLoop now = .done .leaveLoop now := by
      cases frame <;> first | rfl | cases isRest
    rw [resumeAll, passes, Run.bind_done, inductionHypothesis rests]

/-- The innermost loop is left and has ended normally for what is around it. -/
theorem resumeAll_leaveLoop {inner : List Frame} (rests : ∀ frame ∈ inner, frame.isLoop = false)
    {loop : Frame} (isLoop : loop.isLoop = true) (limit : Nat) (outer : List Frame)
    (now : Workspace) :
    resumeAll limit (inner ++ loop :: outer) .leaveLoop now =
      resumeAll limit outer .normal now := by
  have ends : loop.resume limit .leaveLoop now = .done .normal now := by
    cases loop <;> first | rfl | cases isLoop
  rw [resumeAll_append, resumeAll_leaveLoop_of_rests rests, Run.bind_done, resumeAll, ends,
    Run.bind_done]

/-! ### Loops -/

/-- An evaluation ends its statement with a failure, or what follows it is done. -/
theorem evaluating_cases {Result : Type} {motive : Running → Prop} {evaluation : Evaluation Result}
    {next : Result → Workspace → Running} (now : Workspace)
    (failed : ∀ reason now, motive (.done (.fault reason) now))
    (continued : ∀ result now, motive (next result now)) :
    motive (evaluating evaluation now next) := by
  unfold evaluating
  rcases evaluation now with ⟨reason | result, after⟩
  · exact failed reason after
  · exact continued result after

theorem evaluating_endsIn {Result : Type} {evaluation : Evaluation Result}
    {next : Result → Workspace → Running} (now : Workspace)
    (continued : ∀ result now, (next result now).EndsIn (· ≠ .leaveLoop)) :
    (evaluating evaluation now next).EndsIn (· ≠ .leaveLoop) :=
  evaluating_cases now (fun _ _ => nofun) continued

theorem afterRound_endsIn {next : Workspace → Running}
    (continued : ∀ now, (next now).EndsIn (· ≠ .leaveLoop)) (flow : Flow) (now : Workspace) :
    (afterRound flow now next).EndsIn (· ≠ .leaveLoop) := by
  cases flow with
  | normal => exact continued now
  | leaveLoop | giveBack | halt | fault => exact nofun

theorem whileRounds_endsIn (condition : Evaluation Value) (body : Workspace → Running)
    (rounds : Nat) (now : Workspace) :
    (whileRounds condition body rounds now).EndsIn (· ≠ .leaveLoop) := by
  induction rounds generalizing now with
  | zero => trivial
  | succ rounds inductionHypothesis =>
    refine evaluating_endsIn now fun value after => ?_
    split
    · exact Run.endsIn_bind (body after) (afterRound_endsIn inductionHypothesis)
    · exact nofun

theorem forRounds_endsIn (name : String) (body : Workspace → Running) (rounds : Nat)
    (current : Int) (now : Workspace) :
    (forRounds name body rounds current now).EndsIn (· ≠ .leaveLoop) := by
  induction rounds generalizing current now with
  | zero => exact nofun
  | succ rounds inductionHypothesis =>
    exact Run.endsIn_bind (body _) (afterRound_endsIn (inductionHypothesis (current + 1)))

end Interpreter

/-- Whether a statement is a loop. -/
def Statement.isLoop : Statement → Bool
  | whileLoop .. => true
  | forLoop .. => true
  | _ => false

namespace Interpreter

/-- The signal to leave a loop does not leave it. -/
theorem runStatement_endsIn {statement : Statement} (isLoop : statement.isLoop = true)
    (limit : Nat) (now : Workspace) :
    (runStatement limit statement now).EndsIn (· ≠ .leaveLoop) := by
  cases statement with
  | whileLoop condition body => exact whileRounds_endsIn _ _ limit now
  | forLoop name first last body =>
    exact evaluating_endsIn now fun lower now => evaluating_endsIn now fun upper =>
      forRounds_endsIn name _ _ _
  | echo | emit | set | unset | param | evaluate | choose | leaveLoop | giveBack | error | throw =>
    cases isLoop

end Interpreter

/-! ### Thrown errors -/

/-- The run comes to the signal of a thrown error only right after such an error was allowed to
pass, or at once, if one was before. -/
def Run.Halts (thrown : Prop) : Run Workspace Flow → Prop
  | .done flow _ => flow = .halt → thrown
  | .exhausted _ => True
  | .poll _ next => (next ()).Halts False
  | .emit _ _ next => (next ()).Halts False
  | .raise record _ next => ∀ keeping, (next keeping).Halts (record.kind = .thrown)

namespace Run

theorem Halts.mono {run : Run Workspace Flow} (halts : run.Halts False) (thrown : Prop) :
    run.Halts thrown := by
  cases run with
  | done flow now => exact fun isHalt => (halts isHalt).elim
  | exhausted now => trivial
  | poll now next => exact halts
  | emit value now next => exact halts
  | raise record now next => exact halts

theorem Halts.bind {thrown : Prop} {run : Run Workspace Flow}
    {continuation : Flow → Workspace → Run Workspace Flow} (halts : run.Halts thrown)
    (continued : ∀ flow now, flow ≠ .halt → (continuation flow now).Halts False)
    (passes : ∀ now, continuation .halt now = .done .halt now) :
    (run.bind continuation).Halts thrown := by
  induction run generalizing thrown with
  | done flow now =>
    by_cases isHalt : flow = .halt
    · rw [isHalt, bind_done, passes]
      exact fun _ => halts isHalt
    · exact (continued flow now isHalt).mono thrown
  | exhausted now => trivial
  | poll now next inductionHypothesis => exact inductionHypothesis () halts
  | emit value now next inductionHypothesis => exact inductionHypothesis () halts
  | raise record now next inductionHypothesis =>
    exact fun keeping => inductionHypothesis keeping (halts keeping)

/-- The last answer of a course to the signal of a thrown error has let such an error pass. -/
theorem Halts.last {thrown : Prop} {run : Run Workspace Flow} {answers : List Answer}
    {now : Workspace} (halts : run.Halts thrown) (leads : run.LeadsTo answers (.done .halt now)) :
    (answers = [] ∧ thrown) ∨ ∃ earlier record keeping,
      answers = earlier ++ [.kept record keeping] ∧ record.kind = .thrown := by
  have further {answers : List Answer} (answer : Answer) {thrown : Prop}
      (last : (answers = [] ∧ thrown) ∨ ∃ earlier record keeping,
        answers = earlier ++ [.kept record keeping] ∧ record.kind = .thrown)
      (first : thrown → ∃ record keeping, answer = .kept record keeping ∧ record.kind = .thrown) :
      ∃ earlier record keeping,
        answer :: answers = earlier ++ [.kept record keeping] ∧ record.kind = .thrown := by
    rcases last with ⟨rfl, isThrown⟩ | ⟨earlier, record, keeping, rfl, isThrown⟩
    · obtain ⟨record, keeping, rfl, isThrown⟩ := first isThrown
      exact ⟨[], record, keeping, rfl, isThrown⟩
    · exact ⟨answer :: earlier, record, keeping, rfl, isThrown⟩
  generalize isEnd : Run.done Flow.halt now = rest at leads
  induction leads generalizing thrown with
  | here run =>
    subst isEnd
    exact .inl ⟨rfl, halts rfl⟩
  | goOn _ inductionHypothesis =>
    exact .inr (further .goOn (inductionHypothesis halts isEnd) False.elim)
  | @taken value _ _ _ _ _ inductionHypothesis =>
    exact .inr (further (.taken value) (inductionHypothesis halts isEnd) False.elim)
  | @kept record _ _ keeping _ _ _ inductionHypothesis =>
    exact .inr (further (.kept record keeping) (inductionHypothesis (halts keeping) isEnd)
      fun isThrown => ⟨record, keeping, rfl, isThrown⟩)

end Run

namespace Interpreter

theorem evaluating_halts {Result : Type} {evaluation : Evaluation Result}
    {next : Result → Workspace → Running} (now : Workspace)
    (continued : ∀ result now, (next result now).Halts False) :
    (evaluating evaluation now next).Halts False :=
  evaluating_cases now (fun _ _ => nofun) continued

theorem emitAll_halts (items : List Expression) (now : Workspace) :
    (emitAll items now).Halts False := by
  induction items generalizing now with
  | nil => exact nofun
  | cons item items inductionHypothesis =>
    exact evaluating_halts now fun value now => inductionHypothesis now

theorem afterRound_halts {next : Workspace → Running} (continued : ∀ now, (next now).Halts False)
    (flow : Flow) (now : Workspace) (notHalt : flow ≠ .halt) :
    (afterRound flow now next).Halts False := by
  cases flow with
  | normal => exact continued now
  | leaveLoop | giveBack | fault => exact nofun
  | halt => exact absurd rfl notHalt

theorem whileRounds_halts {condition : Evaluation Value} {body : Workspace → Running}
    (ofBody : ∀ now, (body now).Halts False) (rounds : Nat) (now : Workspace) :
    (whileRounds condition body rounds now).Halts False := by
  induction rounds generalizing now with
  | zero => trivial
  | succ rounds inductionHypothesis =>
    refine evaluating_halts now fun value after => ?_
    split
    · exact (ofBody after).bind (afterRound_halts inductionHypothesis) fun _ => rfl
    · exact nofun

theorem forRounds_halts {name : String} {body : Workspace → Running}
    (ofBody : ∀ now, (body now).Halts False) (rounds : Nat) (current : Int) (now : Workspace) :
    (forRounds name body rounds current now).Halts False := by
  induction rounds generalizing current now with
  | zero => exact nofun
  | succ rounds inductionHypothesis =>
    exact (ofBody _).bind (afterRound_halts (inductionHypothesis (current + 1))) fun _ => rfl

mutual

/-- Only a thrown error halts a statement. -/
theorem runStatement_halts (limit : Nat) : ∀ (statement : Statement) (now : Workspace),
    (runStatement limit statement now).Halts False
  | .echo text, now => evaluating_halts now fun _ _ => nofun
  | .emit items, now => emitAll_halts items now
  | .set name value isGlobal, now => evaluating_halts now fun _ _ => nofun
  | .unset name, _ => nofun
  | .param names, _ => nofun
  | .evaluate expression, now => evaluating_halts now fun _ _ => nofun
  | .choose branches otherwise, now =>
    runBranches_halts limit branches (runBlock_halts limit otherwise) now
  | .whileLoop condition body, now => whileRounds_halts (runBlock_halts limit body) limit now
  | .forLoop name first last body, now =>
    evaluating_halts now fun _ now => evaluating_halts now fun _ now =>
      forRounds_halts (runBlock_halts limit body) _ _ now
  | .leaveLoop, _ => nofun
  | .giveBack none, _ => nofun
  | .giveBack (some result), now => evaluating_halts now fun _ _ => nofun
  | .error text, now => evaluating_halts now fun message now => by
    rw [raising_eq]
    exact fun keeping => nofun
  | .throw text, now => evaluating_halts now fun message now => by
    rw [raising_eq]
    exact fun keeping _ => rfl

/-- Only a thrown error halts a block. -/
theorem runBlock_halts (limit : Nat) : ∀ (block : List Statement) (now : Workspace),
    (runBlock limit block now).Halts False
  | [], _ => nofun
  | statement :: others, now => by
    rw [runBlock_cons]
    refine (runStatement_halts limit statement now).bind (fun flow after notHalt => ?_)
      fun _ => rfl
    cases flow with
    | normal => exact runBlock_halts limit others after
    | fault reason =>
      rw [afterStatement, raising_eq]
      exact fun keeping => (runBlock_halts limit others _).mono _
    | leaveLoop | giveBack => exact nofun
    | halt => exact absurd rfl notHalt

theorem runBranches_halts (limit : Nat) : ∀ (branches : List (Expression × List Statement))
    {last : Workspace → Running}, (∀ now, (last now).Halts False) → ∀ now,
      (runBranches limit branches last now).Halts False
  | [], _, ofLast, now => ofLast now
  | (condition, chosen) :: branches, _, ofLast, now => by
    refine evaluating_halts now fun value after => ?_
    split
    · exact runBlock_halts limit chosen after
    · exact runBranches_halts limit branches ofLast after

end

/-! ### Signals in a block -/

variable {Outside : Type}

/-- What becomes of everything around what has begun and ended so. -/
structure EndsAround (pipe : Pipe Outside) (limit : Nat) (stack : List Frame)
    (ended whole : Ended Workspace Flow Outside) : Prop where
  /-- When the script is over, nothing more is done. -/
  ends : ended.ending.isFinal = true → whole = ended
  /-- When a loop is to be left, what is around the innermost loop goes on as after its normal
  end. -/
  leaves : ended.ending = .finished .leaveLoop → ∀ inner loop outer, stack = inner ++ loop :: outer →
    (∀ frame ∈ inner, frame.isLoop = false) → loop.isLoop = true →
      whole = (resumeAll limit outer .normal ended.state).drive pipe ended.outside

/-- How signals go in a block that is run with a pipe. -/
structure KeepsSignals (pipe : Pipe Outside) (limit : Nat) (block : List Statement)
    (workspace : Workspace) (outside : Outside) : Prop where
  /-- A failed evaluation does not leave the block. -/
  caught : ∀ reason,
    ((runBlock limit block workspace).drive pipe outside).ending ≠ .finished (.fault reason)
  /-- So the end of a script does nothing for one. -/
  unreachable : ∀ fallback : EvalError → Workspace → Run Workspace Unit,
    runScript limit block workspace = (runBlock limit block workspace).bind fun
      | .fault reason, now => fallback reason now
      | flow, now => atEnd flow now
  /-- The signal to leave a loop does not leave it. -/
  loops : ∀ statement : Statement, statement.isLoop = true → ∀ now between,
    ((runStatement limit statement now).drive pipe between).ending ≠ .finished .leaveLoop
  /-- The script halts right after the pipe has let a thrown error pass. -/
  halted : ∀ ended, (runBlock limit block workspace).drive pipe outside = ended →
    ended.ending = .finished .halt → ∃ answers record keeping, record.kind = .thrown ∧
      Run.Passes pipe (runBlock limit block workspace) outside
        (answers ++ [.kept record keeping]) (.done .halt ended.state) ended.outside
  /-- The script is interrupted by an answer of the pipe. -/
  interrupted : ∀ ended (interruption : Interruption),
    (runBlock limit block workspace).drive pipe outside = ended →
      ended.ending = interruption.ending → ∃ answers rest between,
        Run.Passes pipe (runBlock limit block workspace) outside answers rest between ∧
          Run.Interrupts pipe rest between interruption ended.state ended.outside
  /-- Every statement and every round of a loop begins in some place of the block, and what is around
  that place goes by its end. -/
  places : ∀ answers rest between,
    Run.Passes pipe (runBlock limit block workspace) outside (answers ++ [.goOn]) rest between →
      ∃ stack begun, Begins limit block stack begun ∧ rest = begun.bind (resumeAll limit stack) ∧
        EndsAround pipe limit stack (begun.drive pipe between)
          ((runBlock limit block workspace).drive pipe outside)

theorem endsAround_bind (pipe : Pipe Outside) (limit : Nat) (stack : List Frame)
    (begun : Running) (between : Outside) :
    EndsAround pipe limit stack (begun.drive pipe between)
      ((begun.bind (resumeAll limit stack)).drive pipe between) := by
  rw [Run.drive_bind]
  rcases begun.drive pipe between with ⟨ending, now, after⟩
  refine ⟨fun isFinal => ?_, ?_⟩
  · cases ending with
    | finished flow =>
      show (resumeAll limit stack flow now).drive pipe after = _
      rw [resumeAll_of_isFinal isFinal]
      rfl
    | stopped | cancelled | exhausted => rfl
  · rintro ⟨⟩ inner loop outer rfl rests isLoop
    show (resumeAll limit (inner ++ loop :: outer) .leaveLoop now).drive pipe after = _
    rw [resumeAll_leaveLoop rests isLoop]

/-- Signals stay where they belong, in every block, from every workspace and with every pipe. -/
theorem keepsSignals (pipe : Pipe Outside) (limit : Nat) (block : List Statement)
    (workspace : Workspace) (outside : Outside) :
    KeepsSignals pipe limit block workspace outside where
  caught reason finished :=
    (runBlock_endsIn limit block workspace).of_drive finished reason rfl
  unreachable fallback := by
    rw [runScript_eq]
    refine (runBlock_endsIn limit block workspace).bind_congr fun flow now notFault => ?_
    cases flow with
    | fault reason => exact absurd rfl (notFault reason)
    | normal | leaveLoop | giveBack | halt => rfl
  loops statement isLoop now between finished :=
    (runStatement_endsIn isLoop limit now).of_drive finished rfl
  halted := by
    rintro _ rfl finished
    obtain ⟨answers, passes⟩ := Run.passes_of_finished finished
    rcases (runBlock_halts limit block workspace).last passes.leadsTo with
      ⟨-, ⟨⟩⟩ | ⟨earlier, record, keeping, rfl, isThrown⟩
    exact ⟨earlier, record, keeping, isThrown, passes⟩
  interrupted := by
    rintro _ interruption rfl interrupted
    exact Run.interrupts_of_interrupted interrupted
  places answers rest between passes := by
    obtain ⟨stack, begun, begins, rfl⟩ := runBlock_placed limit block passes.leadsTo.starts
    rw [List.append_nil] at begins
    refine ⟨stack, begun, begins, rfl, ?_⟩
    rw [passes.drive_eq]
    exact endsAround_bind pipe limit stack begun between

/-- The inner loop is left in its first round, and the round of the outer loop goes on and gives
back. The pipe was asked six times whether to go on; the statement behind the loops is not the
seventh. -/
example :
    (runBlock 2 [.whileLoop (.literal (.integer 1))
        [.forLoop "i" (.literal "1") (.literal "3") [.leaveLoop], .giveBack none],
      .leaveLoop] .initial).drive
        ⟨fun polls => (false, polls + 1), fun _ polls => (.ok (), polls),
          fun _ polls => (.ok .dropped, polls)⟩ 0 =
      ⟨.finished (.giveBack none), Workspace.initial.set "i" (.integer 1), 6⟩ := by cbv

end Interpreter

end SlashScript
