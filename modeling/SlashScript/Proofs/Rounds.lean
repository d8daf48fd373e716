/-
This file looks at the place at which a run is out of rounds. A loop without a range gives up only
where its next round would begin, and a round begins with the question whether to go on. So under a
larger limit the script is the same but for such places, and there it asks the question.
-/

import SlashScript.Proofs.Pipes

namespace SlashScript

/-! ### Runs with more rounds -/

namespace Run

variable {First Second Result : Type}

/-- The second run is the first, but for asking whether to go on where the first has no more
rounds. -/
inductive Deepens : Run Workspace Result → Run Workspace Result → Prop where
  | done (result : Result) (now : Workspace) : Deepens (.done result now) (.done result now)
  | exhausted (now : Workspace) (next : Unit → Run Workspace Result) :
    Deepens (.exhausted now) (.poll now next)
  | poll (now : Workspace) {next next' : Unit → Run Workspace Result}
    (rest : Deepens (next ()) (next' ())) : Deepens (.poll now next) (.poll now next')
  | emit (value : Value) (now : Workspace) {next next' : Unit → Run Workspace Result}
    (rest : Deepens (next ()) (next' ())) : Deepens (.emit value now next) (.emit value now next')
  | raise (record : ErrorRecord) (now : Workspace) {next next' : Keeping → Run Workspace Result}
    (rest : ∀ keeping, Deepens (next keeping) (next' keeping)) :
    Deepens (.raise record now next) (.raise record now next')

theorem Deepens.bind {run run' : Run Workspace First}
    {continuation continuation' : First → Workspace → Run Workspace Second}
    (runs : run.Deepens run')
    (continued : ∀ result now, (continuation result now).Deepens (continuation' result now)) :
    (run.bind continuation).Deepens (run'.bind continuation') := by
  induction runs with
  | done result now => exact continued result now
  | exhausted now next => exact .exhausted now _
  | poll now _ inductionHypothesis => exact .poll now inductionHypothesis
  | emit value now _ inductionHypothesis => exact .emit value now inductionHypothesis
  | raise record now _ inductionHypothesis => exact .raise record now inductionHypothesis

/-- With more rounds a host answers as it did, and leads the run to the same place. -/
theorem Answered.deepen {Outside : Type} {host : Host Outside} {run rest : Run Workspace Result}
    {answers : List Answer} {outside after : Outside}
    (answered : Answered host run outside answers rest after) {run' : Run Workspace Result}
    (runs : run.Deepens run') :
    ∃ rest', Answered host run' outside answers rest' after ∧ rest.Deepens rest' := by
  induction answered generalizing run' with
  | here run outside => exact ⟨run', .here run' outside, runs⟩
  | goOn live _ inductionHypothesis =>
    cases runs with
    | poll now rest =>
      obtain ⟨rest', answered, deepens⟩ := inductionHypothesis rest
      exact ⟨rest', .goOn live answered, deepens⟩
  | taken taken _ inductionHypothesis =>
    cases runs with
    | emit value now rest =>
      obtain ⟨rest', answered, deepens⟩ := inductionHypothesis rest
      exact ⟨rest', .taken taken answered, deepens⟩
  | @kept _ _ _ keeping _ _ _ _ _ judged _ inductionHypothesis =>
    cases runs with
    | raise record now rest =>
      obtain ⟨rest', answered, deepens⟩ := inductionHypothesis (rest keeping)
      exact ⟨rest', .kept judged answered, deepens⟩

end Run

/-! ### Scripts -/

namespace Interpreter

variable {Result : Type}

theorem evaluating_deepens (evaluation : Evaluation Result) (workspace : Workspace)
    {next next' : Result → Workspace → Running}
    (continued : ∀ result now, (next result now).Deepens (next' result now)) :
    (evaluating evaluation workspace next).Deepens (evaluating evaluation workspace next') := by
  unfold evaluating
  rcases evaluation workspace with ⟨reason | result, now⟩
  · exact .done _ now
  · exact continued result now

theorem raising_deepens (record : ErrorRecord) (workspace : Workspace)
    {next next' : Workspace → Running} (continued : ∀ now, (next now).Deepens (next' now)) :
    (raising record workspace next).Deepens (raising record workspace next') := by
  rw [raising_eq, raising_eq]
  refine .raise record workspace fun keeping => ?_
  unfold resuming
  split
  · exact continued _
  · exact .done _ _

theorem emitAll_deepens (items : List Expression) (workspace : Workspace) :
    (emitAll items workspace).Deepens (emitAll items workspace) := by
  induction items generalizing workspace with
  | nil => exact .done _ workspace
  | cons item items inductionHypothesis =>
    exact evaluating_deepens item.evaluate workspace fun value now =>
      .emit value now (inductionHypothesis now)

theorem afterRound_deepens (flow : Flow) (workspace : Workspace)
    {next next' : Workspace → Running} (continued : ∀ now, (next now).Deepens (next' now)) :
    (afterRound flow workspace next).Deepens (afterRound flow workspace next') := by
  cases flow with
  | normal => exact continued workspace
  | leaveLoop => exact .done _ workspace
  | giveBack result => exact .done _ workspace
  | halt => exact .done _ workspace
  | fault reason => exact .done _ workspace

theorem whileRounds_deepens (condition : Evaluation Value) {body body' : Workspace → Running}
    (bodies : ∀ now, (body now).Deepens (body' now)) {limit limit' : Nat} (more : limit < limit')
    (workspace : Workspace) :
    (whileRounds condition body limit workspace).Deepens
      (whileRounds condition body' limit' workspace) := by
  induction limit generalizing limit' workspace with
  | zero =>
    obtain ⟨rest, rfl⟩ := Nat.exists_eq_succ_of_ne_zero (Nat.ne_of_gt more)
    exact .exhausted workspace _
  | succ limit inductionHypothesis =>
    obtain ⟨rest, rfl⟩ := Nat.exists_eq_succ_of_ne_zero (Nat.ne_of_gt (Nat.zero_lt_of_lt more))
    refine .poll workspace (evaluating_deepens condition workspace fun value now => ?_)
    split
    · exact (bodies now).bind fun flow now => afterRound_deepens flow now
        (inductionHypothesis (Nat.lt_of_succ_lt_succ more))
    · exact .done _ now

theorem forRounds_deepens (name : String) {body body' : Workspace → Running}
    (bodies : ∀ now, (body now).Deepens (body' now)) (rounds : Nat) (current : Int)
    (workspace : Workspace) :
    (forRounds name body rounds current workspace).Deepens
      (forRounds name body' rounds current workspace) := by
  induction rounds generalizing current workspace with
  | zero => exact .done _ workspace
  | succ rounds inductionHypothesis =>
    exact .poll workspace ((bodies _).bind fun flow now =>
      afterRound_deepens flow now (inductionHypothesis (current + 1)))

variable {limit limit' : Nat}

mutual

/-- Under a larger limit a statement asks where it gave up. -/
theorem runStatement_deepens (more : limit < limit') : ∀ (statement : Statement) (workspace),
    (runStatement limit statement workspace).Deepens (runStatement limit' statement workspace)
  | .echo text, workspace =>
    evaluating_deepens text.expand workspace fun _ now => .emit _ now (.done _ now)
  | .emit items, workspace => emitAll_deepens items workspace
  | .set _ value _, workspace =>
    evaluating_deepens value.expand workspace fun _ _ => .done _ _
  | .unset _, _ => .done _ _
  | .param _, _ => .done _ _
  | .evaluate expression, workspace =>
    evaluating_deepens expression.evaluate workspace fun _ now => .done _ now
  | .choose branches otherwise, workspace =>
    runBranches_deepens more branches (runBlock_deepens more otherwise) workspace
  | .whileLoop condition body, workspace =>
    whileRounds_deepens condition.evaluate (runBlock_deepens more body) more workspace
  | .forLoop name first last body, workspace =>
    evaluating_deepens (rangeEnd "start" first) workspace fun _ now =>
      evaluating_deepens (rangeEnd "end" last) now fun _ now =>
        forRounds_deepens name (runBlock_deepens more body) _ _ now
  | .leaveLoop, workspace => .done _ workspace
  | .giveBack none, workspace => .done _ workspace
  | .giveBack (some result), workspace =>
    evaluating_deepens result.evaluate workspace fun _ now => .done _ now
  | .error text, workspace => evaluating_deepens text.expand workspace fun _ now =>
    raising_deepens _ now fun now => .done _ now
  | .throw text, workspace => evaluating_deepens text.expand workspace fun _ now =>
    raising_deepens _ now fun now => .done _ now

/-- Under a larger limit a block asks where it gave up. -/
theorem runBlock_deepens (more : limit < limit') : ∀ (block : List Statement) (workspace),
    (runBlock limit block workspace).Deepens (runBlock limit' block workspace)
  | [], workspace => .done _ workspace
  | statement :: rest, workspace => by
    have restDeepens := runBlock_deepens more rest
    refine .poll workspace ((runStatement_deepens more statement workspace).bind
      fun flow now => ?_)
    cases flow with
    | normal => exact restDeepens now
    | fault reason => exact raising_deepens _ now restDeepens
    | leaveLoop => exact .done _ now
    | giveBack result => exact .done _ now
    | halt => exact .done _ now

theorem runBranches_deepens (more : limit < limit') :
    ∀ (branches : List (Expression × List Statement)) {otherwise otherwise' : Workspace → Running},
      (∀ now, (otherwise now).Deepens (otherwise' now)) → ∀ workspace,
        (runBranches limit branches otherwise workspace).Deepens
          (runBranches limit' branches otherwise' workspace)
  | [], _, _, otherwises, workspace => otherwises workspace
  | (condition, block) :: branches, _, _, otherwises, workspace => by
    refine evaluating_deepens condition.evaluate workspace fun value now => ?_
    split
    · exact runBlock_deepens more block now
    · exact runBranches_deepens more branches otherwises now

end

/-- Under a larger limit a script asks where it gave up. -/
theorem runScript_deepens (more : limit < limit') (block : Block) (workspace : Workspace) :
    (runScript limit block workspace).Deepens (runScript limit' block workspace) := by
  refine (runBlock_deepens more block workspace).bind fun flow now => ?_
  cases flow with
  | giveBack result =>
    cases result with
    | none => exact .done _ now
    | some value => exact .emit value now (.done _ now)
  | normal => exact .done _ now
  | leaveLoop => exact .done _ now
  | halt => exact .done _ now
  | fault reason => exact .done _ now

end Interpreter

end SlashScript
