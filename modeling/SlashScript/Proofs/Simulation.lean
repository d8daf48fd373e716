/-
This file compares two runs of one script. The script reads its workspace only through the values
of variables and through its arguments, so runs that start from workspaces in which those agree
make the same requests, one after the other, for as long as they get answers that leave the
workspaces in agreement. What counts as agreement is left open: the workspaces may differ in the
log, or not at all.

A loop without a range takes a limited number of rounds. A run with a smaller limit matches the
run with a larger one as far as it goes, and the only way in which it may differ is that it runs
out of rounds. A run that does not is therefore the run without any limit.
-/

import SlashScript.Proofs.Footprint

namespace SlashScript

/-! ### Runs that match -/

/-- How two runs may differ and still match. -/
structure Matching where
  /-- The workspaces that the runs may show at one place. -/
  states : Workspace → Workspace → Prop
  /-- What may become of one error in the two runs. -/
  keepings : Keeping → Keeping → Prop
  /-- Whether the first run may run out of rounds where the second does not. -/
  short : Prop

/-- Two runs make the same requests at matching workspaces, whatever matching answers they get. -/
inductive Run.Matches {Result : Type} (matching : Matching) :
    Run Workspace Result → Run Workspace Result → Prop where
  | done (result : Result) {now now' : Workspace} (states : matching.states now now') :
    Matches matching (.done result now) (.done result now')
  | exhausted {now now' : Workspace} (states : matching.states now now') :
    Matches matching (.exhausted now) (.exhausted now')
  | short (now : Workspace) (run : Run Workspace Result) (short : matching.short) :
    Matches matching (.exhausted now) run
  | poll {now now' : Workspace} {next next' : Unit → Run Workspace Result}
    (states : matching.states now now') (rest : Matches matching (next ()) (next' ())) :
    Matches matching (.poll now next) (.poll now' next')
  | emit (value : Value) {now now' : Workspace} {next next' : Unit → Run Workspace Result}
    (states : matching.states now now') (rest : Matches matching (next ()) (next' ())) :
    Matches matching (.emit value now next) (.emit value now' next')
  | raise (record : ErrorRecord) {now now' : Workspace}
    {next next' : Keeping → Run Workspace Result} (states : matching.states now now')
    (rest : ∀ keeping keeping', matching.keepings keeping keeping' →
      Matches matching (next keeping) (next' keeping')) :
    Matches matching (.raise record now next) (.raise record now' next')

/-- What an agreement of workspaces has to stand: reading, the writes of the allowed kinds, and
what may become of an error. -/
structure Matching.Closed (matching : Matching) (allowed : List Touch) : Prop where
  get? : ∀ {left right : Workspace} (name : String), matching.states left right →
    left.get? name = right.get? name
  arguments : ∀ {left right : Workspace}, matching.states left right →
    left.arguments = right.arguments
  set : ∀ {left right : Workspace} {name : String} (value : Value), .assigned name ∈ allowed →
    matching.states left right → matching.states (left.set name value) (right.set name value)
  setGlobal : ∀ {left right : Workspace} {name : String} (value : Value), .global name ∈ allowed →
    matching.states left right →
      matching.states (left.setGlobal name value) (right.setGlobal name value)
  unset : ∀ {left right : Workspace} {name : String}, .removed name ∈ allowed →
    matching.states left right → matching.states (left.unset name) (right.unset name)
  keep : ∀ {left right : Workspace} {keeping keeping' : Keeping} (record : ErrorRecord),
    matching.keepings keeping keeping' → matching.states left right →
      matching.states (left.keep record keeping) (right.keep record keeping')

/-- Equal workspaces stay equal. -/
theorem Matching.Closed.eq (allowed : List Touch) (short : Prop) :
    Matching.Closed ⟨Eq, Eq, short⟩ allowed where
  get? name states := congrArg (Workspace.get? · name) states
  arguments states := congrArg Workspace.arguments states
  set value _ states := congrArg (Workspace.set · _ value) states
  setGlobal value _ states := congrArg (Workspace.setGlobal · _ value) states
  unset _ states := congrArg (Workspace.unset · _) states
  keep record keepings states := congrArg₂ (Workspace.keep · record ·) states keepings

variable {matching : Matching} {allowed : List Touch}

/-! ### Evaluations -/

namespace Evaluation

variable {First Second Result : Type}

/-- From matching workspaces an evaluation comes to the same result, and leaves workspaces that
match. -/
def Respects (matching : Matching) (evaluation : Evaluation Result) : Prop :=
  ∀ left right, matching.states left right →
    (evaluation left).1 = (evaluation right).1 ∧
      matching.states (evaluation left).2 (evaluation right).2

theorem Respects.pure (result : Result) : Respects matching (Pure.pure result) :=
  fun _ _ states => ⟨rfl, states⟩

theorem Respects.ofExcept (result : Except EvalError Result) :
    Respects matching (Evaluation.ofExcept result) :=
  fun _ _ states => ⟨rfl, states⟩

/-- What only reads the workspace has to read the same. -/
theorem Respects.reading {read : Workspace → Except EvalError Result}
    (same : ∀ {left right : Workspace}, matching.states left right → read left = read right) :
    Respects matching fun workspace => (read workspace, workspace) :=
  fun _ _ states => ⟨same states, states⟩

theorem Respects.ask {read : Workspace → Result}
    (same : ∀ {left right : Workspace}, matching.states left right → read left = read right) :
    Respects matching (Evaluation.ask read) :=
  .reading fun states => congrArg Except.ok (same states)

theorem Respects.set (closed : matching.Closed allowed) {name : String} (value : Value)
    (named : .assigned name ∈ allowed) :
    Respects matching (Evaluation.change fun workspace => workspace.set name value) :=
  fun _ _ states => ⟨rfl, closed.set value named states⟩

theorem Respects.bind {first : Evaluation First} {second : First → Evaluation Second}
    (firstRespects : first.Respects matching)
    (secondRespects : ∀ result, (second result).Respects matching) :
    Respects matching (first >>= second) := by
  intro left right states
  obtain ⟨sameOutcome, statesBetween⟩ := firstRespects left right states
  show (Evaluation.bind first second left).1 = (Evaluation.bind first second right).1 ∧
    matching.states (Evaluation.bind first second left).2 (Evaluation.bind first second right).2
  unfold Evaluation.bind
  rcases outcome : first left with ⟨reason | result, between⟩ <;>
    rcases outcome' : first right with ⟨reason' | result', between'⟩ <;>
    rw [outcome, outcome'] at sameOutcome statesBetween
  · exact ⟨congrArg Except.error (Except.error.inj sameOutcome), statesBetween⟩
  · cases sameOutcome
  · cases sameOutcome
  · cases sameOutcome
    exact secondRespects result between between' statesBetween

end Evaluation

namespace Expression

theorem callFunction_eq (closed : matching.Closed allowed) {left right : Workspace}
    (states : matching.states left right) (name : String) (arguments : List Value) :
    callFunction name arguments left = callFunction name arguments right := by
  have defined : left.defines = right.defines :=
    funext fun variableName => congrArg Option.isSome (closed.get? variableName states)
  unfold callFunction
  rw [closed.arguments states, defined]

mutual

/-- An expression comes to the same value from workspaces that agree. -/
theorem evaluate_respects (closed : matching.Closed allowed) : ∀ expression : Expression,
    expression.touches ⊆ allowed → expression.evaluate.Respects matching
  | literal value, _ => .pure value
  | named name, _ =>
    .ask fun states => congrArg (Option.getD · Value.empty) (closed.get? name states)
  | unary .neg operand, within =>
    (evaluate_respects closed operand within).bind fun _ => .pure _
  | unary .not operand, within =>
    (evaluate_respects closed operand within).bind fun _ => .pure _
  | binary operator left right, within => by
    rw [touches, List.append_subset] at within
    have leftRespects := evaluate_respects closed left within.1
    have rightRespects := evaluate_respects closed right within.2
    cases operator
    case and =>
      refine leftRespects.bind fun value => ?_
      split
      · exact rightRespects.bind fun _ => .pure _
      · exact .pure _
    case or =>
      refine leftRespects.bind fun value => ?_
      split
      · exact .pure _
      · exact rightRespects.bind fun _ => .pure _
    all_goals exact leftRespects.bind fun _ => rightRespects.bind fun _ => .ofExcept _
  | conditional condition whenTrue whenFalse, within => by
    rw [touches, List.append_subset, List.append_subset] at within
    refine (evaluate_respects closed condition within.1).bind fun value => ?_
    split
    · exact evaluate_respects closed whenTrue within.2.1
    · exact evaluate_respects closed whenFalse within.2.2
  | assign name assignment operand, within => by
    rw [touches, List.cons_subset] at within
    refine (evaluate_respects closed operand within.2).bind fun _ => ?_
    refine Evaluation.Respects.bind (.ask fun states => ?_) fun _ => ?_
    · rw [closed.get? name states]
    refine Evaluation.Respects.bind (.ofExcept _) fun _ => ?_
    exact Evaluation.Respects.bind (.set closed _ within.1) fun _ => .pure _
  | call name arguments, within => (evaluateAll_respects closed arguments within).bind
    fun values => .reading fun states => callFunction_eq closed states name values
  | sequence items, within =>
    (evaluateAll_respects closed items within).bind fun _ => .pure _

theorem evaluateAll_respects (closed : matching.Closed allowed) : ∀ items : List Expression,
    allTouches items ⊆ allowed → (evaluateAll items).Respects matching
  | [], _ => .pure []
  | first :: rest, within => by
    rw [allTouches, List.append_subset] at within
    exact (evaluate_respects closed first within.1).bind fun _ =>
      (evaluateAll_respects closed rest within.2).bind fun _ => .pure _

end

end Expression

namespace Template

theorem expandPart_respects (closed : matching.Closed allowed) (part : TemplatePart)
    (within : partTouches part ⊆ allowed) : (expandPart part).Respects matching := by
  cases part with
  | literal text => exact .pure text
  | named name default => exact .ask fun states => by rw [closed.get? name states]
  | argument index => exact .ask fun states => by rw [closed.arguments states]
  | allArguments => exact .ask fun states => by rw [closed.arguments states]
  | argumentCount => exact .ask fun states => by rw [closed.arguments states]
  | expression expression =>
    exact (Expression.evaluate_respects closed expression within).bind fun _ => .pure _

theorem expandParts_respects (closed : matching.Closed allowed) (parts : List TemplatePart)
    (within : parts.flatMap partTouches ⊆ allowed) : (expandParts parts).Respects matching := by
  induction parts with
  | nil => exact .pure ""
  | cons part rest inductionHypothesis =>
    rw [List.flatMap_cons, List.append_subset] at within
    exact (expandPart_respects closed part within.1).bind fun _ =>
      (inductionHypothesis within.2).bind fun _ => .pure _

/-- A template has the same text in workspaces that agree. -/
theorem expand_respects (closed : matching.Closed allowed) (template : Template)
    (within : template.touches ⊆ allowed) : template.expand.Respects matching :=
  expandParts_respects closed template.parts within

end Template

/-! ### Scripts -/

namespace Run

variable {First Second : Type}

theorem Matches.bind {run run' : Run Workspace First}
    {continuation continuation' : First → Workspace → Run Workspace Second}
    (runs : Matches matching run run')
    (continued : ∀ result now now', matching.states now now' →
      Matches matching (continuation result now) (continuation' result now')) :
    Matches matching (run.bind continuation) (run'.bind continuation') := by
  induction runs with
  | done result states => exact continued result _ _ states
  | exhausted states => exact .exhausted states
  | short now run short => exact .short now _ short
  | poll states _ inductionHypothesis => exact .poll states inductionHypothesis
  | emit value states _ inductionHypothesis => exact .emit value states inductionHypothesis
  | raise record states _ inductionHypothesis => exact .raise record states inductionHypothesis

end Run

namespace Interpreter

variable {Result : Type} {left right : Workspace}

theorem evaluating_matches {evaluation : Evaluation Result}
    {next next' : Result → Workspace → Running} (respects : evaluation.Respects matching)
    (continued : ∀ result now now', matching.states now now' →
      Run.Matches matching (next result now) (next' result now'))
    (states : matching.states left right) :
    Run.Matches matching (evaluating evaluation left next) (evaluating evaluation right next') := by
  obtain ⟨sameOutcome, statesAfter⟩ := respects left right states
  unfold evaluating
  rcases outcome : evaluation left with ⟨reason | result, now⟩ <;>
    rcases outcome' : evaluation right with ⟨reason' | result', now'⟩ <;>
    rw [outcome, outcome'] at sameOutcome statesAfter
  · cases sameOutcome
    exact .done _ statesAfter
  · cases sameOutcome
  · cases sameOutcome
  · cases sameOutcome
    exact continued result now now' statesAfter

theorem raising_matches (closed : matching.Closed allowed) {next next' : Workspace → Running}
    (record : ErrorRecord)
    (continued : ∀ now now', matching.states now now' →
      Run.Matches matching (next now) (next' now'))
    (states : matching.states left right) :
    Run.Matches matching (raising record left next) (raising record right next') := by
  rw [raising_eq, raising_eq]
  refine .raise record states fun keeping keeping' keepings => ?_
  have statesAfter := closed.keep record keepings states
  unfold resuming
  split
  · exact continued _ _ statesAfter
  · exact .done _ statesAfter

theorem emitting_matches {next next' : Workspace → Running} (value : Value)
    (continued : ∀ now now', matching.states now now' →
      Run.Matches matching (next now) (next' now'))
    (states : matching.states left right) :
    Run.Matches matching (emitting value left next) (emitting value right next') :=
  .emit value states (continued left right states)

theorem emitAll_matches (closed : matching.Closed allowed) (items : List Expression)
    (within : Expression.allTouches items ⊆ allowed) (states : matching.states left right) :
    Run.Matches matching (emitAll items left) (emitAll items right) := by
  induction items generalizing left right with
  | nil => exact .done _ states
  | cons item items inductionHypothesis =>
    rw [Expression.allTouches, List.append_subset] at within
    exact evaluating_matches (Expression.evaluate_respects closed item within.1)
      (fun value _ _ => emitting_matches value fun _ _ => inductionHypothesis within.2) states

theorem bindNames_states (closed : matching.Closed allowed) (names : List String)
    (arguments : List Value) (within : names.map Touch.assigned ⊆ allowed)
    (states : matching.states left right) :
    matching.states (bindNames names arguments left) (bindNames names arguments right) := by
  induction names generalizing arguments left right with
  | nil => exact states
  | cons name names inductionHypothesis =>
    rw [List.map_cons, List.cons_subset] at within
    exact inductionHypothesis arguments.tail within.2 (closed.set _ within.1 states)

theorem rangeEnd_respects (closed : matching.Closed allowed) (bound : String) (text : Template)
    (within : text.touches ⊆ allowed) : (rangeEnd bound text).Respects matching := by
  refine (Template.expand_respects closed text within).bind fun content => ?_
  split
  · exact .pure _
  · exact .ofExcept _

theorem afterRound_matches {next next' : Workspace → Running} (flow : Flow)
    (continued : ∀ now now', matching.states now now' →
      Run.Matches matching (next now) (next' now'))
    (states : matching.states left right) :
    Run.Matches matching (afterRound flow left next) (afterRound flow right next') := by
  cases flow with
  | normal => exact continued left right states
  | leaveLoop => exact .done _ states
  | giveBack result => exact .done _ states
  | halt => exact .done _ states
  | fault reason => exact .done _ states

/-- The limits under which two runs may match: the same, or a smaller one for a run that may be
short. -/
def limitsMatch (matching : Matching) (limit limit' : Nat) : Prop :=
  limit = limit' ∨ matching.short ∧ limit ≤ limit'

theorem whileRounds_matches {condition : Evaluation Value} {body body' : Workspace → Running}
    (conditionRespects : condition.Respects matching)
    (bodies : ∀ now now', matching.states now now' → Run.Matches matching (body now) (body' now'))
    {limit limit' : Nat} (limits : limitsMatch matching limit limit')
    (states : matching.states left right) :
    Run.Matches matching (whileRounds condition body limit left)
      (whileRounds condition body' limit' right) := by
  induction limit generalizing limit' left right with
  | zero =>
    rcases limits with same | ⟨short, _⟩
    · subst same
      exact .exhausted states
    · exact .short _ _ short
  | succ limit inductionHypothesis =>
    obtain ⟨rest, rfl⟩ : ∃ rest, limit' = rest + 1 := by
      refine ⟨limit' - 1, ?_⟩
      rcases limits with same | ⟨_, le⟩ <;> omega
    have limitsRest : limitsMatch matching limit rest := by
      rcases limits with same | ⟨short, le⟩
      · exact .inl (Nat.succ.inj same)
      · exact .inr ⟨short, Nat.le_of_succ_le_succ le⟩
    refine .poll states
      (evaluating_matches conditionRespects (fun value now now' states => ?_) states)
    split
    · exact (bodies now now' states).bind fun flow _ _ =>
        afterRound_matches flow fun _ _ => inductionHypothesis limitsRest
    · exact .done _ states

theorem forRounds_matches (closed : matching.Closed allowed) {name : String}
    {body body' : Workspace → Running} (named : .assigned name ∈ allowed)
    (bodies : ∀ now now', matching.states now now' → Run.Matches matching (body now) (body' now'))
    (rounds : Nat) (current : Int) (states : matching.states left right) :
    Run.Matches matching (forRounds name body rounds current left)
      (forRounds name body' rounds current right) := by
  induction rounds generalizing current left right with
  | zero => exact .done _ states
  | succ rounds inductionHypothesis =>
    refine .poll states ?_
    exact (bodies _ _ (closed.set _ named states)).bind fun flow _ _ =>
      afterRound_matches flow fun _ _ => inductionHypothesis (current + 1)

variable {limit limit' : Nat}

mutual

/-- Runs of a statement match when they start from workspaces that agree. -/
theorem runStatement_matches (closed : matching.Closed allowed)
    (limits : limitsMatch matching limit limit') : ∀ (statement : Statement),
    statement.touches ⊆ allowed → ∀ left right, matching.states left right →
      Run.Matches matching (runStatement limit statement left)
        (runStatement limit' statement right)
  | .echo text, within, _, _, states =>
    evaluating_matches (text.expand_respects closed within)
      (fun _ _ _ => emitting_matches _ fun _ _ => .done _) states
  | .emit items, within, _, _, states => emitAll_matches closed items within states
  | .set name value isGlobal, within, _, _, states => by
    rw [Statement.touches, List.cons_subset] at within
    refine evaluating_matches (value.expand_respects closed within.2)
      (fun text now now' states => ?_) states
    cases isGlobal
    · exact .done _ (closed.set _ within.1 states)
    · exact .done _ (closed.setGlobal _ within.1 states)
  | .unset name, within, _, _, states => .done _ (closed.unset (within List.mem_cons_self) states)
  | .param names, within, left, right, states => by
    rw [runStatement, runStatement, closed.arguments states]
    exact .done _ (bindNames_states closed names _ within states)
  | .evaluate expression, within, _, _, states =>
    evaluating_matches (expression.evaluate_respects closed within) (fun _ _ _ => .done _) states
  | .choose branches otherwise, within, left, right, states => by
    rw [Statement.touches, List.append_subset] at within
    exact runBranches_matches closed limits branches within.1 _ _
      (runBlock_matches closed limits otherwise within.2) left right states
  | .whileLoop condition body, within, _, _, states => by
    rw [Statement.touches, List.append_subset] at within
    exact whileRounds_matches (condition.evaluate_respects closed within.1)
      (runBlock_matches closed limits body within.2) limits states
  | .forLoop name first last body, within, _, _, states => by
    rw [Statement.touches, List.cons_subset, List.append_subset, List.append_subset] at within
    obtain ⟨named, firstWithin, lastWithin, bodyWithin⟩ := within
    refine evaluating_matches (rangeEnd_respects closed _ first firstWithin)
      (fun lower _ _ states => ?_) states
    refine evaluating_matches (rangeEnd_respects closed _ last lastWithin)
      (fun upper _ _ states => ?_) states
    exact forRounds_matches closed named (runBlock_matches closed limits body bodyWithin) _ _ states
  | .leaveLoop, _, _, _, states => .done _ states
  | .giveBack none, _, _, _, states => .done _ states
  | .giveBack (some result), within, _, _, states =>
    evaluating_matches (result.evaluate_respects closed within) (fun _ _ _ => .done _) states
  | .error text, within, _, _, states =>
    evaluating_matches (text.expand_respects closed within)
      (fun _ _ _ => raising_matches closed _ fun _ _ => .done _) states
  | .throw text, within, _, _, states =>
    evaluating_matches (text.expand_respects closed within)
      (fun _ _ _ => raising_matches closed _ fun _ _ => .done _) states

/-- Runs of a block match when they start from workspaces that agree. -/
theorem runBlock_matches (closed : matching.Closed allowed)
    (limits : limitsMatch matching limit limit') : ∀ (block : List Statement),
    Statement.blockTouches block ⊆ allowed → ∀ left right, matching.states left right →
      Run.Matches matching (runBlock limit block left) (runBlock limit' block right)
  | [], _, _, _, states => .done _ states
  | statement :: rest, within, left, right, states => by
    rw [Statement.blockTouches, List.append_subset] at within
    have restMatches := runBlock_matches closed limits rest within.2
    refine .poll states ?_
    refine (runStatement_matches closed limits statement within.1 left right states).bind
      fun flow now now' states => ?_
    cases flow with
    | normal => exact restMatches now now' states
    | fault reason => exact raising_matches closed _ restMatches states
    | leaveLoop => exact .done _ states
    | giveBack result => exact .done _ states
    | halt => exact .done _ states

theorem runBranches_matches (closed : matching.Closed allowed)
    (limits : limitsMatch matching limit limit') :
    ∀ (branches : List (Expression × List Statement)),
    Statement.branchesTouches branches ⊆ allowed → ∀ (otherwise otherwise' : Workspace → Running),
      (∀ now now', matching.states now now' →
        Run.Matches matching (otherwise now) (otherwise' now')) →
      ∀ left right, matching.states left right →
        Run.Matches matching (runBranches limit branches otherwise left)
          (runBranches limit' branches otherwise' right)
  | [], _, _, _, otherwises, left, right, states => otherwises left right states
  | (condition, block) :: branches, within, _, _, otherwises, _, _, states => by
    rw [Statement.branchesTouches, List.append_subset, List.append_subset] at within
    refine evaluating_matches (condition.evaluate_respects closed within.1)
      (fun value now now' states => ?_) states
    split
    · exact runBlock_matches closed limits block within.2.1 now now' states
    · exact runBranches_matches closed limits branches within.2.2 _ _ otherwises now now' states

end

/-- Runs of a script match when they start from workspaces that agree. -/
theorem runScript_matches (closed : matching.Closed allowed)
    (limits : limitsMatch matching limit limit') (block : Block)
    (within : Statement.blockTouches block ⊆ allowed)
    (states : matching.states left right) :
    Run.Matches matching (runScript limit block left) (runScript limit' block right) := by
  refine (runBlock_matches closed limits block within left right states).bind
    fun flow now now' states => ?_
  cases flow with
  | giveBack result =>
    cases result with
    | none => exact .done _ states
    | some value => exact .emit value states (.done _ states)
  | normal => exact .done _ states
  | leaveLoop => exact .done _ states
  | halt => exact .done _ states
  | fault reason => exact .done _ states

end Interpreter

end SlashScript
