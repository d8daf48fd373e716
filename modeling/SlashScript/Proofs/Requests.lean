/-
This file looks at what lies between one request of a script and the next. After a value the script
goes on from the same workspace, unless the value belongs to a list of values: then the next item
of the list is evaluated before anything else. After an error it goes on from the workspace in
which the error was kept or dropped, and after a thrown error it is at its end. Whatever else a
script does, it does after it has asked whether to go on: a statement and a round of a loop begin
with that question.
-/

import SlashScript.Proofs.Course

namespace SlashScript

/-! ### Lists of values -/

namespace Statement

mutual

/-- The items of the lists whose values a statement emits, those of the blocks inside it
included. -/
def items : Statement → List Expression
  | emit items => items
  | choose branches otherwise => branchesItems branches ++ blockItems otherwise
  | whileLoop _ body => blockItems body
  | forLoop _ _ _ body => blockItems body
  | _ => []

/-- The items of the lists whose values a block emits. -/
def blockItems : List Statement → List Expression
  | [] => []
  | statement :: rest => statement.items ++ blockItems rest

/-- The items of the lists whose values the branches of a conditional emit. -/
def branchesItems : List (Expression × List Statement) → List Expression
  | [] => []
  | (_, block) :: branches => blockItems block ++ branchesItems branches

end

end Statement

/-! ### From one request to the next -/

namespace Run

variable {First Second Result : Type} {items : List Expression}

/-- After a value or an error, a run does no more before its next request than a script does that
emits these items, and after a thrown error it ends with the given result. -/
def Orderly (items : List Expression) (halted : Result) : Run Workspace Result → Prop
  | .done _ _ => True
  | .exhausted _ => True
  | .poll _ next => (next ()).Orderly items halted
  | .emit _ now next =>
    ((next ()).shown = now ∨ ∃ item ∈ items, (next ()).shown = (item.evaluate now).2) ∧
      (next ()).Orderly items halted
  | .raise record now next =>
    ∀ keeping, (next keeping).shown = now.keep record keeping ∧
      (record.kind = .thrown → next keeping = .done halted (now.keep record keeping)) ∧
        (next keeping).Orderly items halted

/-- A continuation that does nothing before its first request leaves what is shown first as it
was. -/
theorem shown_bind {run : Run Workspace First}
    {continuation : First → Workspace → Run Workspace Second}
    (starts : ∀ result now, (continuation result now).shown = now) :
    (run.bind continuation).shown = run.shown := by
  cases run with
  | done result now => exact starts result now
  | exhausted now => rfl
  | poll now next => rfl
  | emit value now next => rfl
  | raise record now next => rfl

theorem Orderly.bind {halted : First} {halted' : Second} {run : Run Workspace First}
    {continuation : First → Workspace → Run Workspace Second} (orderly : run.Orderly items halted)
    (starts : ∀ result now, (continuation result now).shown = now)
    (continued : ∀ result now, (continuation result now).Orderly items halted')
    (halts : ∀ now, continuation halted now = .done halted' now) :
    (run.bind continuation).Orderly items halted' := by
  induction run with
  | done result now => exact continued result now
  | exhausted now => trivial
  | poll now next inductionHypothesis => exact inductionHypothesis () orderly
  | emit value now next inductionHypothesis =>
    refine ⟨?_, inductionHypothesis () orderly.2⟩
    rw [shown_bind starts]
    exact orderly.1
  | raise record now next inductionHypothesis =>
    intro keeping
    obtain ⟨shown, thrown, rest⟩ := orderly keeping
    refine ⟨(shown_bind starts).trans shown, fun isThrown => ?_, inductionHypothesis keeping rest⟩
    show (next keeping).bind continuation = _
    rw [thrown isThrown, bind_done, halts]

/-- Wherever a course leads, the rest of the run is orderly. -/
theorem LeadsTo.orderly {halted : Result} {run rest : Run Workspace Result}
    {answers : List Answer} (leads : run.LeadsTo answers rest) (orderly : run.Orderly items halted) :
    rest.Orderly items halted := by
  induction leads with
  | here run => exact orderly
  | goOn _ inductionHypothesis => exact inductionHypothesis orderly
  | taken _ inductionHypothesis => exact inductionHypothesis orderly.2
  | kept keeping _ inductionHypothesis => exact inductionHypothesis (orderly keeping).2.2

/-- After a thrown error no request follows. -/
theorem LeadsTo.thrown_last {halted : Result} {run rest : Run Workspace Result}
    {earlier later : List Answer} {record : ErrorRecord} {keeping : Keeping}
    (leads : run.LeadsTo (earlier ++ .kept record keeping :: later) rest)
    (orderly : run.Orderly items halted) (isThrown : record.kind = .thrown) :
    later = [] ∧ ∃ now, rest = .done halted now := by
  obtain ⟨between, first, second⟩ := leads.divide
  have orderlyBetween := first.orderly orderly
  cases second with
  | kept keeping leadsOn =>
    rw [(orderlyBetween keeping).2.1 isThrown] at leadsOn
    cases leadsOn with
    | here run => exact ⟨rfl, _, rfl⟩

/-- Among the errors of a course a thrown one can only be the last, and then the run is at its
end. -/
theorem LeadsTo.records_thrown_last {halted : Result} {run rest : Run Workspace Result}
    {answers : List Answer} (leads : run.LeadsTo answers rest) (orderly : run.Orderly items halted)
    {before after : List ErrorRecord} {record : ErrorRecord}
    (isAmong : Answer.records answers = before ++ record :: after)
    (isThrown : record.kind = .thrown) : after = [] ∧ ∃ now, rest = .done halted now := by
  obtain ⟨earlier, others, rfl, _, isNext⟩ := List.filterMap_eq_append_iff.mp isAmong
  obtain ⟨passed, answer, later, rfl, _, isRecord, isAfter⟩ := List.filterMap_eq_cons_iff.mp isNext
  cases answer with
  | goOn => cases isRecord
  | taken value => cases isRecord
  | kept thrown keeping =>
    cases isRecord
    rw [← List.append_assoc] at leads
    obtain ⟨rfl, atEnd⟩ := leads.thrown_last orderly isThrown
    exact ⟨isAfter.symm, atEnd⟩

end Run

/-! ### Scripts -/

namespace Interpreter

variable {Result : Type} {items : List Expression}

theorem evaluating_orderly {evaluation : Evaluation Result} {next : Result → Workspace → Running}
    (workspace : Workspace) (continued : ∀ result now, (next result now).Orderly items .halt) :
    (evaluating evaluation workspace next).Orderly items .halt := by
  unfold evaluating
  rcases evaluation workspace with ⟨reason | result, now⟩
  · trivial
  · exact continued result now

/-- An error that was not thrown is followed by what comes next. -/
theorem raising_orderly {next : Workspace → Running} {kind : ErrorKind}
    (notThrown : kind ≠ .thrown) (message : String) (workspace : Workspace)
    (starts : ∀ now, (next now).shown = now)
    (continued : ∀ now, (next now).Orderly items .halt) :
    (raising ⟨kind, message⟩ workspace next).Orderly items .halt := by
  rw [raising_eq, resuming_of_not_thrown notThrown]
  exact fun keeping => ⟨starts _, fun isThrown => absurd isThrown notThrown, continued _⟩

/-- Each item is evaluated right after the value before it. -/
theorem emitAll_orderly (list : List Expression) (within : list ⊆ items) (workspace : Workspace) :
    (emitAll list workspace).Orderly items .halt := by
  induction list generalizing workspace with
  | nil => trivial
  | cons item list inductionHypothesis =>
    obtain ⟨_, rest⟩ := List.cons_subset.mp within
    refine evaluating_orderly workspace fun value now => ⟨?_, inductionHypothesis rest now⟩
    cases list with
    | nil => exact .inl rfl
    | cons next list =>
      refine .inr ⟨next, rest List.mem_cons_self, ?_⟩
      show (evaluating next.evaluate now _).shown = _
      unfold evaluating
      rcases next.evaluate now with ⟨reason | value, after⟩ <;> rfl

theorem shown_afterRound {next : Workspace → Running} (starts : ∀ now, (next now).shown = now)
    (flow : Flow) (workspace : Workspace) : (afterRound flow workspace next).shown = workspace := by
  cases flow with
  | normal => exact starts workspace
  | leaveLoop => rfl
  | giveBack result => rfl
  | halt => rfl
  | fault reason => rfl

theorem afterRound_orderly {next : Workspace → Running}
    (continued : ∀ now, (next now).Orderly items .halt) (flow : Flow) (workspace : Workspace) :
    (afterRound flow workspace next).Orderly items .halt := by
  cases flow with
  | normal => exact continued workspace
  | leaveLoop => trivial
  | giveBack result => trivial
  | halt => trivial
  | fault reason => trivial

theorem shown_whileRounds (condition : Evaluation Value) (body : Workspace → Running)
    (limit : Nat) (workspace : Workspace) :
    (whileRounds condition body limit workspace).shown = workspace := by
  cases limit <;> rfl

theorem whileRounds_orderly {condition : Evaluation Value} {body : Workspace → Running}
    (bodyOrderly : ∀ now, (body now).Orderly items .halt) (limit : Nat) (workspace : Workspace) :
    (whileRounds condition body limit workspace).Orderly items .halt := by
  induction limit generalizing workspace with
  | zero => trivial
  | succ limit inductionHypothesis =>
    refine evaluating_orderly workspace fun value now => ?_
    split
    · exact (bodyOrderly now).bind
        (shown_afterRound (shown_whileRounds condition body limit))
        (afterRound_orderly inductionHypothesis) fun _ => rfl
    · trivial

theorem shown_forRounds (name : String) (body : Workspace → Running) (rounds : Nat)
    (current : Int) (workspace : Workspace) :
    (forRounds name body rounds current workspace).shown = workspace := by
  cases rounds <;> rfl

theorem forRounds_orderly {name : String} {body : Workspace → Running}
    (bodyOrderly : ∀ now, (body now).Orderly items .halt) (rounds : Nat) (current : Int)
    (workspace : Workspace) : (forRounds name body rounds current workspace).Orderly items .halt := by
  induction rounds generalizing current workspace with
  | zero => trivial
  | succ rounds inductionHypothesis =>
    exact (bodyOrderly _).bind (shown_afterRound (shown_forRounds name body rounds (current + 1)))
      (afterRound_orderly (inductionHypothesis (current + 1))) fun _ => rfl

theorem shown_runBlock (limit : Nat) (block : List Statement) (workspace : Workspace) :
    (runBlock limit block workspace).shown = workspace := by
  cases block <;> rfl

mutual

/-- A statement is orderly. -/
theorem runStatement_orderly (limit : Nat) : ∀ statement : Statement, statement.items ⊆ items →
    ∀ workspace, (runStatement limit statement workspace).Orderly items .halt
  | .echo text, _, workspace => evaluating_orderly workspace fun _ _ => ⟨.inl rfl, trivial⟩
  | .emit list, within, workspace => emitAll_orderly list within workspace
  | .set name value isGlobal, _, workspace => evaluating_orderly workspace fun _ _ => trivial
  | .unset name, _, _ => trivial
  | .param names, _, _ => trivial
  | .evaluate expression, _, workspace => evaluating_orderly workspace fun _ _ => trivial
  | .choose branches otherwise, within, workspace => by
    rw [Statement.items, List.append_subset] at within
    exact runBranches_orderly limit branches within.1
      (runBlock_orderly limit otherwise within.2) workspace
  | .whileLoop condition body, within, workspace => by
    rw [Statement.items] at within
    exact whileRounds_orderly (runBlock_orderly limit body within) limit workspace
  | .forLoop name first last body, within, workspace => by
    rw [Statement.items] at within
    exact evaluating_orderly workspace fun lower now => evaluating_orderly now fun upper now =>
      forRounds_orderly (runBlock_orderly limit body within) _ _ now
  | .leaveLoop, _, _ => trivial
  | .giveBack none, _, _ => trivial
  | .giveBack (some result), _, workspace => evaluating_orderly workspace fun _ _ => trivial
  | .error text, _, workspace => by
    refine evaluating_orderly workspace fun message now => ?_
    exact raising_orderly (by decide) message now (fun _ => rfl) fun _ => trivial
  | .throw text, _, workspace => evaluating_orderly workspace fun message now => by
    rw [raising_eq]
    exact fun keeping => ⟨rfl, fun _ => rfl, trivial⟩

/-- A block is orderly. -/
theorem runBlock_orderly (limit : Nat) : ∀ block : List Statement,
    Statement.blockItems block ⊆ items →
      ∀ workspace, (runBlock limit block workspace).Orderly items .halt
  | [], _, _ => trivial
  | statement :: rest, within, workspace => by
    rw [Statement.blockItems, List.append_subset] at within
    have restStarts := shown_runBlock limit rest
    have restOrderly := runBlock_orderly limit rest within.2
    refine (runStatement_orderly limit statement within.1 workspace).bind
      (fun flow now => ?_) (fun flow now => ?_) fun _ => rfl
    · cases flow with
      | normal => exact restStarts now
      | fault reason => rfl
      | leaveLoop => rfl
      | giveBack result => rfl
      | halt => rfl
    · cases flow with
      | normal => exact restOrderly now
      | fault reason => exact raising_orderly (by decide) reason.message now restStarts restOrderly
      | leaveLoop => trivial
      | giveBack result => trivial
      | halt => trivial

theorem runBranches_orderly (limit : Nat) : ∀ branches : List (Expression × List Statement),
    Statement.branchesItems branches ⊆ items → ∀ {otherwise : Workspace → Running},
      (∀ now, (otherwise now).Orderly items .halt) → ∀ workspace,
        (runBranches limit branches otherwise workspace).Orderly items .halt
  | [], _, _, otherwiseOrderly, workspace => otherwiseOrderly workspace
  | (condition, block) :: branches, within, _, otherwiseOrderly, workspace => by
    rw [Statement.branchesItems, List.append_subset] at within
    refine evaluating_orderly workspace fun value now => ?_
    split
    · exact runBlock_orderly limit block within.1 now
    · exact runBranches_orderly limit branches within.2 otherwiseOrderly now

end

/-- A script is orderly. -/
theorem runScript_orderly (limit : Nat) (block : Block) (workspace : Workspace) :
    (runScript limit block workspace).Orderly (Statement.blockItems block) () := by
  refine (runBlock_orderly limit block (List.Subset.refl _) workspace).bind
    (fun flow now => ?_) (fun flow now => ?_) fun _ => rfl
  · cases flow with
    | giveBack result => cases result <;> rfl
    | normal => rfl
    | leaveLoop => rfl
    | halt => rfl
    | fault reason => rfl
  · cases flow with
    | giveBack result =>
      cases result with
      | none => trivial
      | some value => exact ⟨.inl rfl, trivial⟩
    | normal => trivial
    | leaveLoop => trivial
    | halt => trivial
    | fault reason => trivial

end Interpreter

end SlashScript
