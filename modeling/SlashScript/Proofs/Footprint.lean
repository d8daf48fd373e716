/-
This file bounds what a script writes. The writes that a script can make are read off its text:
each assignment, wherever it stands, names the variable that it sets, and so do `/set`, `/param`,
`/for`, `/global` and `/unset`. Everything that a script does to its workspace between two
requests to its host is a sequence of such writes, on every run and to every depth of blocks,
loops and expressions.

What the host decides about an error is not among them: the log is changed only where an error is
handed over, and only if the host keeps it. Claims about variables therefore look at the writes,
and claims about the log at the requests.
-/

import Mathlib.Logic.Relation
import SlashScript.Invocation

namespace SlashScript

open Relation

/-! ### What a text names -/

/-- A way in which a script writes to its variables, and the variable that it names. -/
inductive Touch where
  /-- The variable gets a value in the innermost scope. -/
  | assigned (name : String)
  /-- The variable gets a value in the global scope. -/
  | global (name : String)
  /-- The variable is removed from the innermost scope that has it. -/
  | removed (name : String)
  deriving DecidableEq

namespace Expression

mutual

/-- The writes that an expression names. -/
def touches : Expression → List Touch
  | literal _ => []
  | named _ => []
  | unary _ operand => operand.touches
  | binary _ left right => left.touches ++ right.touches
  | conditional condition whenTrue whenFalse =>
    condition.touches ++ (whenTrue.touches ++ whenFalse.touches)
  | assign name _ operand => .assigned name :: operand.touches
  | call _ arguments => allTouches arguments
  | sequence items => allTouches items

/-- The writes that several expressions name. -/
def allTouches : List Expression → List Touch
  | [] => []
  | first :: rest => first.touches ++ allTouches rest

end

end Expression

namespace Template

/-- The writes that a part of a template names. -/
def partTouches : TemplatePart → List Touch
  | .expression expression => expression.touches
  | _ => []

/-- The writes that a template names, in the expressions that it evaluates. -/
def touches (template : Template) : List Touch :=
  template.parts.flatMap partTouches

end Template

namespace Statement

mutual

/-- The writes that a statement names, those of the blocks inside it included. -/
def touches : Statement → List Touch
  | echo text => text.touches
  | emit items => Expression.allTouches items
  | set name value isGlobal =>
    (if isGlobal then .global name else .assigned name) :: value.touches
  | unset name => [.removed name]
  | param names => names.map .assigned
  | evaluate expression => expression.touches
  | choose branches otherwise => branchesTouches branches ++ blockTouches otherwise
  | whileLoop condition body => condition.touches ++ blockTouches body
  | forLoop name first last body =>
    .assigned name :: (first.touches ++ (last.touches ++ blockTouches body))
  | leaveLoop => []
  | giveBack none => []
  | giveBack (some result) => result.touches
  | error text => text.touches
  | throw text => text.touches

/-- The writes that a block names. -/
def blockTouches : List Statement → List Touch
  | [] => []
  | statement :: rest => statement.touches ++ blockTouches rest

/-- The writes that the branches of a conditional name. -/
def branchesTouches : List (Expression × List Statement) → List Touch
  | [] => []
  | (condition, block) :: branches =>
    condition.touches ++ (blockTouches block ++ branchesTouches branches)

end

end Statement

/-! ### Writes -/

namespace Workspace

/-- One write of a kind that is allowed. -/
inductive Writes (allowed : List Touch) (workspace : Workspace) : Workspace → Prop where
  | assign {name : String} (value : Value) (named : .assigned name ∈ allowed) :
    Writes allowed workspace (workspace.set name value)
  | assignGlobal {name : String} (value : Value) (named : .global name ∈ allowed) :
    Writes allowed workspace (workspace.setGlobal name value)
  | remove {name : String} (named : .removed name ∈ allowed) :
    Writes allowed workspace (workspace.unset name)

/-- Any number of writes of kinds that are allowed. -/
abbrev Reaches (allowed : List Touch) : Workspace → Workspace → Prop :=
  ReflTransGen (Writes allowed)

theorem Writes.errors {allowed : List Touch} {before after : Workspace}
    (write : Writes allowed before after) : after.errors = before.errors := by
  cases write with
  | assign value named =>
    unfold set
    split <;> rfl
  | assignGlobal value named => rfl
  | remove named => rfl

/-- The log is not written to between requests. -/
theorem Reaches.errors {allowed : List Touch} {start now : Workspace}
    (reached : Reaches allowed start now) : now.errors = start.errors := by
  induction reached with
  | refl => rfl
  | tail _ write inductionHypothesis => rw [write.errors, inductionHypothesis]

/-- The workspace after an error was handed over, by what became of the error. -/
def keep (workspace : Workspace) (record : ErrorRecord) : Keeping → Workspace
  | .logged => workspace.record record
  | .dropped => workspace

end Workspace

open Workspace (Reaches)

/-! ### Evaluations -/

namespace Evaluation

variable {First Second Result : Type} {allowed : List Touch}

/-- All that an evaluation does to the workspace, failed or not, is allowed. -/
def WritesOnly (allowed : List Touch) (evaluation : Evaluation Result) : Prop :=
  ∀ workspace, Reaches allowed workspace (evaluation workspace).2

theorem WritesOnly.pure (result : Result) : WritesOnly allowed (Pure.pure result) :=
  fun _ => .refl

theorem WritesOnly.ask (read : Workspace → Result) : WritesOnly allowed (Evaluation.ask read) :=
  fun _ => .refl

theorem WritesOnly.ofExcept (result : Except EvalError Result) :
    WritesOnly allowed (Evaluation.ofExcept result) :=
  fun _ => .refl

theorem WritesOnly.set {name : String} (value : Value) (named : .assigned name ∈ allowed) :
    WritesOnly allowed (Evaluation.change fun workspace => workspace.set name value) :=
  fun _ => .single (.assign value named)

theorem WritesOnly.bind {first : Evaluation First} {second : First → Evaluation Second}
    (firstOnly : first.WritesOnly allowed)
    (secondOnly : ∀ result, (second result).WritesOnly allowed) :
    WritesOnly allowed (first >>= second) := by
  intro workspace
  have reached := firstOnly workspace
  show Reaches allowed workspace (Evaluation.bind first second workspace).2
  unfold Evaluation.bind
  rcases outcome : first workspace with ⟨_ | result, between⟩
  · rw [outcome] at reached
    exact reached
  · rw [outcome] at reached
    exact reached.trans (secondOnly result between)

end Evaluation

namespace Expression

variable {allowed : List Touch}

mutual

/-- An expression assigns only the variables that its text names as assigned. -/
theorem evaluate_writesOnly : ∀ expression : Expression, expression.touches ⊆ allowed →
    expression.evaluate.WritesOnly allowed
  | literal value, _ => .pure value
  | named name, _ => .ask _
  | unary .neg operand, within => (evaluate_writesOnly operand within).bind fun _ => .pure _
  | unary .not operand, within => (evaluate_writesOnly operand within).bind fun _ => .pure _
  | binary operator left right, within => by
    rw [touches, List.append_subset] at within
    have leftOnly := evaluate_writesOnly left within.1
    have rightOnly := evaluate_writesOnly right within.2
    cases operator
    case and =>
      refine leftOnly.bind fun value => ?_
      split
      · exact rightOnly.bind fun _ => .pure _
      · exact .pure _
    case or =>
      refine leftOnly.bind fun value => ?_
      split
      · exact .pure _
      · exact rightOnly.bind fun _ => .pure _
    all_goals exact leftOnly.bind fun _ => rightOnly.bind fun _ => .ofExcept _
  | conditional condition whenTrue whenFalse, within => by
    rw [touches, List.append_subset, List.append_subset] at within
    refine (evaluate_writesOnly condition within.1).bind fun value => ?_
    split
    · exact evaluate_writesOnly whenTrue within.2.1
    · exact evaluate_writesOnly whenFalse within.2.2
  | assign name assignment operand, within => by
    rw [touches, List.cons_subset] at within
    refine (evaluate_writesOnly operand within.2).bind fun _ => ?_
    refine Evaluation.WritesOnly.bind (.ask _) fun _ => ?_
    refine Evaluation.WritesOnly.bind (.ofExcept _) fun _ => ?_
    exact Evaluation.WritesOnly.bind (.set _ within.1) fun _ => .pure _
  | call name arguments, within => (evaluateAll_writesOnly arguments within).bind fun _ _ => .refl
  | sequence items, within => (evaluateAll_writesOnly items within).bind fun _ => .pure _

theorem evaluateAll_writesOnly : ∀ items : List Expression, allTouches items ⊆ allowed →
    (evaluateAll items).WritesOnly allowed
  | [], _ => .pure []
  | first :: rest, within => by
    rw [allTouches, List.append_subset] at within
    exact (evaluate_writesOnly first within.1).bind fun _ =>
      (evaluateAll_writesOnly rest within.2).bind fun _ => .pure _

end

end Expression

namespace Template

variable {allowed : List Touch}

theorem expandPart_writesOnly (part : TemplatePart) (within : partTouches part ⊆ allowed) :
    (expandPart part).WritesOnly allowed := by
  cases part with
  | literal text => exact .pure text
  | named name default => exact .ask _
  | argument index => exact .ask _
  | allArguments => exact .ask _
  | argumentCount => exact .ask _
  | expression expression =>
    exact (Expression.evaluate_writesOnly expression within).bind fun _ => .pure _

theorem expandParts_writesOnly (parts : List TemplatePart)
    (within : parts.flatMap partTouches ⊆ allowed) : (expandParts parts).WritesOnly allowed := by
  induction parts with
  | nil => exact .pure ""
  | cons part rest inductionHypothesis =>
    rw [List.flatMap_cons, List.append_subset] at within
    exact (expandPart_writesOnly part within.1).bind fun _ =>
      (inductionHypothesis within.2).bind fun _ => .pure _

/-- A template assigns only the variables that the expressions in it name as assigned. -/
theorem expand_writesOnly (template : Template) (within : template.touches ⊆ allowed) :
    template.expand.WritesOnly allowed :=
  expandParts_writesOnly template.parts within

end Template

/-! ### Runs -/

namespace Run

variable {First Second Result : Type} {allowed : List Touch}

/-- Between its requests, from the given workspace on, a run makes only writes that are allowed.
After an error the run goes on from the workspace in which the error was kept, or was not. -/
def WritesOnly (allowed : List Touch) : Workspace → Run Workspace Result → Prop
  | start, .done _ now => Reaches allowed start now
  | start, .exhausted now => Reaches allowed start now
  | start, .poll now next => Reaches allowed start now ∧ (next ()).WritesOnly allowed now
  | start, .emit _ now next => Reaches allowed start now ∧ (next ()).WritesOnly allowed now
  | start, .raise record now next =>
    Reaches allowed start now ∧
      ∀ keeping, (next keeping).WritesOnly allowed (now.keep record keeping)

/-- Writes before the start of a run may be counted to the run. -/
theorem WritesOnly.before {run : Run Workspace Result} {start between : Workspace}
    (reached : Reaches allowed start between) (only : run.WritesOnly allowed between) :
    run.WritesOnly allowed start := by
  cases run with
  | done result now => exact reached.trans only
  | exhausted now => exact reached.trans only
  | poll now next => exact ⟨reached.trans only.1, only.2⟩
  | emit value now next => exact ⟨reached.trans only.1, only.2⟩
  | raise record now next => exact ⟨reached.trans only.1, only.2⟩

theorem WritesOnly.bind {run : Run Workspace First} {start : Workspace}
    {continuation : First → Workspace → Run Workspace Second}
    (only : run.WritesOnly allowed start)
    (continued : ∀ result now, (continuation result now).WritesOnly allowed now) :
    (run.bind continuation).WritesOnly allowed start := by
  induction run generalizing start with
  | done result now => exact (continued result now).before only
  | exhausted now => exact only
  | poll now next inductionHypothesis => exact ⟨only.1, inductionHypothesis () only.2⟩
  | emit value now next inductionHypothesis => exact ⟨only.1, inductionHypothesis () only.2⟩
  | raise record now next inductionHypothesis =>
    exact ⟨only.1, fun keeping => inductionHypothesis keeping (only.2 keeping)⟩

end Run

namespace Interpreter

variable {Result : Type} {allowed : List Touch}

theorem evaluating_writesOnly {evaluation : Evaluation Result}
    {next : Result → Workspace → Running} (workspace : Workspace)
    (only : evaluation.WritesOnly allowed)
    (continued : ∀ result now, (next result now).WritesOnly allowed now) :
    (evaluating evaluation workspace next).WritesOnly allowed workspace := by
  have reached := only workspace
  unfold evaluating
  rcases outcome : evaluation workspace with ⟨reason | result, now⟩
  · rw [outcome] at reached
    exact reached
  · rw [outcome] at reached
    exact (continued result now).before reached

/-- An error leaves the workspace as the host's keeping says. -/
theorem raising_eq (record : ErrorRecord) (workspace : Workspace) (next : Workspace → Running) :
    raising record workspace next =
      .raise record workspace fun keeping =>
        resuming record next (workspace.keep record keeping) := by
  unfold raising
  congr 1
  funext keeping
  cases keeping <;> rfl

/-- A script goes on after an error that was not thrown. -/
theorem resuming_of_not_thrown {record : ErrorRecord} (notThrown : record.kind ≠ .thrown)
    (next : Workspace → Running) : resuming record next = next :=
  funext fun _ => if_pos (bne_iff_ne.mpr notThrown)

theorem raising_writesOnly {next : Workspace → Running} (record : ErrorRecord)
    (workspace : Workspace) (continued : ∀ now, (next now).WritesOnly allowed now) :
    (raising record workspace next).WritesOnly allowed workspace := by
  rw [raising_eq]
  refine ⟨.refl, fun keeping => ?_⟩
  unfold resuming
  split
  · exact continued _
  · exact .refl

theorem emitting_writesOnly {next : Workspace → Running} (value : Value) (workspace : Workspace)
    (continued : ∀ now, (next now).WritesOnly allowed now) :
    (emitting value workspace next).WritesOnly allowed workspace :=
  ⟨.refl, continued workspace⟩

theorem emitAll_writesOnly (items : List Expression)
    (within : Expression.allTouches items ⊆ allowed) (workspace : Workspace) :
    (emitAll items workspace).WritesOnly allowed workspace := by
  induction items generalizing workspace with
  | nil => exact .refl
  | cons item items inductionHypothesis =>
    rw [Expression.allTouches, List.append_subset] at within
    exact evaluating_writesOnly workspace (Expression.evaluate_writesOnly item within.1)
      fun value now => emitting_writesOnly value now (inductionHypothesis within.2)

theorem bindNames_reaches (names : List String) (arguments : List Value)
    (within : names.map Touch.assigned ⊆ allowed) (workspace : Workspace) :
    Reaches allowed workspace (bindNames names arguments workspace) := by
  induction names generalizing arguments workspace with
  | nil => exact .refl
  | cons name names inductionHypothesis =>
    rw [List.map_cons, List.cons_subset] at within
    exact (inductionHypothesis arguments.tail within.2 _).head (.assign _ within.1)

theorem rangeEnd_writesOnly (bound : String) (text : Template) (within : text.touches ⊆ allowed) :
    (rangeEnd bound text).WritesOnly allowed := by
  refine (Template.expand_writesOnly text within).bind fun content => ?_
  split
  · exact .pure _
  · exact .ofExcept _

theorem afterRound_writesOnly {next : Workspace → Running} (flow : Flow) (workspace : Workspace)
    (continued : ∀ now, (next now).WritesOnly allowed now) :
    (afterRound flow workspace next).WritesOnly allowed workspace := by
  cases flow with
  | normal => exact continued workspace
  | leaveLoop => exact .refl
  | giveBack result => exact .refl
  | halt => exact .refl
  | fault reason => exact .refl

theorem whileRounds_writesOnly {condition : Evaluation Value} {body : Workspace → Running}
    (conditionOnly : condition.WritesOnly allowed)
    (bodyOnly : ∀ now, (body now).WritesOnly allowed now) (limit : Nat) (workspace : Workspace) :
    (whileRounds condition body limit workspace).WritesOnly allowed workspace := by
  induction limit generalizing workspace with
  | zero => exact .refl
  | succ limit inductionHypothesis =>
    refine ⟨.refl, evaluating_writesOnly workspace conditionOnly fun value now => ?_⟩
    split
    · exact (bodyOnly now).bind fun flow now => afterRound_writesOnly flow now inductionHypothesis
    · exact .refl

theorem forRounds_writesOnly {name : String} {body : Workspace → Running}
    (named : .assigned name ∈ allowed) (bodyOnly : ∀ now, (body now).WritesOnly allowed now)
    (rounds : Nat) (current : Int) (workspace : Workspace) :
    (forRounds name body rounds current workspace).WritesOnly allowed workspace := by
  induction rounds generalizing current workspace with
  | zero => exact .refl
  | succ rounds inductionHypothesis =>
    have counted : Reaches allowed workspace
        (workspace.set name (.integer (Int64.ofInt current))) :=
      .single (.assign _ named)
    have round := (bodyOnly (workspace.set name (.integer (Int64.ofInt current)))).bind
      fun flow now => afterRound_writesOnly flow now (inductionHypothesis (current + 1))
    exact ⟨.refl, round.before counted⟩

mutual

/-- A statement makes only the writes that its text names. -/
theorem runStatement_writesOnly (limit : Nat) : ∀ statement : Statement,
    statement.touches ⊆ allowed → ∀ workspace,
      (runStatement limit statement workspace).WritesOnly allowed workspace
  | .echo text, within, workspace =>
    evaluating_writesOnly workspace (text.expand_writesOnly within) fun _ now =>
      emitting_writesOnly _ now fun _ => .refl
  | .emit items, within, workspace => emitAll_writesOnly items within workspace
  | .set name value isGlobal, within, workspace => by
    rw [Statement.touches, List.cons_subset] at within
    refine evaluating_writesOnly workspace (value.expand_writesOnly within.2) fun text now => ?_
    cases isGlobal
    · exact .single (.assign _ within.1)
    · exact .single (.assignGlobal _ within.1)
  | .unset name, within, _ => .single (.remove (within List.mem_cons_self))
  | .param names, within, workspace => bindNames_reaches names workspace.arguments within workspace
  | .evaluate expression, within, workspace =>
    evaluating_writesOnly workspace (expression.evaluate_writesOnly within) fun _ _ => .refl
  | .choose branches otherwise, within, workspace => by
    rw [Statement.touches, List.append_subset] at within
    exact runBranches_writesOnly limit branches within.1
      (runBlock_writesOnly limit otherwise within.2) workspace
  | .whileLoop condition body, within, workspace => by
    rw [Statement.touches, List.append_subset] at within
    exact whileRounds_writesOnly (condition.evaluate_writesOnly within.1)
      (runBlock_writesOnly limit body within.2) limit workspace
  | .forLoop name first last body, within, workspace => by
    rw [Statement.touches, List.cons_subset, List.append_subset, List.append_subset] at within
    obtain ⟨named, firstWithin, lastWithin, bodyWithin⟩ := within
    refine evaluating_writesOnly workspace (rangeEnd_writesOnly _ first firstWithin)
      fun lower now => ?_
    refine evaluating_writesOnly now (rangeEnd_writesOnly _ last lastWithin) fun upper now => ?_
    exact forRounds_writesOnly named (runBlock_writesOnly limit body bodyWithin) _ _ now
  | .leaveLoop, _, _ => .refl
  | .giveBack none, _, _ => .refl
  | .giveBack (some result), within, workspace =>
    evaluating_writesOnly workspace (result.evaluate_writesOnly within) fun _ _ => .refl
  | .error text, within, workspace =>
    evaluating_writesOnly workspace (text.expand_writesOnly within) fun _ now =>
      raising_writesOnly _ now fun _ => .refl
  | .throw text, within, workspace =>
    evaluating_writesOnly workspace (text.expand_writesOnly within) fun _ now =>
      raising_writesOnly _ now fun _ => .refl

/-- A block makes only the writes that the text of its statements names. -/
theorem runBlock_writesOnly (limit : Nat) : ∀ block : List Statement,
    Statement.blockTouches block ⊆ allowed → ∀ workspace,
      (runBlock limit block workspace).WritesOnly allowed workspace
  | [], _, _ => .refl
  | statement :: rest, within, workspace => by
    rw [Statement.blockTouches, List.append_subset] at within
    have restOnly := runBlock_writesOnly limit rest within.2
    refine ⟨.refl, (runStatement_writesOnly limit statement within.1 workspace).bind
      fun flow now => ?_⟩
    cases flow with
    | normal => exact restOnly now
    | fault reason => exact raising_writesOnly _ now restOnly
    | leaveLoop => exact .refl
    | giveBack result => exact .refl
    | halt => exact .refl

theorem runBranches_writesOnly (limit : Nat) :
    ∀ branches : List (Expression × List Statement),
      Statement.branchesTouches branches ⊆ allowed → ∀ {otherwise : Workspace → Running},
        (∀ now, (otherwise now).WritesOnly allowed now) → ∀ workspace,
          (runBranches limit branches otherwise workspace).WritesOnly allowed workspace
  | [], _, _, otherwiseOnly, workspace => otherwiseOnly workspace
  | (condition, block) :: branches, within, _, otherwiseOnly, workspace => by
    rw [Statement.branchesTouches, List.append_subset, List.append_subset] at within
    refine evaluating_writesOnly workspace (condition.evaluate_writesOnly within.1)
      fun value now => ?_
    split
    · exact runBlock_writesOnly limit block within.2.1 now
    · exact runBranches_writesOnly limit branches within.2.2 otherwiseOnly now

end

/-- A script makes only the writes that its text names. -/
theorem runScript_writesOnly (limit : Nat) (block : Block) (workspace : Workspace) :
    (runScript limit block workspace).WritesOnly (Statement.blockTouches block) workspace := by
  refine (runBlock_writesOnly limit block (List.Subset.refl _) workspace).bind fun flow now => ?_
  cases flow with
  | giveBack result =>
    cases result with
    | none => exact .refl
    | some value => exact ⟨.refl, .refl⟩
  | normal => exact .refl
  | leaveLoop => exact .refl
  | halt => exact .refl
  | fault reason => exact .refl

end Interpreter

end SlashScript
