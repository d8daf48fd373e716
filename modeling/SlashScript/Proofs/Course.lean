/-
This file follows a run from one request to the next. The course of a run is the list of the
answers with which it went on, and a course leads from a run to the rest of it, which is what
becomes of the run after those answers. Who answers does not matter here: a pipe or a host may
answer at once, or a consumer that lags behind, and a run may be left at every place on its way.

What a script writes and what is kept in its log depend on the course alone. The writes between
two requests are those that its text names, and the log grows by the errors of the course that
were kept.
-/

import SlashScript.Proofs.Channel.Basic

namespace SlashScript

/-! ### Answers -/

/-- An answer to a request with which a run goes on. -/
inductive Answer where
  /-- A statement begins, or a round of a loop. -/
  | goOn
  /-- The value was handed over. -/
  | taken (value : Value)
  | kept (record : ErrorRecord) (keeping : Keeping)

namespace Answer

/-- The value that was handed over. -/
def value? : Answer → Option Value
  | taken value => some value
  | _ => none

/-- The error that was raised. -/
def record? : Answer → Option ErrorRecord
  | kept record _ => some record
  | _ => none

/-- The error that was raised, if it belongs in the log. -/
def logged? : Answer → Option ErrorRecord
  | kept record .logged => some record
  | _ => none

/-- The values that were handed over, in order. -/
def values (answers : List Answer) : List Value :=
  answers.filterMap value?

/-- The errors that were raised and allowed to pass, in order. -/
def records (answers : List Answer) : List ErrorRecord :=
  answers.filterMap record?

/-- The errors that were kept in the log, in order. -/
def logged (answers : List Answer) : List ErrorRecord :=
  answers.filterMap logged?

end Answer

namespace Run

variable {Result : Type}

/-! ### Courses -/

/-- A run goes on with these answers and comes to the rest. -/
inductive LeadsTo : Run Workspace Result → List Answer → Run Workspace Result → Prop where
  | here (run : Run Workspace Result) : LeadsTo run [] run
  | goOn {now : Workspace} {next : Unit → Run Workspace Result} {answers : List Answer}
    {rest : Run Workspace Result} (later : LeadsTo (next ()) answers rest) :
    LeadsTo (.poll now next) (.goOn :: answers) rest
  | taken {value : Value} {now : Workspace} {next : Unit → Run Workspace Result}
    {answers : List Answer} {rest : Run Workspace Result} (later : LeadsTo (next ()) answers rest) :
    LeadsTo (.emit value now next) (.taken value :: answers) rest
  | kept {record : ErrorRecord} {now : Workspace} {next : Keeping → Run Workspace Result}
    (keeping : Keeping) {answers : List Answer} {rest : Run Workspace Result}
    (later : LeadsTo (next keeping) answers rest) :
    LeadsTo (.raise record now next) (.kept record keeping :: answers) rest

/-- A run may be left here, at its end or at a request, and so it ends. -/
inductive Leaves : Run Workspace Result → Ending Result → Prop where
  | done (result : Result) (now : Workspace) : Leaves (.done result now) (.finished result)
  | exhausted (now : Workspace) : Leaves (.exhausted now) .exhausted
  | poll (now : Workspace) (next : Unit → Run Workspace Result) :
    Leaves (.poll now next) .cancelled
  | emit (value : Value) (now : Workspace) (next : Unit → Run Workspace Result) :
    Leaves (.emit value now next) .cancelled
  | raise (record : ErrorRecord) (now : Workspace) (next : Keeping → Run Workspace Result) :
    Leaves (.raise record now next) .cancelled
  | stopped (record : ErrorRecord) (now : Workspace) (next : Keeping → Run Workspace Result) :
    Leaves (.raise record now next) (.stopped record)

namespace LeadsTo

variable {run between rest : Run Workspace Result} {earlier later answers : List Answer}

theorem append (first : run.LeadsTo earlier between) (second : between.LeadsTo later rest) :
    run.LeadsTo (earlier ++ later) rest := by
  induction first with
  | here run => exact second
  | goOn _ inductionHypothesis => exact .goOn (inductionHypothesis second)
  | taken _ inductionHypothesis => exact .taken (inductionHypothesis second)
  | kept keeping _ inductionHypothesis => exact .kept keeping (inductionHypothesis second)

/-- A course can be divided at every place. -/
theorem divide (leads : run.LeadsTo (earlier ++ later) rest) :
    ∃ between, run.LeadsTo earlier between ∧ between.LeadsTo later rest := by
  induction earlier generalizing run with
  | nil => exact ⟨run, .here run, leads⟩
  | cons answer earlier inductionHypothesis =>
    cases leads with
    | goOn leads =>
      obtain ⟨between, first, second⟩ := inductionHypothesis leads
      exact ⟨between, .goOn first, second⟩
    | taken leads =>
      obtain ⟨between, first, second⟩ := inductionHypothesis leads
      exact ⟨between, .taken first, second⟩
    | kept keeping leads =>
      obtain ⟨between, first, second⟩ := inductionHypothesis leads
      exact ⟨between, .kept keeping first, second⟩

end LeadsTo

/-! ### What is written on the way -/

variable {allowed : List Touch} {run rest : Run Workspace Result} {start : Workspace}
  {answers : List Answer}

open Workspace (Reaches Writes)

/-- A run comes to its first request by writes that are allowed. -/
theorem WritesOnly.reaches_shown (only : run.WritesOnly allowed start) :
    Reaches allowed start run.shown := by
  cases run with
  | done result now => exact only
  | exhausted now => exact only
  | poll now next => exact only.1
  | emit value now next => exact only.1
  | raise record now next => exact only.1

/-- What the writes of a run and the keeping of errors preserve holds wherever a course leads. -/
theorem LeadsTo.preserve {invariant : Workspace → Prop}
    (writes : ∀ {before after}, Writes allowed before after → invariant before → invariant after)
    (keeps : ∀ {before} record keeping, invariant before →
      invariant (before.keep record keeping))
    (leads : run.LeadsTo answers rest) (only : run.WritesOnly allowed start)
    (initially : invariant start) : invariant rest.shown := by
  induction leads generalizing start with
  | here run => exact only.reaches_shown.preserve writes initially
  | goOn _ inductionHypothesis =>
    exact inductionHypothesis only.2 (Reaches.preserve writes only.1 initially)
  | taken _ inductionHypothesis =>
    exact inductionHypothesis only.2 (Reaches.preserve writes only.1 initially)
  | kept keeping _ inductionHypothesis =>
    exact inductionHypothesis (only.2 keeping)
      (keeps _ keeping (Reaches.preserve writes only.1 initially))

/-- Wherever a course leads, the log has grown by the errors that were kept. -/
theorem LeadsTo.errors (leads : run.LeadsTo answers rest) (only : run.WritesOnly allowed start) :
    rest.shown.errors = start.errors ++ Answer.logged answers := by
  induction leads generalizing start with
  | here run => rw [only.reaches_shown.errors, Answer.logged, List.filterMap_nil, List.append_nil]
  | goOn _ inductionHypothesis => rw [inductionHypothesis only.2, only.1.errors]; rfl
  | taken _ inductionHypothesis => rw [inductionHypothesis only.2, only.1.errors]; rfl
  | kept keeping _ inductionHypothesis =>
    rw [inductionHypothesis (only.2 keeping), ← only.1.errors]
    cases keeping with
    | logged => exact List.append_assoc _ _ _
    | dropped => rfl

end Run

end SlashScript
