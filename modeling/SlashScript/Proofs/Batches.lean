/-
This file says what a command makes of a stream of inputs. Pieces of text that arrive one after
the other make a batch, and a script that is ready is a batch of its own; the command runs the
batches in order, each in the session that the one before it left behind, and the first failure
ends it. Text is thus run once, before the script that follows it, and as one script however many
pieces it came in.

A batch that does not compile, or for which there is no error action, is refused before it takes
a number: nothing has changed then, inside or outside.
-/

import Mathlib.Data.List.Chain
import SlashScript.Pipeline
import SlashScript.Proofs.Calls

namespace SlashScript

/-! ### Batches -/

/-- What a command runs at one time. -/
inductive Batch where
  /-- Pieces of text that arrive one after the other, at least one. -/
  | texts (first : Fragment) (others : List Fragment)
  /-- A script that needs no compiling. -/
  | ready (script : Script)

namespace Batch

/-- The inputs that a batch is made of. -/
def inputs : Batch → List RunInput
  | texts first others => (first :: others).map .text
  | ready script => [.script script]

/-- Whether a batch is made of pieces of text. -/
def isTexts : Batch → Bool
  | texts _ _ => true
  | ready _ => false

/-- Puts an input before batches; a piece of text joins the pieces that follow it. -/
def prepend : RunInput → List Batch → List Batch
  | .text fragment, texts first others :: batches => texts fragment (first :: others) :: batches
  | .text fragment, batches => texts fragment [] :: batches
  | .script script, batches => ready script :: batches

/-- The batches that inputs make. -/
def ofInputs (inputs : List RunInput) : List Batch :=
  inputs.foldr prepend []

theorem flatMap_inputs_prepend (input : RunInput) (batches : List Batch) :
    (prepend input batches).flatMap inputs = input :: batches.flatMap inputs := by
  cases input with
  | script script => rfl
  | text fragment =>
    match batches with
    | [] | ready _ :: _ | texts _ _ :: _ => rfl

/-- Every input is in a batch, in order. -/
theorem flatMap_inputs_ofInputs (inputs : List RunInput) :
    (ofInputs inputs).flatMap Batch.inputs = inputs := by
  induction inputs with
  | nil => rfl
  | cons input inputs inductionHypothesis =>
    rw [ofInputs, List.foldr_cons, flatMap_inputs_prepend]
    exact congrArg _ inductionHypothesis

/-- Two batches of which not both are made of text. -/
def Apart (left right : Batch) : Prop :=
  ¬ (left.isTexts = true ∧ right.isTexts = true)

theorem prepend_isChain (input : RunInput) {batches : List Batch}
    (chain : batches.IsChain Apart) : (prepend input batches).IsChain Apart := by
  cases input with
  | script script =>
    refine List.IsChain.cons chain fun next member => ?_
    rintro ⟨isTexts, _⟩
    cases isTexts
  | text fragment =>
    match batches, chain with
    | [], _ => exact .singleton _
    | ready _ :: _, chain =>
      refine chain.cons_cons ?_
      rintro ⟨_, isTexts⟩
      cases isTexts
    | texts _ _ :: rest, chain =>
      cases rest with
      | nil => exact .singleton _
      | cons next rest =>
        have apart := List.isChain_cons_cons.mp chain
        exact apart.2.cons_cons apart.1

/-- The batches are as long as can be: pieces of text that follow each other are in one batch. -/
theorem ofInputs_isChain (inputs : List RunInput) : (ofInputs inputs).IsChain Apart := by
  induction inputs with
  | nil => exact .nil
  | cons input inputs inductionHypothesis => exact prepend_isChain input inductionHypothesis

/-- Text before a script makes a batch that ends there. -/
theorem ofInputs_texts_script (first : Fragment) (others : List Fragment) (script : Script)
    (inputs : List RunInput) :
    ofInputs ((first :: others).map .text ++ .script script :: inputs) =
      texts first others :: ready script :: ofInputs inputs := by
  induction others generalizing first with
  | nil => rfl
  | cons second others inductionHypothesis =>
    rw [List.map_cons, List.cons_append, ofInputs, List.foldr_cons]
    exact congrArg (prepend (.text first)) (inductionHypothesis second)

/-- Text at the end of the inputs makes the last batch. -/
theorem ofInputs_texts (first : Fragment) (others : List Fragment) :
    ofInputs ((first :: others).map .text) = [texts first others] := by
  induction others generalizing first with
  | nil => rfl
  | cons second others inductionHypothesis =>
    rw [List.map_cons, ofInputs, List.foldr_cons]
    exact congrArg (prepend (.text first)) (inductionHypothesis second)

/-! ### Running batches -/

variable {Outside : Type}

/-- The script of a batch: the pieces of text with a newline between any two, or the script that
is ready. -/
def compile : Batch → Except CompileError Script
  | texts first others => Script.compile ("\n".intercalate ((first :: others).map Fragment.text))
  | ready script => .ok script

/-- Runs a batch under the error action that holds in the session. -/
def run (sink : Sink Outside) (options : RunOptions) (batch : Batch) (session : Session Outside) :
    Except Failure Outcome × Session Outside :=
  match batch.compile with
  | .error reason => (.error (.compile reason), session)
  | .ok script =>
    match session.engine.resolvePolicy session.workspace options.errorAction with
    | .error reason => (.error (.invalidPolicy reason), session)
    | .ok action => session.invoke sink (options.request script action)

/-- The calls that a batch makes of a sink. -/
def calls (sink : Sink Outside) (options : RunOptions) (batch : Batch)
    (session : Session Outside) : List SinkCall :=
  (batch.run sink.recorded options session.recording).2.outside.2

/-- Runs batches in order until one fails. -/
def runEach (sink : Sink Outside) (options : RunOptions) :
    List Batch → Session Outside → Except Failure (List Outcome) × Session Outside
  | [], session => (.ok [], session)
  | batch :: batches, session =>
    match batch.run sink options session with
    | (.error reason, session) => (.error reason, session)
    | (.ok outcome, session) =>
      let (result, session) := runEach sink options batches session
      (result.map (outcome :: ·), session)

end Batch

/-! ### Refusals -/

/-- Whether the failure comes before anything is run. -/
def Failure.isRefusal : Failure → Bool
  | compile _ => true
  | invalidPolicy _ => true
  | stopped _ => false
  | cancelled => false
  | exhausted => false

section

variable {Outside : Type} {sink : Sink Outside} {options : RunOptions}
  {session after : Session Outside}

/-- What a script was asked to do is not refused any more. -/
theorem Session.invoke_not_refused {request : Request} {reason : Failure}
    (fails : (session.invoke sink request).1 = .error reason) : reason.isRefusal = false := by
  cases live : sink.isCancelled session.outside with
  | true =>
    rw [Session.invoke_of_cancelled live] at fails
    cases fails
    rfl
  | false =>
    rw [Session.invoke_of_live live] at fails
    cases ending : (session.served sink request).ending with
    | finished =>
      rw [ending] at fails
      cases fails
    | stopped =>
      rw [ending] at fails
      cases fails
      rfl
    | cancelled =>
      rw [ending] at fails
      cases fails
      rfl
    | exhausted =>
      rw [ending] at fails
      cases fails
      rfl

/-- The number of an invocation that came to its end is the next one of its engine, and the
engine goes on with the one after it. -/
theorem Session.invoke_number {request : Request} {outcome : Outcome}
    (ends : session.invoke sink request = (.ok outcome, after)) :
    outcome.invocation = session.engine.next ∧ after.engine.next = session.engine.next + 1 := by
  cases live : sink.isCancelled session.outside with
  | true =>
    rw [Session.invoke_of_cancelled live] at ends
    cases ends
  | false =>
    rw [Session.invoke_of_live live] at ends
    cases ending : (session.served sink request).ending with
    | finished =>
      rw [ending] at ends
      cases ends
      exact ⟨rfl, rfl⟩
    | stopped | cancelled | exhausted =>
      rw [ending] at ends
      cases ends

namespace Batch

/-- A batch is refused in the same way whatever its sink is, and then nothing has changed. -/
theorem run_refused {batch : Batch} {reason : Failure} (refusal : reason.isRefusal = true)
    (fails : (batch.run sink options session).1 = .error reason) {Outside' : Type}
    (sink' : Sink Outside') (outside : Outside') :
    batch.run sink' options ⟨session.engine, session.workspace, outside⟩ =
      (.error reason, ⟨session.engine, session.workspace, outside⟩) := by
  unfold run at fails ⊢
  cases compiled : batch.compile with
  | error unfit =>
    rw [compiled] at fails
    cases fails
    rfl
  | ok script =>
    rw [compiled] at fails
    cases resolved : session.engine.resolvePolicy session.workspace options.errorAction with
    | error invalid =>
      simp only [resolved] at fails ⊢
      cases fails
      rfl
    | ok action =>
      simp only [resolved] at fails
      have ran := Session.invoke_not_refused fails
      rw [refusal] at ran
      cases ran

theorem run_number {batch : Batch} {outcome : Outcome}
    (ends : batch.run sink options session = (.ok outcome, after)) :
    outcome.invocation = session.engine.next ∧ after.engine.next = session.engine.next + 1 := by
  unfold run at ends
  cases compiled : batch.compile with
  | error unfit =>
    rw [compiled] at ends
    cases ends
  | ok script =>
    rw [compiled] at ends
    cases resolved : session.engine.resolvePolicy session.workspace options.errorAction with
    | error invalid =>
      simp only [resolved] at ends
      cases ends
    | ok action =>
      simp only [resolved] at ends
      exact Session.invoke_number ends

/-- The outcomes of batches are numbered one after the other. -/
theorem runEach_numbers {batches : List Batch} {outcomes : List Outcome}
    (ends : runEach sink options batches session = (.ok outcomes, after)) :
    outcomes.map (·.invocation) = List.range' session.engine.next batches.length := by
  induction batches generalizing session outcomes with
  | nil =>
    cases ends
    rfl
  | cons batch batches inductionHypothesis =>
    rw [runEach] at ends
    rcases ran : batch.run sink options session with ⟨_ | outcome, between⟩
    · rw [ran] at ends
      cases ends
    · rw [ran] at ends
      rcases rest : runEach sink options batches between with ⟨_ | outcomes', end'⟩
      · simp only [rest] at ends
        cases ends
      · simp only [rest] at ends
        cases ends
        obtain ⟨number, next⟩ := run_number ran
        rw [List.map_cons, number, inductionHypothesis rest, next]
        rfl

/-- Batches that fail do so at one of them: those before it came to their end, and none after it
was run. -/
theorem runEach_failed {batches : List Batch} {reason : Failure}
    (fails : runEach sink options batches session = (.error reason, after)) :
    ∃ (done : List Batch) (batch : Batch) (later : List Batch) (outcomes : List Outcome)
      (before : Session Outside), batches = done ++ batch :: later ∧
        runEach sink options done session = (.ok outcomes, before) ∧
        batch.run sink options before = (.error reason, after) := by
  induction batches generalizing session with
  | nil => cases fails
  | cons batch batches inductionHypothesis =>
    rw [runEach] at fails
    rcases ran : batch.run sink options session with ⟨reason' | outcome, between⟩
    · rw [ran] at fails
      cases fails
      exact ⟨[], batch, batches, [], session, rfl, rfl, ran⟩
    · rw [ran] at fails
      rcases rest : runEach sink options batches between with ⟨reason' | outcomes', end'⟩
      · simp only [rest] at fails
        cases fails
        obtain ⟨done, failing, later, outcomes, before, split, ended, failed⟩ :=
          inductionHypothesis rest
        refine ⟨batch :: done, failing, later, outcome :: outcomes, before, ?_, ?_, failed⟩
        · rw [split]
          rfl
        · rw [runEach, ran]
          simp only [ended]
          rfl
      · simp only [rest] at fails
        cases fails

end Batch

end

/-! ### Commands -/

namespace Pipeline

variable {Outside : Type} (sink : Sink Outside) (options : RunOptions)

theorem execute_eq (script : Script) (pipeline : Pipeline Outside) :
    pipeline.execute sink options script =
      pipeline.absorb ((Batch.ready script).run sink options pipeline.session) := by
  unfold execute Batch.run Batch.compile
  cases resolved : pipeline.session.engine.resolvePolicy pipeline.session.workspace
      options.errorAction with
  | error reason => simp only [resolved, absorb]
  | ok action => simp only [resolved, tell_silent, Logger.within_silent]

theorem flush_of_nothing {pipeline : Pipeline Outside}
    (gathered : pipeline.gathering.texts.toList = []) :
    pipeline.flush sink options = (.ok (), pipeline) := by
  refine if_pos ?_
  rw [Gathering.isEmpty, ← Array.isEmpty_toList, gathered]
  rfl

theorem flush_of_texts {pipeline : Pipeline Outside} {first : Fragment} {others : List Fragment}
    (gathered : pipeline.gathering.texts.toList = (first :: others).map Fragment.text) :
    pipeline.flush sink options =
      { pipeline with gathering := .empty }.absorb
        ((Batch.texts first others).run sink options pipeline.session) := by
  have notEmpty : ¬ pipeline.gathering.isEmpty = true := by
    rw [Gathering.isEmpty, ← Array.isEmpty_toList, gathered]
    exact Bool.false_ne_true
  have text : Script.compile pipeline.gathering.text = (Batch.texts first others).compile := by
    rw [Gathering.text, gathered]
    rfl
  unfold flush
  rw [if_neg notEmpty, text]
  cases compiled : (Batch.texts first others).compile with
  | error reason => simp only [Batch.run, compiled, absorb, tell_silent]
  | ok script =>
    have sameRun : (Batch.texts first others).run sink options pipeline.session =
        (Batch.ready script).run sink options pipeline.session := by
      simp only [Batch.run, compiled]
      rfl
    rw [sameRun]
    exact execute_eq sink options script { pipeline with gathering := .empty }

/-- The end of a command that has come to this state and has these inputs before it: the outcomes
of all its batches or the failure that ends it, and the session afterwards. -/
def complete (inputs : List RunInput) (pipeline : Pipeline Outside) :
    Except Failure (List Outcome) × Session Outside :=
  match processAll sink options inputs pipeline with
  | (_, .error reason, pipeline) => (.error reason, pipeline.session)
  | (_, .ok (), pipeline) =>
    match pipeline.flush sink options with
    | (.error reason, pipeline) => (.error reason, pipeline.session)
    | (.ok (), pipeline) => (.ok pipeline.outcomes.toList, pipeline.session)

/-- The end of a command that has taken an input or run a batch and, unless that failed, goes on
with these inputs. -/
def goOn (inputs : List RunInput) :
    Except Failure Unit × Pipeline Outside → Except Failure (List Outcome) × Session Outside
  | (.error reason, pipeline) => (.error reason, pipeline.session)
  | (.ok (), pipeline) => complete sink options inputs pipeline

theorem complete_cons (input : RunInput) (inputs : List RunInput) (pipeline : Pipeline Outside) :
    complete sink options (input :: inputs) pipeline =
      goOn sink options inputs (pipeline.process sink options input) := by
  unfold complete
  rw [processAll]
  rcases pipeline.process sink options input with ⟨reason | _, between⟩
  · rfl
  · simp only [goOn, complete]
    rcases processAll sink options inputs between with ⟨accepted, reason | _, after⟩
    · rfl
    · rfl

theorem complete_nothing {pipeline : Pipeline Outside}
    (gathered : pipeline.gathering.texts.toList = []) :
    complete sink options [] pipeline = (.ok pipeline.outcomes.toList, pipeline.session) := by
  simp only [complete, processAll, flush_of_nothing sink options gathered]

/-- Text that is left at the end of the inputs is run then. -/
theorem complete_texts {pipeline : Pipeline Outside} {first : Fragment} {others : List Fragment}
    (gathered : pipeline.gathering.texts.toList = (first :: others).map Fragment.text) :
    complete sink options [] pipeline =
      goOn sink options [] ({ pipeline with gathering := .empty }.absorb
        ((Batch.texts first others).run sink options pipeline.session)) := by
  simp only [complete, processAll, flush_of_texts sink options gathered]
  rcases (Batch.texts first others).run sink options pipeline.session with ⟨reason | outcome, after⟩
  · rfl
  · exact (complete_nothing sink options rfl).symm

theorem process_script {pipeline : Pipeline Outside}
    (gathered : pipeline.gathering.texts.toList = []) (script : Script) :
    pipeline.process sink options (.script script) =
      pipeline.absorb ((Batch.ready script).run sink options pipeline.session) := by
  simp only [process, flush_of_nothing sink options gathered]
  exact execute_eq sink options script pipeline

/-- Text before a script is run before it. -/
theorem complete_texts_script (script : Script) (inputs : List RunInput)
    {pipeline : Pipeline Outside} {first : Fragment} {others : List Fragment}
    (gathered : pipeline.gathering.texts.toList = (first :: others).map Fragment.text) :
    complete sink options (.script script :: inputs) pipeline =
      goOn sink options (.script script :: inputs) ({ pipeline with gathering := .empty }.absorb
        ((Batch.texts first others).run sink options pipeline.session)) := by
  rw [complete_cons]
  simp only [process, flush_of_texts sink options gathered]
  rcases (Batch.texts first others).run sink options pipeline.session with ⟨reason | outcome, after⟩
  · rfl
  · -- The text was taken out of the gathering, so the script meets nothing before it.
    have between : (⟨after, .empty, pipeline.outcomes.push outcome⟩ : Pipeline Outside).process
        sink options (.script script) = _ := process_script sink options rfl script
    show _ = complete sink options (.script script :: inputs)
      ⟨after, .empty, pipeline.outcomes.push outcome⟩
    rw [complete_cons, between, ← execute_eq]
    rfl

/-- The end of batches that are run after others with these outcomes. -/
def afterOutcomes (outcomes : Array Outcome)
    (ended : Except Failure (List Outcome) × Session Outside) :
    Except Failure (List Outcome) × Session Outside :=
  (ended.1.map (outcomes.toList ++ ·), ended.2)

/-- To run a batch and go on is to run the batches after it too, if going on is. -/
theorem goOn_absorb {inputs : List RunInput} {gathering : Gathering} {batch : Batch}
    {batches : List Batch}
    (rest : ∀ (session : Session Outside) (outcomes : Array Outcome),
      complete sink options inputs ⟨session, gathering, outcomes⟩ =
        afterOutcomes outcomes (Batch.runEach sink options batches session))
    (session : Session Outside) (outcomes : Array Outcome) :
    goOn sink options inputs ((⟨session, gathering, outcomes⟩ : Pipeline Outside).absorb
        (batch.run sink options session)) =
      afterOutcomes outcomes (Batch.runEach sink options (batch :: batches) session) := by
  rw [Batch.runEach]
  rcases batch.run sink options session with ⟨reason | outcome, between⟩
  · rfl
  · simp only [absorb, goOn]
    rw [rest]
    rcases Batch.runEach sink options batches between with ⟨reason | later, after⟩
    · rfl
    · simp [afterOutcomes, Except.map]

/-- A command that has gathered some text goes on as the batches of that text and of the inputs
before it say. -/
theorem complete_eq_runEach (inputs : List RunInput) (gathering : Gathering)
    (pending : List Fragment) (gathered : gathering.texts.toList = pending.map Fragment.text)
    (session : Session Outside) (outcomes : Array Outcome) :
    complete sink options inputs ⟨session, gathering, outcomes⟩ =
      afterOutcomes outcomes (Batch.runEach sink options
        (Batch.ofInputs (pending.map .text ++ inputs)) session) := by
  induction inputs generalizing gathering pending session outcomes with
  | nil =>
    have ends (emptied : Gathering) (nothing : emptied.texts.toList = [])
        (session : Session Outside) (outcomes : Array Outcome) :
        complete sink options [] ⟨session, emptied, outcomes⟩ =
          afterOutcomes outcomes (Batch.runEach sink options [] session) := by
      rw [complete_nothing sink options nothing]
      simp [afterOutcomes, Batch.runEach, Except.map]
    rw [List.append_nil]
    cases pending with
    | nil => exact ends gathering gathered session outcomes
    | cons first others =>
      rw [complete_texts sink options gathered, Batch.ofInputs_texts]
      exact goOn_absorb sink options (ends .empty rfl) session outcomes
  | cons input inputs inductionHypothesis =>
    cases input with
    | text fragment =>
      have appended : (gathering.append fragment).texts.toList =
          (pending ++ [fragment]).map Fragment.text := by
        rw [Gathering.toList_append, gathered, List.map_append]
        rfl
      rw [complete_cons]
      refine (inductionHypothesis _ _ appended session outcomes).trans ?_
      rw [List.map_append, List.append_assoc]
      rfl
    | script script =>
      have goesOn (emptied : Gathering) (nothing : emptied.texts.toList = [])
          (session : Session Outside) (outcomes : Array Outcome) :
          complete sink options (.script script :: inputs) ⟨session, emptied, outcomes⟩ =
            afterOutcomes outcomes
              (Batch.runEach sink options (.ready script :: Batch.ofInputs inputs) session) := by
        rw [complete_cons, process_script sink options nothing]
        exact goOn_absorb sink options (inductionHypothesis emptied [] nothing) session outcomes
      cases pending with
      | nil => exact goesOn gathering gathered session outcomes
      | cons first others =>
        rw [complete_texts_script sink options script inputs gathered,
          Batch.ofInputs_texts_script]
        exact goOn_absorb sink options (goesOn .empty rfl) session outcomes

theorem runAll_eq_complete (inputs : List RunInput) (session : Session Outside) :
    ((runAll sink options inputs session).result, (runAll sink options inputs session).session) =
      complete sink options inputs (start session) := by
  unfold runAll complete
  rcases processAll sink options inputs (start session) with ⟨accepted, reason | _, pipeline⟩
  · rfl
  · simp only
    rcases pipeline.flush sink options with ⟨reason | _, after⟩
    · rfl
    · rfl

/-- What a command on these inputs comes to: its batches, run in order. -/
structure RunsBatches (inputs : List RunInput) (session : Session Outside)
    (report : Report Outside) : Prop where
  /-- The batches hold the inputs, all of them and in order. -/
  all : (Batch.ofInputs inputs).flatMap Batch.inputs = inputs
  /-- No two batches of text follow each other. -/
  apart : (Batch.ofInputs inputs).IsChain Batch.Apart
  runs : (report.result, report.session) =
    Batch.runEach sink options (Batch.ofInputs inputs) session
  /-- A command that comes to its end has an outcome for each batch, and they are numbered one
  after the other. -/
  numbers : ∀ outcomes, report.result = .ok outcomes →
    outcomes.map (·.invocation) =
      List.range' session.engine.next (Batch.ofInputs inputs).length
  /-- A command that fails does so at one of its batches; the session is left as this batch
  leaves it. If the batch was refused, that is as it was before, and no call of the sink was
  made. -/
  fails : ∀ reason, report.result = .error reason →
    ∃ (done : List Batch) (batch : Batch) (later : List Batch) (outcomes : List Outcome)
      (before : Session Outside), Batch.ofInputs inputs = done ++ batch :: later ∧
        Batch.runEach sink options done session = (.ok outcomes, before) ∧
        batch.run sink options before = (.error reason, report.session) ∧
        (reason.isRefusal = true →
          report.session = before ∧ batch.calls sink options before = [])

/-- A command runs the batches of its inputs in order, and the first failure ends it. -/
theorem runAll_runsBatches (inputs : List RunInput) (session : Session Outside) :
    RunsBatches sink options inputs session (runAll sink options inputs session) := by
  have runs : ((runAll sink options inputs session).result,
      (runAll sink options inputs session).session) =
        Batch.runEach sink options (Batch.ofInputs inputs) session := by
    rw [runAll_eq_complete, start, complete_eq_runEach sink options inputs .empty [] rfl,
      List.map_nil, List.nil_append]
    rcases Batch.runEach sink options (Batch.ofInputs inputs) session with
      ⟨reason | outcomes, after⟩
    · rfl
    · rfl
  refine ⟨Batch.flatMap_inputs_ofInputs inputs, Batch.ofInputs_isChain inputs, runs,
    fun outcomes ends => ?_, fun reason fails => ?_⟩
  · rw [ends] at runs
    exact Batch.runEach_numbers runs.symm
  · rw [fails] at runs
    obtain ⟨done, batch, later, outcomes, before, split, ended, failed⟩ :=
      Batch.runEach_failed runs.symm
    refine ⟨done, batch, later, outcomes, before, split, ended, failed, fun refusal => ?_⟩
    have refused := congrArg Prod.fst failed
    constructor
    · have unchanged := Batch.run_refused refusal refused sink before.outside
      exact congrArg Prod.snd (failed.symm.trans unchanged)
    · have uncalled := Batch.run_refused refusal refused sink.recorded (before.outside, [])
      exact congrArg (·.2.outside.2) uncalled

end Pipeline

end SlashScript
