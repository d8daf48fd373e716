/-
This file tells where in a script a statement begins. What is around a statement while it runs is a
stack of frames: the rests of the blocks that it stands in, and the further rounds of the loops. A
frame is resumed when what is inside it has ended.

Every statement and every round of a loop begins after the script was told to go on, and wherever it
begins, it begins inside such a stack. This is by induction over the statements: the stack of an
inner statement is that of the statement around it, with one frame more for each block and loop
between the two.
-/

import SlashScript.Proofs.Succession

namespace SlashScript

namespace Run

variable {First Second Result : Type}

theorem bind_done_self (run : Run Workspace Result) : run.bind .done = run := by
  induction run with
  | done result now => rfl
  | exhausted now => rfl
  | poll now next inductionHypothesis => simp only [bind, inductionHypothesis]
  | emit value now next inductionHypothesis => simp only [bind, inductionHypothesis]
  | raise record now next inductionHypothesis => simp only [bind, inductionHypothesis]

/-! ### Beginnings -/

/-- At some place the run is told to go on, and this is what it does from there. -/
inductive Starts : Run Workspace Result → Run Workspace Result → Prop where
  | here (now : Workspace) (next : Unit → Run Workspace Result) : Starts (.poll now next) (next ())
  | poll {now : Workspace} {next : Unit → Run Workspace Result} {rest : Run Workspace Result}
    (later : Starts (next ()) rest) : Starts (.poll now next) rest
  | emit {value : Value} {now : Workspace} {next : Unit → Run Workspace Result}
    {rest : Run Workspace Result} (later : Starts (next ()) rest) :
    Starts (.emit value now next) rest
  | raise {record : ErrorRecord} {now : Workspace} {next : Keeping → Run Workspace Result}
    (keeping : Keeping) {rest : Run Workspace Result} (later : Starts (next keeping) rest) :
    Starts (.raise record now next) rest

theorem LeadsTo.eq_self {run rest : Run Workspace Result} (leads : run.LeadsTo [] rest) :
    rest = run := by
  cases leads
  rfl

theorem LeadsTo.starts {run rest : Run Workspace Result} {answers : List Answer}
    (leads : run.LeadsTo (answers ++ [.goOn]) rest) : run.Starts rest := by
  induction answers generalizing run with
  | nil =>
    cases leads with
    | goOn later => exact later.eq_self ▸ .here _ _
  | cons answer answers inductionHypothesis =>
    cases leads with
    | goOn later => exact .poll (inductionHypothesis later)
    | taken later => exact .emit (inductionHypothesis later)
    | kept keeping later => exact .raise keeping (inductionHypothesis later)

/-- A place in a run and what follows it is in the run, or in what follows. -/
theorem Starts.of_bind {run : Run Workspace First} {rest : Run Workspace Second}
    {continuation : First → Workspace → Run Workspace Second}
    (starts : (run.bind continuation).Starts rest) :
    (∃ inner, run.Starts inner ∧ rest = inner.bind continuation) ∨
      ∃ result now, (continuation result now).Starts rest := by
  induction run with
  | done result now => exact .inr ⟨result, now, starts⟩
  | exhausted now => cases starts
  | poll now next inductionHypothesis =>
    cases starts with
    | here => exact .inl ⟨_, .here now next, rfl⟩
    | poll later =>
      exact (inductionHypothesis () later).imp (fun ⟨inner, starts, same⟩ =>
        ⟨inner, .poll starts, same⟩) id
  | emit value now next inductionHypothesis =>
    cases starts with
    | emit later =>
      exact (inductionHypothesis () later).imp (fun ⟨inner, starts, same⟩ =>
        ⟨inner, .emit starts, same⟩) id
  | raise record now next inductionHypothesis =>
    cases starts with
    | raise keeping later =>
      exact (inductionHypothesis keeping later).imp (fun ⟨inner, starts, same⟩ =>
        ⟨inner, .raise keeping starts, same⟩) id

end Run

/-! ### Frames -/

/-- What is around a statement while it runs. -/
inductive Frame where
  /-- The statements behind it in its block. -/
  | rest (statements : List Statement)
  /-- The further rounds of a loop. -/
  | whileLoop (condition : Expression) (body : List Statement) (rounds : Nat)
  /-- The further rounds of a loop over a range, with the integer of the next one. -/
  | forLoop (name : String) (body : List Statement) (rounds : Nat) (next : Int)

namespace Frame

def isLoop : Frame → Bool
  | rest _ => false
  | whileLoop .. => true
  | forLoop .. => true

open Interpreter in
/-- What a frame does when what is inside it has ended. -/
def resume (limit : Nat) : Frame → Flow → Workspace → Running
  | rest statements => afterStatement (runBlock limit statements)
  | whileLoop condition body rounds => fun flow now =>
    afterRound flow now (whileRounds condition.evaluate (runBlock limit body) rounds)
  | forLoop name body rounds next => fun flow now =>
    afterRound flow now (forRounds name (runBlock limit body) rounds next)

end Frame

namespace Interpreter

variable {limit : Nat}

/-- What a stack of frames does, the innermost first. -/
def resumeAll (limit : Nat) : List Frame → Flow → Workspace → Running
  | [], flow, now => .done flow now
  | frame :: outer, flow, now => (frame.resume limit flow now).bind (resumeAll limit outer)

theorem resumeAll_append (limit : Nat) (inner outer : List Frame) (flow : Flow) (now : Workspace) :
    resumeAll limit (inner ++ outer) flow now =
      (resumeAll limit inner flow now).bind (resumeAll limit outer) := by
  induction inner generalizing flow now with
  | nil => rfl
  | cons frame inner inductionHypothesis =>
    rw [List.cons_append, resumeAll, resumeAll, Run.bind_assoc]
    exact congrArg _ (funext₂ inductionHypothesis)

theorem resumeAll_singleton (limit : Nat) (frame : Frame) :
    resumeAll limit [frame] = frame.resume limit :=
  funext₂ fun flow now => Run.bind_done_self (frame.resume limit flow now)

/-! ### Places in a block -/

/-- The statement stands in the block or in a block inside it, with these frames around it. How many
rounds of a loop are still to come is left open. -/
inductive Encloses : List Statement → List Frame → Statement → Prop where
  | here (before : List Statement) (statement : Statement) (rest : List Statement) :
    Encloses (before ++ statement :: rest) [.rest rest] statement
  | branch {block : List Statement} {around : List Frame}
    {branches : List (Expression × List Statement)} {otherwise : List Statement}
    (outer : Encloses block around (.choose branches otherwise)) {condition : Expression}
    {chosen : List Statement} (member : (condition, chosen) ∈ branches) {stack : List Frame}
    {statement : Statement} (inner : Encloses chosen stack statement) :
    Encloses block (stack ++ around) statement
  | otherwise {block : List Statement} {around : List Frame}
    {branches : List (Expression × List Statement)} {otherwise : List Statement}
    (outer : Encloses block around (.choose branches otherwise)) {stack : List Frame}
    {statement : Statement} (inner : Encloses otherwise stack statement) :
    Encloses block (stack ++ around) statement
  | whileLoop {block : List Statement} {around : List Frame} {condition : Expression}
    {body : List Statement} (outer : Encloses block around (.whileLoop condition body))
    (rounds : Nat) {stack : List Frame} {statement : Statement}
    (inner : Encloses body stack statement) :
    Encloses block (stack ++ .whileLoop condition body rounds :: around) statement
  | forLoop {block : List Statement} {around : List Frame} {name : String}
    {first last : Template} {body : List Statement}
    (outer : Encloses block around (.forLoop name first last body)) (rounds : Nat) (next : Int)
    {stack : List Frame} {statement : Statement} (inner : Encloses body stack statement) :
    Encloses block (stack ++ .forLoop name body rounds next :: around) statement

theorem Encloses.cons (first : Statement) {block : List Statement} {stack : List Frame}
    {statement : Statement} (encloses : Encloses block stack statement) :
    Encloses (first :: block) stack statement := by
  induction encloses with
  | here before statement rest => exact .here (first :: before) statement rest
  | branch _ member inner inductionHypothesis => exact .branch inductionHypothesis member inner
  | otherwise _ inner inductionHypothesis => exact .otherwise inductionHypothesis inner
  | whileLoop _ rounds inner inductionHypothesis => exact .whileLoop inductionHypothesis rounds inner
  | forLoop _ rounds next inner inductionHypothesis =>
    exact .forLoop inductionHypothesis rounds next inner

/-- A round of a loop and those after it, once the loop was told to go on. -/
def whileRound (limit : Nat) (condition : Expression) (body : List Statement) (rounds : Nat)
    (now : Workspace) : Running :=
  evaluating condition.evaluate now fun value now =>
    if value.isTrue then
      (runBlock limit body now).bind ((Frame.whileLoop condition body rounds).resume limit)
    else .done .normal now

/-- A round of a loop over a range and those after it, once the loop was told to go on. -/
def forRound (limit : Nat) (name : String) (body : List Statement) (rounds : Nat) (current : Int)
    (now : Workspace) : Running :=
  (runBlock limit body (now.set name (.integer (Int64.ofInt current)))).bind
    ((Frame.forLoop name body rounds (current + 1)).resume limit)

/-- A statement of the block or a round of one of its loops begins, with these frames around it. -/
inductive Begins (limit : Nat) (block : List Statement) : List Frame → Running → Prop where
  | statement {stack : List Frame} {statement : Statement}
    (inside : Encloses block stack statement) (now : Workspace) :
    Begins limit block stack (runStatement limit statement now)
  | whileRound {stack : List Frame} {condition : Expression} {body : List Statement}
    (inside : Encloses block stack (.whileLoop condition body)) (rounds : Nat) (now : Workspace) :
    Begins limit block stack (whileRound limit condition body rounds now)
  | forRound {stack : List Frame} {name : String} {first last : Template} {body : List Statement}
    (inside : Encloses block stack (.forLoop name first last body)) (rounds : Nat) (current : Int)
    (now : Workspace) : Begins limit block stack (forRound limit name body rounds current now)

/-- What begins in an inner block begins in the block around it. -/
theorem Begins.outward {inner block : List Statement} {around : List Frame}
    (encloses : ∀ {stack : List Frame} {statement : Statement}, Encloses inner stack statement →
      Encloses block (stack ++ around) statement) {stack : List Frame} {begun : Running}
    (begins : Begins limit inner stack begun) : Begins limit block (stack ++ around) begun := by
  cases begins with
  | statement inside now => exact .statement (encloses inside) now
  | whileRound inside rounds now => exact .whileRound (encloses inside) rounds now
  | forRound inside rounds current now => exact .forRound (encloses inside) rounds current now

/-- The run is one that began in the block, with the frames between it and these still to come. -/
def Placed (limit : Nat) (block : List Statement) (around : List Frame) (rest : Running) : Prop :=
  ∃ stack begun, Begins limit block (stack ++ around) begun ∧
    rest = begun.bind (resumeAll limit stack)

theorem Placed.of_begins {block : List Statement} {around : List Frame} {begun : Running}
    (begins : Begins limit block around begun) : Placed limit block around begun :=
  ⟨[], begun, begins, (Run.bind_done_self begun).symm⟩

theorem Placed.outward {inner block : List Statement} {around : List Frame}
    (encloses : ∀ {stack : List Frame} {statement : Statement}, Encloses inner stack statement →
      Encloses block (stack ++ around) statement) {rest : Running}
    (placed : Placed limit inner [] rest) : Placed limit block around rest := by
  obtain ⟨stack, begun, begins, rfl⟩ := placed
  rw [List.append_nil] at begins
  exact ⟨stack, begun, begins.outward encloses, rfl⟩

/-- A frame that resumes is one of those to come. -/
theorem Placed.resume {block : List Statement} {frame : Frame} {around : List Frame}
    {rest : Running} (placed : Placed limit block (frame :: around) rest) :
    Placed limit block around (rest.bind (frame.resume limit)) := by
  obtain ⟨stack, begun, begins, rfl⟩ := placed
  refine ⟨stack ++ [frame], begun, by rwa [List.append_assoc], ?_⟩
  rw [Run.bind_assoc, ← resumeAll_singleton]
  exact congrArg _ (funext₂ fun flow now => (resumeAll_append limit stack [frame] flow now).symm)

/-! ### What begins in a block -/

theorem evaluating_starts {Result : Type} {evaluation : Evaluation Result}
    {next : Result → Workspace → Running} {now : Workspace} {rest : Running}
    (starts : (evaluating evaluation now next).Starts rest) :
    ∃ result now, (next result now).Starts rest := by
  unfold evaluating at starts
  rcases evaluated : evaluation now with ⟨reason | result, after⟩
  · rw [evaluated] at starts
    cases starts
  · rw [evaluated] at starts
    exact ⟨result, after, starts⟩

theorem emitAll_not_starts {items : List Expression} {now : Workspace} {rest : Running} :
    ¬ (emitAll items now).Starts rest := by
  intro starts
  induction items generalizing now with
  | nil => cases starts
  | cons item items inductionHypothesis =>
    obtain ⟨value, after, starts⟩ := evaluating_starts starts
    cases starts with
    | emit later => exact inductionHypothesis later

theorem raising_starts {record : ErrorRecord} {now : Workspace} {next : Workspace → Running}
    {rest : Running} (starts : (raising record now next).Starts rest) :
    ∃ now, (next now).Starts rest := by
  rw [raising_eq] at starts
  cases starts with
  | raise keeping later =>
    unfold resuming at later
    split at later
    · exact ⟨_, later⟩
    · cases later

theorem afterRound_starts {flow : Flow} {now : Workspace} {next : Workspace → Running}
    {rest : Running} (starts : (afterRound flow now next).Starts rest) :
    ∃ now, (next now).Starts rest := by
  cases flow with
  | normal => exact ⟨now, starts⟩
  | leaveLoop | giveBack | halt | fault => cases starts

/-- What begins in the rounds of a loop is a round, or it begins in the body. -/
theorem whileRounds_starts {condition : Expression} {body : List Statement} {rounds : Nat}
    {now : Workspace} {rest : Running}
    (starts : (whileRounds condition.evaluate (runBlock limit body) rounds now).Starts rest) :
    (∃ rounds now, rest = whileRound limit condition body rounds now) ∨
      ∃ rounds now inner, (runBlock limit body now).Starts inner ∧
        rest = inner.bind ((Frame.whileLoop condition body rounds).resume limit) := by
  induction rounds generalizing now with
  | zero => cases starts
  | succ rounds inductionHypothesis =>
    cases starts with
    | here => exact .inl ⟨rounds, now, rfl⟩
    | poll later =>
      obtain ⟨value, after, later⟩ := evaluating_starts later
      split at later
      · rcases later.of_bind with ⟨inner, inBody, same⟩ | ⟨flow, ended, further⟩
        · exact .inr ⟨rounds, after, inner, inBody, same⟩
        · obtain ⟨now, further⟩ := afterRound_starts further
          exact inductionHypothesis further
      · cases later

theorem forRounds_starts {name : String} {body : List Statement} {rounds : Nat} {current : Int}
    {now : Workspace} {rest : Running}
    (starts : (forRounds name (runBlock limit body) rounds current now).Starts rest) :
    (∃ rounds current now, rest = forRound limit name body rounds current now) ∨
      ∃ rounds next now inner, (runBlock limit body now).Starts inner ∧
        rest = inner.bind ((Frame.forLoop name body rounds next).resume limit) := by
  induction rounds generalizing current now with
  | zero => cases starts
  | succ rounds inductionHypothesis =>
    cases starts with
    | here => exact .inl ⟨rounds, current, now, rfl⟩
    | poll later =>
      rcases later.of_bind with ⟨inner, inBody, same⟩ | ⟨flow, ended, further⟩
      · exact .inr ⟨rounds, current + 1, _, inner, inBody, same⟩
      · obtain ⟨now, further⟩ := afterRound_starts further
        exact inductionHypothesis further

mutual

/-- What begins in a statement of a block begins in the block. -/
theorem runStatement_placed (limit : Nat) : ∀ (statement : Statement) {block : List Statement}
    {around : List Frame}, Encloses block around statement → ∀ {now : Workspace} {rest : Running},
      (runStatement limit statement now).Starts rest → Placed limit block around rest
  | .echo text, _, _, _, _, _, starts => by
    obtain ⟨_, _, starts⟩ := evaluating_starts starts
    cases starts with
    | emit later => cases later
  | .emit items, _, _, _, _, _, starts => absurd starts emitAll_not_starts
  | .set name value isGlobal, _, _, _, _, _, starts => by
    obtain ⟨_, _, starts⟩ := evaluating_starts starts
    cases starts
  | .unset name, _, _, _, _, _, starts => nomatch starts
  | .param names, _, _, _, _, _, starts => nomatch starts
  | .evaluate expression, _, _, _, _, _, starts => by
    obtain ⟨_, _, starts⟩ := evaluating_starts starts
    cases starts
  | .choose branches otherwise, _, _, inside, _, _, starts =>
    runBranches_placed limit branches inside (List.Subset.refl _) starts
      fun starts => (runBlock_placed limit otherwise starts).outward (.otherwise inside)
  | .whileLoop condition body, _, _, inside, _, _, starts => by
    rcases whileRounds_starts starts with ⟨rounds, now, rfl⟩ | ⟨rounds, now, inner, inBody, rfl⟩
    · exact .of_begins (.whileRound inside rounds now)
    · exact ((runBlock_placed limit body inBody).outward (.whileLoop inside rounds)).resume
  | .forLoop name first last body, _, _, inside, _, _, starts => by
    obtain ⟨lower, _, starts⟩ := evaluating_starts starts
    obtain ⟨upper, _, starts⟩ := evaluating_starts starts
    rcases forRounds_starts starts with
      ⟨rounds, current, now, rfl⟩ | ⟨rounds, next, now, inner, inBody, rfl⟩
    · exact .of_begins (.forRound inside rounds current now)
    · exact ((runBlock_placed limit body inBody).outward (.forLoop inside rounds next)).resume
  | .leaveLoop, _, _, _, _, _, starts => nomatch starts
  | .giveBack none, _, _, _, _, _, starts => nomatch starts
  | .giveBack (some result), _, _, _, _, _, starts => by
    obtain ⟨_, _, starts⟩ := evaluating_starts starts
    cases starts
  | .error text, _, _, _, _, _, starts => by
    obtain ⟨_, _, starts⟩ := evaluating_starts starts
    obtain ⟨_, starts⟩ := raising_starts starts
    cases starts
  | .throw text, _, _, _, _, _, starts => by
    obtain ⟨_, _, starts⟩ := evaluating_starts starts
    obtain ⟨_, starts⟩ := raising_starts starts
    cases starts

/-- Whatever begins in a block begins in one of its places. -/
theorem runBlock_placed (limit : Nat) : ∀ (block : List Statement) {now : Workspace}
    {rest : Running}, (runBlock limit block now).Starts rest → Placed limit block [] rest
  | [], _, _, starts => nomatch starts
  | statement :: others, now, rest, starts => by
    have inside : Encloses (statement :: others) [.rest others] statement :=
      .here [] statement others
    have later {now : Workspace} (starts : (runBlock limit others now).Starts rest) :
        Placed limit (statement :: others) [] rest := by
      refine (runBlock_placed limit others starts).outward fun encloses => ?_
      rw [List.append_nil]
      exact encloses.cons statement
    rw [runBlock_cons] at starts
    cases starts with
    | here => exact (Placed.of_begins (.statement inside now)).resume
    | poll starts =>
      rcases starts.of_bind with ⟨inner, inStatement, rfl⟩ | ⟨flow, ended, further⟩
      · exact (runStatement_placed limit statement inside inStatement).resume
      · cases flow with
        | normal => exact later further
        | fault reason =>
          obtain ⟨_, further⟩ := raising_starts further
          exact later further
        | leaveLoop | giveBack | halt => cases further

theorem runBranches_placed (limit : Nat) : ∀ (branches : List (Expression × List Statement))
    {all : List (Expression × List Statement)} {otherwise block : List Statement}
    {around : List Frame}, Encloses block around (.choose all otherwise) → branches ⊆ all →
      ∀ {last : Workspace → Running} {now : Workspace} {rest : Running},
        (runBranches limit branches last now).Starts rest →
          (∀ {now : Workspace}, (last now).Starts rest → Placed limit block around rest) →
            Placed limit block around rest
  | [], _, _, _, _, _, _, _, _, _, starts, ofLast => ofLast starts
  | (condition, chosen) :: branches, _, _, _, _, inside, among, _, _, _, starts, ofLast => by
    obtain ⟨member, among⟩ := List.cons_subset.mp among
    obtain ⟨value, _, starts⟩ := evaluating_starts starts
    split at starts
    · exact (runBlock_placed limit chosen starts).outward (.branch inside member)
    · exact runBranches_placed limit branches inside among starts ofLast

end

end Interpreter

end SlashScript
