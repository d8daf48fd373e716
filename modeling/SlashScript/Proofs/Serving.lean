/-
This file carries what is known of runs over to their ends, once a host has answered all their
requests. Two runs that match come to the same end when their hosts give matching answers, so the
limit on rounds makes no difference to a script that does not reach it. What every write of a script
and every kept error preserves is preserved to the end of the run.
-/

import SlashScript.Proofs.Simulation

namespace SlashScript

/-! ### Hosts that give matching answers -/

/-- The verdict of a host after which an error is kept so. -/
def Keeping.verdict : Keeping → Verdict
  | logged => .log
  | dropped => .drop

theorem Keeping.verdict_ne_cancel (keeping : Keeping) : keeping.verdict ≠ .cancel := by
  cases keeping <;> nofun

/-- Two verdicts let the runs go on with matching keepings, or end both in the same way. -/
inductive Verdict.Matches (keepings : Keeping → Keeping → Prop) : Verdict → Verdict → Prop where
  | keep {keeping keeping' : Keeping} (keeps : keepings keeping keeping') :
    Matches keepings keeping.verdict keeping'.verdict
  | stop : Matches keepings .stop .stop
  | cancel : Matches keepings .cancel .cancel

theorem Verdict.Matches.refl {keepings : Keeping → Keeping → Prop}
    (reflexive : ∀ keeping, keepings keeping keeping) (verdict : Verdict) :
    Verdict.Matches keepings verdict verdict := by
  cases verdict with
  | log => exact .keep (reflexive .logged)
  | drop => exact .keep (reflexive .dropped)
  | stop => exact .stop
  | cancel => exact .cancel

variable {Outside Outside' : Type}

/-- From states that agree, two hosts give matching answers and come to states that agree. -/
structure Host.Mirrors (keepings : Keeping → Keeping → Prop) (agree : Outside → Outside' → Prop)
    (host : Host Outside) (host' : Host Outside') : Prop where
  isCancelled : ∀ {outside : Outside} {outside' : Outside'}, agree outside outside' →
    host.isCancelled outside = host'.isCancelled outside'
  take : ∀ {outside : Outside} {outside' : Outside'} (value : Value), agree outside outside' →
    Option.Rel agree (host.take value outside) (host'.take value outside')
  judge : ∀ {outside : Outside} {outside' : Outside'} (record : ErrorRecord),
    agree outside outside' →
      Verdict.Matches keepings (host.judge record outside).1 (host'.judge record outside').1 ∧
        agree (host.judge record outside).2 (host'.judge record outside').2

theorem Host.Mirrors.refl (host : Host Outside) : host.Mirrors Eq Eq host where
  isCancelled := by
    rintro outside _ rfl
    rfl
  take := by
    rintro outside _ value rfl
    cases host.take value outside with
    | none => exact .none
    | some after => exact .some rfl
  judge := by
    rintro outside _ record rfl
    exact ⟨.refl (fun _ => rfl) _, rfl⟩

/-- Two runs ended in the same way, in states that agree. -/
structure Ended.Matches {Result : Type} (states : Workspace → Workspace → Prop)
    (agree : Outside → Outside' → Prop) (ended : Ended Workspace Result Outside)
    (ended' : Ended Workspace Result Outside') : Prop where
  ending : ended.ending = ended'.ending
  state : states ended.state ended'.state
  outside : agree ended.outside ended'.outside

theorem Ended.Matches.eq {Result : Type} {ended ended' : Ended Workspace Result Outside}
    (same : Ended.Matches Eq Eq ended ended') : ended = ended' := by
  obtain ⟨ending, state, outside⟩ := ended
  obtain ⟨rfl, rfl, rfl⟩ := same
  rfl

namespace Run

variable {Result : Type} {matching : Matching}

/-- A run goes on after an error as the verdict says. -/
theorem serve_raise_of_keep {host : Host Outside} {record : ErrorRecord} {now : Workspace}
    {next : Keeping → Run Workspace Result} {outside after : Outside} {keeping : Keeping}
    (judged : host.judge record outside = (keeping.verdict, after)) :
    (raise record now next).serve host outside = (next keeping).serve host after := by
  rw [serve, judged]
  cases keeping <;> rfl

theorem serve_raise_of_stop {host : Host Outside} {record : ErrorRecord} {now : Workspace}
    {next : Keeping → Run Workspace Result} {outside after : Outside}
    (judged : host.judge record outside = (.stop, after)) :
    (raise record now next).serve host outside = ⟨.stopped record, now, after⟩ := by
  rw [serve, judged]

theorem serve_emit_of_take {host : Host Outside} {value : Value} {now : Workspace}
    {next : Unit → Run Workspace Result} {outside after : Outside}
    (taken : host.take value outside = some after) :
    (emit value now next).serve host outside = (next ()).serve host after := by
  rw [serve, taken]

/-- Runs that match come to matching ends under hosts that give matching answers, unless the
first runs out of rounds. -/
theorem Matches.serve {agree : Outside → Outside' → Prop} {host : Host Outside}
    {host' : Host Outside'} (mirrors : host.Mirrors matching.keepings agree host')
    {run run' : Run Workspace Result} (runs : Matches matching run run')
    {outside : Outside} {outside' : Outside'} (agrees : agree outside outside') :
    matching.short ∧ (run.serve host outside).ending = .exhausted ∨
      Ended.Matches matching.states agree (run.serve host outside) (run'.serve host' outside') := by
  induction runs generalizing outside outside' with
  | done result states => exact .inr ⟨rfl, states, agrees⟩
  | exhausted states => exact .inr ⟨rfl, states, agrees⟩
  | short now run short => exact .inl ⟨short, rfl⟩
  | poll states _ inductionHypothesis =>
    rw [Run.serve, Run.serve, mirrors.isCancelled agrees]
    split
    · exact .inr ⟨rfl, states, agrees⟩
    · exact inductionHypothesis agrees
  | emit value states _ inductionHypothesis =>
    have taken := mirrors.take value agrees
    rw [Run.serve, Run.serve]
    cases outcome : host.take value outside <;> cases outcome' : host'.take value outside' <;>
      rw [outcome, outcome'] at taken <;> cases taken
    · exact .inr ⟨rfl, states, agrees⟩
    · rename_i agreesAfter
      exact inductionHypothesis agreesAfter
  | raise record states _ inductionHypothesis =>
    obtain ⟨verdicts, agreesAfter⟩ := mirrors.judge record agrees
    rcases outcome : host.judge record outside with ⟨verdict, after⟩
    rcases outcome' : host'.judge record outside' with ⟨verdict', after'⟩
    rw [outcome, outcome'] at verdicts agreesAfter
    cases verdicts with
    | keep keeps =>
      rw [serve_raise_of_keep outcome, serve_raise_of_keep outcome']
      exact inductionHypothesis _ _ keeps agreesAfter
    | stop =>
      rw [Run.serve, Run.serve, outcome, outcome']
      exact .inr ⟨rfl, states, agreesAfter⟩
    | cancel =>
      rw [Run.serve, Run.serve, outcome, outcome']
      exact .inr ⟨rfl, states, agreesAfter⟩

end Run

/-! ### One run under two hosts -/

/-- No difference at all. -/
def Matching.same : Matching := ⟨Eq, Eq, False⟩

theorem Run.Matches.refl {Result : Type} (run : Run Workspace Result) :
    Run.Matches .same run run := by
  induction run with
  | done result now => exact .done result rfl
  | exhausted now => exact .exhausted rfl
  | poll now next inductionHypothesis => exact .poll rfl (inductionHypothesis ())
  | emit value now next inductionHypothesis => exact .emit value rfl (inductionHypothesis ())
  | raise record now next inductionHypothesis =>
    refine .raise record rfl fun keeping keeping' same => ?_
    cases same
    exact inductionHypothesis keeping

/-- A run comes to matching ends under two hosts that give the same answers. -/
theorem Run.serve_mirrored {Result : Type} (run : Run Workspace Result)
    {agree : Outside → Outside' → Prop} {host : Host Outside} {host' : Host Outside'}
    (mirrors : host.Mirrors Eq agree host') {outside : Outside} {outside' : Outside'}
    (agrees : agree outside outside') :
    Ended.Matches Eq agree (run.serve host outside) (run.serve host' outside') := by
  have matched : Run.Matches .same run run := .refl run
  rcases matched.serve mirrors agrees with ⟨never, _⟩ | ended
  · exact never.elim
  · exact ended

/-! ### One script under two limits -/

/-- A script that does not run out of rounds ends in the same way under every larger limit. -/
theorem Interpreter.runScript_settled {host : Host Outside} {limit : Nat} {block : Block}
    {workspace : Workspace} {outside : Outside}
    (ends : ((runScript limit block workspace).serve host outside).ending ≠ .exhausted)
    {limit' : Nat} (larger : limit ≤ limit') :
    (runScript limit' block workspace).serve host outside =
      (runScript limit block workspace).serve host outside := by
  -- The only difference that a limit makes is where a run stops short.
  have runs : Run.Matches ⟨Eq, Eq, True⟩ (runScript limit block workspace)
      (runScript limit' block workspace) :=
    runScript_matches (.eq _ True) (.inr ⟨trivial, larger⟩) block (List.Subset.refl _) rfl
  rcases runs.serve (.refl host) (Eq.refl outside) with ⟨_, exhausted⟩ | same
  · exact absurd exhausted ends
  · exact same.eq.symm

/-! ### What lasts to the end of a run -/

/-- What every allowed write preserves, any number of them preserve. -/
theorem Workspace.Reaches.preserve {allowed : List Touch} {invariant : Workspace → Prop}
    (writes : ∀ {before after}, Writes allowed before after → invariant before → invariant after)
    {start now : Workspace} (reached : Reaches allowed start now) (initially : invariant start) :
    invariant now := by
  induction reached with
  | refl => exact initially
  | tail _ write inductionHypothesis => exact writes write inductionHypothesis

/-- What the writes of a run and the keeping of errors preserve holds at its end. -/
theorem Run.WritesOnly.serve_state {Result : Type} {allowed : List Touch}
    {invariant : Workspace → Prop}
    (writes : ∀ {before after}, Workspace.Writes allowed before after → invariant before →
      invariant after)
    (keeps : ∀ {before} record keeping, invariant before →
      invariant (before.keep record keeping))
    {host : Host Outside} {run : Run Workspace Result} {start : Workspace}
    (only : run.WritesOnly allowed start) (initially : invariant start) (outside : Outside) :
    invariant (run.serve host outside).state := by
  induction run generalizing start outside with
  | done result now => exact Workspace.Reaches.preserve writes only initially
  | exhausted now => exact Workspace.Reaches.preserve writes only initially
  | poll now next inductionHypothesis =>
    have here : invariant now := Workspace.Reaches.preserve writes only.1 initially
    rw [Run.serve]
    split
    · exact here
    · exact inductionHypothesis () only.2 here outside
  | emit value now next inductionHypothesis =>
    have here : invariant now := Workspace.Reaches.preserve writes only.1 initially
    rw [Run.serve]
    split
    · exact inductionHypothesis () only.2 here _
    · exact here
  | raise record now next inductionHypothesis =>
    have here : invariant now := Workspace.Reaches.preserve writes only.1 initially
    have continued : ∀ keeping after, invariant ((next keeping).serve host after).state :=
      fun keeping => inductionHypothesis keeping (only.2 keeping) (keeps record keeping here)
    rw [Run.serve]
    split
    · exact continued .logged _
    · exact continued .dropped _
    · exact here
    · exact here

/-- What every answer of the host preserves holds at the end of a run. -/
theorem Run.serve_outside {State Result : Type} {host : Host Outside} (invariant : Outside → Prop)
    (takes : ∀ value before after, host.take value before = some after → invariant before →
      invariant after)
    (judges : ∀ record before, invariant before → invariant (host.judge record before).2)
    (run : Run State Result) {outside : Outside} (initially : invariant outside) :
    invariant (run.serve host outside).outside := by
  induction run generalizing outside with
  | done result now => exact initially
  | exhausted now => exact initially
  | poll now next inductionHypothesis =>
    rw [Run.serve]
    split
    · exact initially
    · exact inductionHypothesis () initially
  | emit value now next inductionHypothesis =>
    rw [Run.serve]
    split
    · rename_i after taken
      exact inductionHypothesis () (takes value outside after taken initially)
    · exact initially
  | raise record now next inductionHypothesis =>
    have judged := judges record outside initially
    rw [Run.serve]
    rcases outcome : host.judge record outside with ⟨verdict, after⟩
    rw [outcome] at judged
    cases verdict with
    | log => exact inductionHypothesis .logged judged
    | drop => exact inductionHypothesis .dropped judged
    | stop => exact judged
    | cancel => exact judged

end SlashScript
