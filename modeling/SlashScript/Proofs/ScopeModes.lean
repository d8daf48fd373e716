/-
This file compares the two places in which an invocation may write its variables. A script cannot
tell whether it has a scope of its own: either way it sees the variables of its caller, and what it
has assigned it sees instead. So it makes the same calls and comes to the same result, and what it
leaves to a caller whose scope it shares is what it would have seen itself at its end.

This holds of scripts that only assign. A global variable is seen through a scope of the script's
own if the script has no variable of that name, and a removal uncovers what lies under a variable,
so there the number of scopes makes a difference.
-/

import SlashScript.Proofs.Boundary
import SlashScript.Proofs.Channel.Matching

namespace SlashScript

/-! ### Workspaces that a script cannot tell apart -/

namespace Workspace

theorem get?_set_of_ne (workspace : Workspace) (name other : String) (value : Value)
    (different : other ≠ name) : (workspace.set name value).get? other = workspace.get? other := by
  unfold set get? scopes
  cases workspace.locals with
  | nil => simp [Scope.get?_set_of_ne, different]
  | cons innermost outer => simp [List.findSome?_cons, Scope.get?_set_of_ne, different]

/-- A script reads the same from both, whatever scopes there are. -/
structure Alike (left right : Workspace) : Prop where
  values : ∀ name, left.get? name = right.get? name
  frames : left.frames = right.frames
  errors : left.errors = right.errors

variable {left right : Workspace}

theorem Alike.set (alike : left.Alike right) (name : String) (value : Value) :
    (left.set name value).Alike (right.set name value) where
  values other := by
    by_cases isName : other = name
    · rw [isName, get?_set_self, get?_set_self]
    · rw [get?_set_of_ne _ _ _ _ isName, get?_set_of_ne _ _ _ _ isName, alike.values]
  frames := by
    have assigns : ∀ workspace : Workspace, (workspace.set name value).frames = workspace.frames :=
      fun workspace => (Writes.assign value (List.mem_singleton_self _)).frames
    rw [assigns, assigns, alike.frames]
  errors := by
    have assigns : ∀ workspace : Workspace, (workspace.set name value).errors = workspace.errors :=
      fun workspace => (Writes.assign value (List.mem_singleton_self _)).errors
    rw [assigns, assigns, alike.errors]

theorem Alike.keep (alike : left.Alike right) (record : ErrorRecord) (keeping : Keeping) :
    (left.keep record keeping).Alike (right.keep record keeping) := by
  cases keeping with
  | dropped => exact alike
  | logged => exact ⟨alike.values, alike.frames, congrArg (· ++ [record]) alike.errors⟩

theorem Alike.symm (alike : left.Alike right) : right.Alike left :=
  ⟨fun name => (alike.values name).symm, alike.frames.symm, alike.errors.symm⟩

/-- At its beginning a script sees the variables of its caller, in a scope of its own or not. -/
theorem alike_enter (workspace : Workspace) (arguments : List Value) (mode mode' : ScopeMode) :
    (workspace.enter mode arguments).Alike (workspace.enter mode' arguments) := by
  have seen : ∀ mode name, (workspace.enter mode arguments).get? name = workspace.get? name := by
    intro mode name
    cases mode with
    | newScope => rfl
    | callerScope => rfl
  exact ⟨fun name => (seen mode name).trans (seen mode' name).symm, rfl, rfl⟩

end Workspace

/-- Workspaces stay alike while a script only assigns. -/
theorem Matching.alike_closed {allowed : List Touch} (noGlobals : ∀ name, .global name ∉ allowed)
    (noRemovals : ∀ name, .removed name ∉ allowed) :
    (Matching.answeredAlike Workspace.Alike).Closed allowed where
  get? name alike := alike.values name
  arguments alike := congrArg (List.headD · []) alike.frames
  set value _ alike := alike.set _ value
  setGlobal _ named _ := absurd named (noGlobals _)
  unset named _ := absurd named (noRemovals _)
  keep record keepings alike := by
    cases keepings
    exact alike.keep record _

/-! ### Invocations in either mode -/

/-- The request with another place to write variables. -/
def Request.inMode (mode : Workspace.ScopeMode) (request : Request) : Request :=
  { request with mode := mode }

/-- Two invocations of a script come to the same, each in its own workspace. -/
structure Upshot.SameEffect {Outside : Type} (upshot upshot' : Upshot Outside) : Prop where
  calls : upshot.calls = upshot'.calls
  result : upshot.result = upshot'.result
  outside : upshot.session.outside = upshot'.session.outside
  errors : upshot.session.workspace.errors = upshot'.session.workspace.errors
  inside : upshot.inside.Alike upshot'.inside

theorem Upshot.SameEffect.symm {Outside : Type} {upshot upshot' : Upshot Outside}
    (same : upshot.SameEffect upshot') : upshot'.SameEffect upshot :=
  ⟨same.calls.symm, same.result.symm, same.outside.symm, same.errors.symm, same.inside.symm⟩

namespace Session

variable {Outside : Type} {request : Request}

/-- In either mode a script of assignments makes the same requests. -/
theorem run_inMode (noGlobals : ∀ name, .global name ∉
      Statement.blockTouches request.script.statements)
    (noRemovals : ∀ name, .removed name ∉ Statement.blockTouches request.script.statements)
    (session : Session Outside) (mode mode' : Workspace.ScopeMode) :
    Run.Matches (.answeredAlike Workspace.Alike) (session.run (request.inMode mode))
      (session.run (request.inMode mode')) :=
  Interpreter.runScript_matches (Matching.alike_closed noGlobals noRemovals) (.inl rfl)
    request.script.statements (List.Subset.refl _)
    (session.workspace.alike_enter request.arguments mode mode')

variable {session : Session Outside} {mode mode' : Workspace.ScopeMode}

/-- A sink that answers at once is given the same in either mode. -/
theorem upshot_inMode (runs : ∀ {Place : Type} (session : Session Place),
      Run.Matches (.answeredAlike Workspace.Alike) (session.run (request.inMode mode))
        (session.run (request.inMode mode'))) (sink : Sink Outside) :
    (session.upshot sink (request.inMode mode)).SameEffect
      (session.upshot sink (request.inMode mode')) := by
  cases live : sink.isCancelled session.outside with
  | true =>
    rw [upshot_of_cancelled live, upshot_of_cancelled live]
    exact ⟨rfl, rfl, rfl, rfl, session.workspace.alike_enter request.arguments mode mode'⟩
  | false =>
    have served : Ended.Matches Workspace.Alike Eq
        (session.recording.served sink.recorded (request.inMode mode))
        (session.recording.served sink.recorded (request.inMode mode')) := by
      rcases (runs session.recording).serve
        (.refl (sink.recorded.host request.action session.engine.next))
        (Eq.refl ⟨(session.outside, []), 0, 0⟩) with ⟨never, _⟩ | same
      · exact never.elim
      · exact same
    obtain ⟨ending, inside, delivery⟩ := served
    rw [upshot_of_live live, upshot_of_live live, ending, delivery]
    exact ⟨rfl, rfl, rfl, inside.errors, inside⟩

/-- What an invocation may come to in one mode, it may come to in the other. -/
theorem Yields.inMode (runs : ∀ {Place : Type} (session : Session Place),
      Run.Matches (.answeredAlike Workspace.Alike) (session.run (request.inMode mode))
        (session.run (request.inMode mode'))) {sink : Sink Outside} {upshot : Upshot Outside}
    (yields : session.Yields sink (request.inMode mode) upshot) :
    ∃ upshot', session.Yields sink (request.inMode mode') upshot' ∧ upshot.SameEffect upshot' := by
  cases yields with
  | atOnce => exact ⟨_, .atOnce, upshot_inMode runs sink⟩
  | exchanged live reached worker joined =>
    obtain ⟨worker', workers, reached'⟩ := Channel.reached_mirrored (runs session.recording) reached
    rw [worker] at workers
    cases workers with
    | ended ending alike =>
      refine ⟨_, .exchanged live reached' rfl (joined_mirrored worker joined _), ?_⟩
      refine ⟨rfl, rfl, rfl, ?_, alike⟩
      rw [joined_after worker joined]
      exact alike.errors

/-- A caller that shares its scope sees what the script saw at its end. -/
theorem Yields.get?_callerScope {sink : Sink Outside} {upshot : Upshot Outside}
    (yields : session.Yields sink (request.inMode .callerScope) upshot) (name : String) :
    upshot.session.workspace.get? name = upshot.inside.get? name := by
  have same : upshot.inside.locals.length = session.workspace.locals.length :=
    yields.bounded.1.length_eq
  rw [yields.session_eq.2]
  show ((upshot.inside.locals.drop _) ++ [upshot.inside.global]).findSome? _ = _
  rw [same, Nat.sub_self, List.drop_zero]
  rfl

end Session

/-- What an invocation came to with a scope of its own is what it came to in the scope of its
caller, and that caller sees the variables that the script saw when it was left. -/
structure Upshot.Shares {Outside : Type} (own shared : Upshot Outside) : Prop where
  calls : own.calls = shared.calls
  result : own.result = shared.result
  outside : own.session.outside = shared.session.outside
  errors : own.session.workspace.errors = shared.session.workspace.errors
  seen : ∀ name, shared.session.workspace.get? name = own.inside.get? name

namespace Session

variable {Outside : Type} {sink : Sink Outside} {request : Request} {session : Session Outside}

theorem Yields.shares {own shared : Upshot Outside} (same : own.SameEffect shared)
    (yields : session.Yields sink (request.inMode .callerScope) shared) : own.Shares shared where
  calls := same.calls
  result := same.result
  outside := same.outside
  errors := same.errors
  seen name := (yields.get?_callerScope name).trans (same.inside.values name).symm

/-- A script that sets no global variable and removes none makes the same calls in either mode,
with the same result and the same errors in the log, and the caller whose scope it shared sees
what the script saw in a scope of its own. This holds if the sink answers at once; and whatever
worker and consumer may come to in one mode, they may come to in the other. -/
theorem yields_in_either_mode (sink : Sink Outside) (request : Request) (session : Session Outside)
    (noGlobals : ∀ name, .global name ∉ Statement.blockTouches request.script.statements)
    (noRemovals : ∀ name, .removed name ∉ Statement.blockTouches request.script.statements) :
    (session.upshot sink (request.inMode .newScope)).Shares
        (session.upshot sink (request.inMode .callerScope)) ∧
      (∀ own, session.Yields sink (request.inMode .newScope) own →
        ∃ shared, session.Yields sink (request.inMode .callerScope) shared ∧ own.Shares shared) ∧
      ∀ shared, session.Yields sink (request.inMode .callerScope) shared →
        ∃ own, session.Yields sink (request.inMode .newScope) own ∧ own.Shares shared := by
  have runs : ∀ (mode mode' : Workspace.ScopeMode) {Place : Type} (session : Session Place),
      Run.Matches (.answeredAlike Workspace.Alike) (session.run (request.inMode mode))
        (session.run (request.inMode mode')) :=
    fun mode mode' _ session => run_inMode noGlobals noRemovals session mode mode'
  refine ⟨?_, fun own yields => ?_, fun shared yields => ?_⟩
  · exact Yields.shares (upshot_inMode (runs _ _) sink) .atOnce
  · obtain ⟨shared, yieldsShared, same⟩ := yields.inMode (runs _ .callerScope)
    exact ⟨shared, yieldsShared, Yields.shares same yieldsShared⟩
  · obtain ⟨own, yieldsOwn, same⟩ := yields.inMode (runs _ .newScope)
    exact ⟨own, yieldsOwn, Yields.shares same.symm yields⟩

/-- A variable that a script changes and one that it hides, seen by a caller that shares its
scope. -/
theorem yields_in_either_mode_counting :
    let session : Session (List SinkCall) :=
      ⟨.ofSettings .standard, Workspace.initial.set "n" (.integer 1), []⟩
    let request : Request := ⟨⟨"/expr n += 1\n/emit n",
      [.evaluate (.assign "n" .add (.literal (.integer 1))), .emit [.named "n"]]⟩,
      [], .newScope, .stop⟩
    let own := session.upshot (.collector false) (request.inMode .newScope)
    let shared := session.upshot (.collector false) (request.inMode .callerScope)
    own.Shares shared ∧ own.session.workspace.get? "n" = some (.integer 1) ∧
      shared.session.workspace.get? "n" = some (.integer 2) := by
  intro session request own shared
  have noGlobals : ∀ name, .global name ∉ Statement.blockTouches request.script.statements := by
    intro name named
    cases named with
    | tail _ named => cases named
  have noRemovals : ∀ name, .removed name ∉ Statement.blockTouches request.script.statements := by
    intro name named
    cases named with
    | tail _ named => cases named
  have shares : own.Shares shared := (yields_in_either_mode _ _ _ noGlobals noRemovals).1
  exact ⟨shares, rfl, (shares.seen "n").trans rfl⟩

end Session

end SlashScript
