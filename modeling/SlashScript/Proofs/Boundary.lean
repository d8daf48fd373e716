/-
This file draws the line around what an invocation changes of the variables of its caller. However
it ends, in the middle of a statement or at the end of the script, the caller's scopes and
arguments are there as before, and a binding that differs is one that the text of the script names:
it was assigned in the caller's own scope, or in the global one, or it was removed.

The scopes are compared one by one. The assignments of a script go to the innermost scope, so with
a scope of its own the caller's scopes see none of them: it keeps its writes to itself, its removals
apart.
-/

import SlashScript.Proofs.Channel.Outcomes
import SlashScript.Proofs.Isolation

namespace SlashScript

/-! ### Scopes one by one -/

namespace Alters

variable {allowed : List Touch} {given given' : String → Prop} {global global' : Scope}
  {locals locals' : List Scope}

theorem mono (alters : Alters allowed global global' given locals locals')
    (weaker : ∀ name, given name → given' name) :
    Alters allowed global global' given' locals locals' := by
  cases alters with
  | outermost alters =>
    refine .outermost fun name => ?_
    rcases alters name with same | (named | isGlobal) | removed
    · exact .inl same
    · exact .inr (.inl (.inl (weaker name named)))
    · exact .inr (.inl (.inr isGlobal))
    · exact .inr (.inr removed)
  | above alters rest =>
    refine .above (fun name => ?_) rest
    rcases alters name with same | named | removed
    · exact .inl same
    · exact .inr (.inl (weaker name named))
    · exact .inr (.inr removed)

/-- A binding that differs was given in the innermost scope, or is a global one that is named so,
or was removed. -/
theorem differs (alters : Alters allowed global global' given locals locals') {place : Nat}
    {before now : Scope} (isBefore : (locals ++ [global])[place]? = some before)
    (isNow : (locals' ++ [global'])[place]? = some now) {name : String}
    (different : now.get? name ≠ before.get? name) :
    (place = 0 ∧ given name) ∨ (place = locals.length ∧ .global name ∈ allowed) ∨
      (now.get? name = none ∧ .removed name ∈ allowed) := by
  induction alters generalizing place with
  | outermost alters =>
    cases place with
    | succ place => cases isBefore
    | zero =>
      cases isBefore
      cases isNow
      rcases alters name with same | (named | isGlobal) | ⟨removed, absent⟩
      · exact absurd same different
      · exact .inl ⟨rfl, named⟩
      · exact .inr (.inl ⟨rfl, isGlobal⟩)
      · exact .inr (.inr ⟨absent, removed⟩)
  | above alters rest inductionHypothesis =>
    cases place with
    | zero =>
      cases isBefore
      cases isNow
      rcases alters name with same | named | ⟨removed, absent⟩
      · exact absurd same different
      · exact .inl ⟨rfl, named⟩
      · exact .inr (.inr ⟨absent, removed⟩)
    | succ place =>
      rcases inductionHypothesis isBefore isNow with ⟨_, never⟩ | ⟨outermost, isGlobal⟩ | removed
      · exact never.elim
      · exact .inr (.inl ⟨congrArg (· + 1) outermost, isGlobal⟩)
      · exact .inr (.inr removed)

end Alters

/-! ### Arguments -/

namespace Workspace

variable {allowed : List Touch} {start before after : Workspace}

theorem Writes.frames (write : Writes allowed before after) : after.frames = before.frames := by
  cases write with
  | assign value named =>
    unfold set
    split <;> rfl
  | assignGlobal value named => rfl
  | remove named => rfl

/-- The scopes have changed as the writes of a script let them change, the arguments have not. -/
def Bounded (allowed : List Touch) (start now : Workspace) : Prop :=
  start.AltersScopes allowed now ∧ now.frames = start.frames

theorem Bounded.write (write : Writes allowed before after)
    (bounded : start.Bounded allowed before) : start.Bounded allowed after :=
  ⟨bounded.1.write write, write.frames.trans bounded.2⟩

theorem Bounded.keep (bounded : start.Bounded allowed before) (record : ErrorRecord)
    (keeping : Keeping) : start.Bounded allowed (before.keep record keeping) := by
  refine ⟨bounded.1.keep record keeping, Eq.trans ?_ bounded.2⟩
  cases keeping <;> rfl

/-- What is left of the changes outside the script: with a scope of its own the assignments of a
script are gone. -/
theorem Bounded.leave {inside : Workspace} (workspace : Workspace) (mode : ScopeMode)
    (arguments : List Value) (bounded : (workspace.enter mode arguments).Bounded allowed inside) :
    (inside.leave workspace).frames = workspace.frames ∧
      Alters allowed workspace.global (inside.leave workspace).global
        (fun name => mode = .callerScope ∧ .assigned name ∈ allowed) workspace.locals
        (inside.leave workspace).locals := by
  obtain ⟨alters, frames⟩ := bounded
  refine ⟨?_, ?_⟩
  · show inside.frames.drop (inside.frames.length - workspace.frames.length) = workspace.frames
    rw [frames]
    show (arguments :: workspace.frames).drop
      ((arguments :: workspace.frames).length - workspace.frames.length) = workspace.frames
    rw [List.length_cons, Nat.add_sub_cancel_left]
    rfl
  · show Alters _ _ inside.global _ _
      (inside.locals.drop (inside.locals.length - workspace.locals.length))
    rcases inside with ⟨locals, global, _, _⟩
    cases mode with
    | callerScope =>
      have same : locals.length = workspace.locals.length := alters.length_eq
      rw [same, Nat.sub_self, List.drop_zero]
      exact Alters.mono alters fun name named => ⟨rfl, named⟩
    | newScope =>
      cases alters with
      | above ofOwn rest =>
        rw [rest.drop_own]
        exact rest.mono fun name never => never.elim

end Workspace

/-! ### What an invocation changes -/

namespace Session

variable {Outside : Type} {sink : Sink Outside} {request : Request} {session : Session Outside}

/-- Wherever its script is left, it has changed the scopes only as its text lets it. -/
theorem Yields.bounded {upshot : Upshot Outside} (yields : session.Yields sink request upshot) :
    (session.workspace.enter request.mode request.arguments).Bounded
      (Statement.blockTouches request.script.statements) upshot.inside := by
  obtain ⟨answers, rest, leads, shown⟩ := yields.course
  have only := Interpreter.runScript_writesOnly session.engine.roundLimit
    request.script.statements (session.workspace.enter request.mode request.arguments)
  rw [← shown]
  exact leads.preserve (fun write => .write write)
    (fun record keeping bounded => bounded.keep record keeping) only ⟨.refl _ _, rfl⟩

/-- Whatever an invocation comes to, the caller's scopes and arguments are back. -/
theorem Yields.restores {upshot : Upshot Outside} (yields : session.Yields sink request upshot) :
    upshot.session.workspace.depth = session.workspace.depth ∧
      upshot.session.workspace.frames = session.workspace.frames := by
  obtain ⟨frames, alters⟩ := yields.bounded.leave session.workspace request.mode request.arguments
  rw [yields.session_eq.2]
  exact ⟨congrArg (· + 1) alters.length_eq, frames⟩

/-- Whatever an invocation comes to, there are as many scopes as before and the same arguments,
and a binding of a scope that was there before differs only if the text of the script names it:
in the caller's innermost scope as assigned, if the invocation shares that scope; in the global
scope as global; or as removed, and then it is gone. -/
theorem yields_changes_named {upshot : Upshot Outside}
    (yields : session.Yields sink request upshot) :
    upshot.session.workspace.depth = session.workspace.depth ∧
      upshot.session.workspace.frames = session.workspace.frames ∧
        ∀ (place : Nat) (before now : Scope),
          session.workspace.scopes[place]? = some before →
            upshot.session.workspace.scopes[place]? = some now →
              ∀ name, now.get? name ≠ before.get? name →
                request.mode = .callerScope ∧ place = 0 ∧
                    .assigned name ∈ Statement.blockTouches request.script.statements ∨
                  place + 1 = session.workspace.depth ∧
                    .global name ∈ Statement.blockTouches request.script.statements ∨
                  now.get? name = none ∧
                    .removed name ∈ Statement.blockTouches request.script.statements := by
  obtain ⟨_, alters⟩ := yields.bounded.leave session.workspace request.mode request.arguments
  refine ⟨yields.restores.1, yields.restores.2, ?_⟩
  intro place before now isBefore isNow name different
  rw [yields.session_eq.2] at isNow
  rcases alters.differs isBefore isNow different with ⟨isFirst, shared, named⟩ | global | removed
  · exact .inl ⟨shared, isFirst, named⟩
  · exact .inr (.inl ⟨congrArg (· + 1) global.1, global.2⟩)
  · exact .inr (.inr removed)

/-- A script that removes one variable of its caller and sets another in a scope of its own. -/
theorem yields_changes_named_removal :
    let session : Session (List SinkCall) := ⟨.ofSettings .standard,
      (Workspace.initial.set "gone" (.integer 1)).set "kept" (.integer 1), []⟩
    let request : Request := ⟨⟨"/unset gone\n/set kept=2",
      [.unset "gone", .set "kept" ⟨[.literal "2"]⟩ false]⟩, [], .newScope, .stop⟩
    let left := (session.upshot (.collector false) request).session.workspace
    left.depth = 1 ∧ left.frames = [] ∧ left.scopes.length = 1 ∧
      ∀ now, left.scopes[0]? = some now → now.get? "kept" = some (.integer 1) := by
  intro session request left
  have yields : session.Yields (.collector false) request
      (session.upshot (.collector false) request) := .atOnce
  obtain ⟨depth, frames, changes⟩ := yields_changes_named yields
  refine ⟨depth, frames, ?_, fun now isNow => ?_⟩
  · exact List.length_append.trans depth
  · by_contra different
    have named := changes 0 _ now rfl isNow "kept" different
    rcases named with ⟨isCaller, _⟩ | ⟨_, isGlobal⟩ | ⟨_, isRemoved⟩
    · cases isCaller
    · revert isGlobal
      decide
    · revert isRemoved
      decide

/-! ### Invocations with a scope of their own -/

/-- Whatever an invocation with a scope of its own comes to, if its script sets no global variable
then the caller's scopes bind what they did, except that variables which the script removes by name
may be gone. Every other variable has the value that it had. -/
theorem yields_newScope_loses {upshot : Upshot Outside}
    (yields : session.Yields sink request upshot) (isNew : request.mode = .newScope)
    (noGlobal : ∀ name, .global name ∉ Statement.blockTouches request.script.statements) :
    List.Forall₂ (Scope.Loses (Statement.blockTouches request.script.statements))
        session.workspace.scopes upshot.session.workspace.scopes ∧
      ∀ name, .removed name ∉ Statement.blockTouches request.script.statements →
        upshot.session.workspace.get? name = session.workspace.get? name := by
  obtain ⟨_, alters⟩ := yields.bounded.leave session.workspace request.mode request.arguments
  rw [← yields.session_eq.2] at alters
  have keeps : Alters (Statement.blockTouches request.script.statements)
      session.workspace.global upshot.session.workspace.global (fun _ => False)
      session.workspace.locals upshot.session.workspace.locals :=
    alters.mono fun name given => by cases isNew.symm.trans given.1
  exact ⟨keeps.loses noGlobal, fun name notRemoved =>
    keeps.findSome? not_false (noGlobal name) notRemoved⟩

/-- A script that removes one variable and sets another leaves the second to the caller as it
was. -/
theorem yields_newScope_loses_one :
    let session : Session (List SinkCall) := ⟨.ofSettings .standard,
      (Workspace.initial.set "gone" (.integer 1)).set "kept" (.integer 1), []⟩
    let request : Request := ⟨⟨"/unset gone\n/set kept=2",
      [.unset "gone", .set "kept" ⟨[.literal "2"]⟩ false]⟩, [], .newScope, .stop⟩
    (session.upshot (.collector false) request).session.workspace.get? "kept" =
      some (.integer 1) := by
  intro session request
  have noGlobal : ∀ name, .global name ∉ Statement.blockTouches request.script.statements := by
    intro name named
    cases named with
    | tail _ named => cases named with
      | tail _ named => cases named
  exact (yields_newScope_loses .atOnce rfl noGlobal).2 "kept" (by decide)

/-- Removals are not kept inside: a script with a scope of its own removes a variable of its
caller. -/
theorem yields_newScope_removes :
    ¬ ∀ (sink : Sink (List SinkCall)) (request : Request) (session : Session (List SinkCall))
      (upshot : Upshot (List SinkCall)), session.Yields sink request upshot →
        request.mode = .newScope →
          (∀ name, .global name ∉ Statement.blockTouches request.script.statements) →
            ∀ name, upshot.session.workspace.get? name = session.workspace.get? name := by
  intro isolated
  have noGlobal : ∀ name, .global name ∉ Statement.blockTouches [.unset "x"] := by
    intro name named
    cases named with
    | tail _ named => cases named
  have same := isolated (.collector false) ⟨⟨"/unset x", [.unset "x"]⟩, [], .newScope, .proceed⟩
    ⟨.ofSettings .standard, Workspace.initial.set "x" (.integer 1), []⟩ _ .atOnce rfl noGlobal "x"
  have absent : none = some (Value.integer 1) := same
  cases absent

end Session

end SlashScript
