/-
This file shows how a script changes the scopes in which it runs. A script gives values to variables
of its innermost scope and of the global one only, so the scopes that its caller set up in between
get no values from it. What it removes is another matter: `/unset` removes a variable from the
innermost scope that has it, wherever that scope is, and so it can reach a scope of the caller.

Scopes that got no values have therefore only lost variables, and only such as the script removes by
name.
-/

import Mathlib.Data.List.Forall2
import SlashScript.Proofs.Footprint

namespace SlashScript

/-! ### How scopes differ -/

/-- The second scope binds what the first does, except for variables that may have got a value
and those that may have been removed. -/
def Scope.Alters (allowed : List Touch) (given : String → Prop) (before after : Scope) : Prop :=
  ∀ name, after.get? name = before.get? name ∨ given name ∨
    .removed name ∈ allowed ∧ after.get? name = none

namespace Scope.Alters

variable {allowed : List Touch} {given : String → Prop} {before after : Scope} {name : String}

theorem refl (scope : Scope) : scope.Alters allowed given scope :=
  fun _ => .inl rfl

theorem set (alters : before.Alters allowed given after) (value : Value) (named : given name) :
    before.Alters allowed given (after.set name value) := by
  intro other
  by_cases isName : other = name
  · rw [isName]
    exact .inr (.inl named)
  · rw [get?_set_of_ne after name other value isName]
    exact alters other

theorem erase (alters : before.Alters allowed given after) (named : .removed name ∈ allowed) :
    before.Alters allowed given (after.erase name) := by
  intro other
  by_cases isName : other = name
  · rw [isName]
    exact .inr (.inr ⟨named, get?_erase_self after name⟩)
  · rw [get?_erase_of_ne after name other isName]
    exact alters other

/-- A variable that nothing names is bound as it was. -/
theorem get? (alters : before.Alters allowed given after) (notGiven : ¬ given name)
    (notRemoved : .removed name ∉ allowed) : after.get? name = before.get? name := by
  rcases alters name with same | named | ⟨removed, _⟩
  · exact same
  · exact absurd named notGiven
  · exact absurd removed notRemoved

end Scope.Alters

/-- The scopes above the global one, innermost first, and the global one, with what became of
them. Only the innermost scope got values, and the global one if that is named so. -/
inductive Alters (allowed : List Touch) (global global' : Scope) :
    (given : String → Prop) → List Scope → List Scope → Prop where
  | outermost {given : String → Prop}
    (alters : global.Alters allowed (fun name => given name ∨ .global name ∈ allowed) global') :
    Alters allowed global global' given [] []
  | above {given : String → Prop} {scope scope' : Scope} {outer outer' : List Scope}
    (alters : scope.Alters allowed given scope')
    (rest : Alters allowed global global' (fun _ => False) outer outer') :
    Alters allowed global global' given (scope :: outer) (scope' :: outer')

namespace Alters

variable {allowed : List Touch} {given : String → Prop} {global global' : Scope}
  {locals locals' : List Scope} {name : String}

theorem refl (global : Scope) (locals : List Scope) :
    Alters allowed global global given locals locals := by
  induction locals generalizing given with
  | nil => exact .outermost (.refl global)
  | cons scope outer inductionHypothesis => exact .above (.refl scope) inductionHypothesis

theorem length_eq (alters : Alters allowed global global' given locals locals') :
    locals'.length = locals.length := by
  induction alters with
  | outermost _ => rfl
  | above _ _ inductionHypothesis => exact congrArg (· + 1) inductionHypothesis

/-- To go back to the number of the first scopes drops a scope above the second ones. -/
theorem drop_own (alters : Alters allowed global global' given locals locals') (own : Scope) :
    (own :: locals').drop ((own :: locals').length - locals.length) = locals' := by
  rw [← alters.length_eq, List.length_cons, Nat.add_sub_cancel_left]
  rfl

theorem setGlobal (alters : Alters allowed global global' given locals locals') (value : Value)
    (named : .global name ∈ allowed) :
    Alters allowed global (global'.set name value) given locals locals' := by
  induction alters with
  | outermost alters => exact .outermost (alters.set value (.inr named))
  | above alters _ inductionHypothesis => exact .above alters inductionHypothesis

/-- A removal reaches one of the scopes, and it may be any of them. -/
theorem eraseInnermost (alters : Alters allowed global global' given locals locals')
    (named : .removed name ∈ allowed) :
    Alters allowed global (Workspace.eraseInnermost name locals' global').2 given locals
      (Workspace.eraseInnermost name locals' global').1 := by
  induction alters with
  | outermost alters => exact .outermost (alters.erase named)
  | above alters rest inductionHypothesis =>
    rw [Workspace.eraseInnermost]
    split
    · exact .above (alters.erase named) rest
    · exact .above alters inductionHypothesis

/-- A variable that nothing names is bound as it was in every scope. -/
theorem map_get? (alters : Alters allowed global global' given locals locals')
    (notGiven : ¬ given name) (notGlobal : .global name ∉ allowed)
    (notRemoved : .removed name ∉ allowed) :
    (locals' ++ [global']).map (·.get? name) = (locals ++ [global]).map (·.get? name) := by
  induction alters with
  | outermost alters =>
    have same := alters.get? (not_or.mpr ⟨notGiven, notGlobal⟩) notRemoved
    exact congrArg (fun value => [value]) same
  | above alters _ inductionHypothesis =>
    rw [List.cons_append, List.cons_append, List.map_cons, List.map_cons,
      alters.get? notGiven notRemoved, inductionHypothesis not_false]

/-- A variable that nothing names has the value it had. -/
theorem findSome? (alters : Alters allowed global global' given locals locals')
    (notGiven : ¬ given name) (notGlobal : .global name ∉ allowed)
    (notRemoved : .removed name ∉ allowed) :
    (locals' ++ [global']).findSome? (·.get? name) =
      (locals ++ [global]).findSome? (·.get? name) := by
  have same := congrArg (List.findSome? id) (alters.map_get? notGiven notGlobal notRemoved)
  rwa [List.findSome?_map, List.findSome?_map] at same

end Alters

/-! ### How a script changes its scopes -/

namespace Workspace

variable {allowed : List Touch} {start before after : Workspace}

/-- The scopes differ from those at the start as the writes of a script that starts there let
them differ. -/
def AltersScopes (allowed : List Touch) (start now : Workspace) : Prop :=
  Alters allowed start.global now.global (fun name => .assigned name ∈ allowed) start.locals
    now.locals

theorem AltersScopes.write (write : Writes allowed before after)
    (alters : start.AltersScopes allowed before) : start.AltersScopes allowed after := by
  obtain ⟨startLocals, startGlobal, startFrames, startErrors⟩ := start
  obtain ⟨locals, global, frames, errors⟩ := before
  unfold AltersScopes at alters ⊢
  cases write with
  | assign value named =>
    cases alters with
    | outermost alters => exact .outermost (alters.set value (.inl named))
    | above alters rest => exact .above (alters.set value named) rest
  | assignGlobal value named => exact alters.setGlobal value named
  | remove named => exact alters.eraseInnermost named

theorem AltersScopes.keep (alters : start.AltersScopes allowed before) (record : ErrorRecord)
    (keeping : Keeping) : start.AltersScopes allowed (before.keep record keeping) := by
  cases keeping <;> exact alters

end Workspace

/-! ### Scopes that got no values -/

/-- The second scope binds what the first does, except for variables that may have been
removed. -/
def Scope.Loses (allowed : List Touch) (before after : Scope) : Prop :=
  ∀ name, after.get? name = before.get? name ∨
    .removed name ∈ allowed ∧ after.get? name = none

/-- Scopes that got no values have only lost variables. -/
theorem Alters.loses {allowed : List Touch} {global global' : Scope} {locals locals' : List Scope}
    (alters : Alters allowed global global' (fun _ => False) locals locals')
    (noGlobal : ∀ name, .global name ∉ allowed) :
    List.Forall₂ (Scope.Loses allowed) (locals ++ [global]) (locals' ++ [global']) := by
  induction locals generalizing locals' with
  | nil =>
    cases alters with
    | outermost alters =>
      refine .cons (fun name => ?_) .nil
      rcases alters name with same | (never | isGlobal) | removed
      · exact .inl same
      · exact never.elim
      · exact absurd isGlobal (noGlobal name)
      · exact .inr removed
  | cons scope outer inductionHypothesis =>
    cases alters with
    | above alters rest =>
      refine .cons (fun name => ?_) (inductionHypothesis rest)
      rcases alters name with same | never | removed
      · exact .inl same
      · exact never.elim
      · exact .inr removed

end SlashScript
