/-
This file proves that an assignment which combines the old value of its variable with a new one
is its own expansion: `x += e` is `x = x + (e)`, in its result, in its failure and in all that it
does to the workspace. The two read the variable at different times, the one after the operand and
the other before it. They agree because an expression gives a value to nothing but the variables
that its text names, so an operand that does not name the variable leaves it as it is in every
scope, however the operand ends.

The variable has to be set. One that is not set counts as zero in the short form and as the empty
text in the long one.
-/

import SlashScript.Proofs.Boundary

namespace SlashScript

/-- The operator by which an assignment combines the old value with the new one. -/
def Assignment.operator? : Assignment → Option BinaryOperator
  | set => none
  | add => some .add
  | sub => some .sub
  | mul => some .mul
  | div => some .div

namespace Evaluation

variable {First Second : Type} {first : Evaluation First} {second : First → Evaluation Second}
  {workspace after : Workspace}

theorem bind_of_ok {result : First} (done : first workspace = (.ok result, after)) :
    (first >>= second) workspace = second result after := by
  show Evaluation.bind first second workspace = _
  unfold Evaluation.bind
  rw [done]

theorem bind_of_error {reason : EvalError} (failed : first workspace = (.error reason, after)) :
    (first >>= second) workspace = (.error reason, after) := by
  show Evaluation.bind first second workspace = _
  unfold Evaluation.bind
  rw [failed]

theorem bind_ask (read : Workspace → First) (workspace : Workspace) :
    (ask read >>= second) workspace = second (read workspace) workspace := rfl

end Evaluation

/-! ### Variables that an expression leaves alone -/

namespace Workspace

variable {allowed : List Touch} {before after : Workspace} {name : String}

/-- What each scope has for a variable, innermost first. -/
def valuesOf (workspace : Workspace) (name : String) : List (Option Value) :=
  workspace.scopes.map (·.get? name)

theorem get?_of_valuesOf (same : after.valuesOf name = before.valuesOf name) :
    after.get? name = before.get? name := by
  have found := congrArg (List.findSome? id) same
  rwa [valuesOf, valuesOf, List.findSome?_map, List.findSome?_map] at found

/-- A variable that no write names has its value in every scope. -/
theorem AltersScopes.valuesOf (alters : before.AltersScopes allowed after)
    (notAssigned : .assigned name ∉ allowed) (notGlobal : .global name ∉ allowed)
    (notRemoved : .removed name ∉ allowed) : after.valuesOf name = before.valuesOf name :=
  Alters.map_get? alters notAssigned notGlobal notRemoved

end Workspace

namespace Expression

mutual

/-- An expression makes no other writes than assignments. -/
theorem exists_of_mem_touches {touch : Touch} : ∀ expression : Expression,
    touch ∈ expression.touches → ∃ name, touch = .assigned name
  | literal _, isTouch => nomatch isTouch
  | named _, isTouch => nomatch isTouch
  | unary _ operand, isTouch => exists_of_mem_touches operand isTouch
  | binary _ left right, isTouch => by
    rcases List.mem_append.mp isTouch with inLeft | inRight
    · exact exists_of_mem_touches left inLeft
    · exact exists_of_mem_touches right inRight
  | conditional condition whenTrue whenFalse, isTouch => by
    rw [touches, List.mem_append, List.mem_append] at isTouch
    rcases isTouch with inCondition | inTrue | inFalse
    · exact exists_of_mem_touches condition inCondition
    · exact exists_of_mem_touches whenTrue inTrue
    · exact exists_of_mem_touches whenFalse inFalse
  | assign name _ operand, isTouch => by
    rcases List.mem_cons.mp isTouch with isHead | inOperand
    · exact ⟨name, isHead⟩
    · exact exists_of_mem_touches operand inOperand
  | call _ arguments, isTouch => exists_of_mem_allTouches arguments isTouch
  | sequence items, isTouch => exists_of_mem_allTouches items isTouch

theorem exists_of_mem_allTouches {touch : Touch} : ∀ items : List Expression,
    touch ∈ allTouches items → ∃ name, touch = .assigned name
  | [], isTouch => nomatch isTouch
  | first :: rest, isTouch => by
    rcases List.mem_append.mp isTouch with inFirst | inRest
    · exact exists_of_mem_touches first inFirst
    · exact exists_of_mem_allTouches rest inRest

end

/-- An expression without an assignment to a variable leaves it alone in every scope, whether the
expression has a value or fails. -/
theorem evaluate_valuesOf {name : String} {expression : Expression}
    (unassigned : .assigned name ∉ expression.touches) (workspace : Workspace) :
    (expression.evaluate workspace).2.valuesOf name = workspace.valuesOf name := by
  have reached := expression.evaluate_writesOnly (List.Subset.refl _) workspace
  have alters : workspace.AltersScopes expression.touches (expression.evaluate workspace).2 :=
    reached.preserve (fun write => .write write) (.refl _ _)
  refine alters.valuesOf unassigned (fun isGlobal => ?_) (fun isRemoved => ?_)
  · obtain ⟨other, never⟩ := expression.exists_of_mem_touches isGlobal
    cases never
  · obtain ⟨other, never⟩ := expression.exists_of_mem_touches isRemoved
    cases never

/-! ### Assignments and their expansions -/

/-- The outcome of storing a result that may be missing. -/
def storing (name : String) (result : Except EvalError Value) (workspace : Workspace) :
    Except EvalError Value × Workspace :=
  match result with
  | .ok value => (.ok value, workspace.set name value)
  | .error reason => (.error reason, workspace)

theorem evaluate_assign_of_ok {operand : Expression} {workspace after : Workspace} {value : Value}
    (evaluated : operand.evaluate workspace = (.ok value, after)) (name : String)
    (assignment : Assignment) :
    (assign name assignment operand).evaluate workspace =
      storing name (applyAssignment assignment ((after.get? name).getD (.integer 0)) value)
        after := by
  rw [evaluate, Evaluation.bind_of_ok evaluated, Evaluation.bind_ask]
  cases applyAssignment assignment ((after.get? name).getD (.integer 0)) value <;> rfl

theorem evaluate_assign_of_error {operand : Expression} {workspace after : Workspace}
    {reason : EvalError} (failed : operand.evaluate workspace = (.error reason, after))
    (name : String) (assignment : Assignment) :
    (assign name assignment operand).evaluate workspace = (.error reason, after) := by
  rw [evaluate, Evaluation.bind_of_error failed]

/-- Operators other than the two logical ones evaluate both operands. -/
theorem evaluate_binary {operator : BinaryOperator} (notAnd : operator ≠ .and)
    (notOr : operator ≠ .or) (left right : Expression) :
    (binary operator left right).evaluate = left.evaluate >>= fun leftValue =>
      right.evaluate >>= fun rightValue =>
        Evaluation.ofExcept (applyBinary operator leftValue rightValue) := by
  rw [evaluate]
  · exact notAnd
  · exact notOr

/-- An assignment that combines does so by its operator. -/
theorem evaluate_binary_named {assignment : Assignment} {operator : BinaryOperator}
    (combines : assignment.operator? = some operator) (name : String) (operand : Expression) :
    (binary operator (named name) operand).evaluate =
      (named name).evaluate >>= fun current => operand.evaluate >>= fun value =>
        Evaluation.ofExcept (applyAssignment assignment current value) := by
  cases assignment
  case set => cases combines
  all_goals
    cases combines
    exact evaluate_binary (by decide) (by decide) _ _

/-- An assignment that combines the old value of a variable with that of an operand gives the same
result as its expansion, or fails for the same reason, and leaves the same workspace, if the
variable is set and the operand does not assign it. If it fails, the variable is in every scope
what it was. -/
theorem evaluate_assign_eq_expansion {name : String} {assignment : Assignment}
    {operator : BinaryOperator} {operand : Expression} {workspace : Workspace}
    (combines : assignment.operator? = some operator)
    (unassigned : .assigned name ∉ operand.touches) (isSet : workspace.defines name = true) :
    (assign name assignment operand).evaluate workspace =
        (assign name .set (binary operator (named name) operand)).evaluate workspace ∧
      ∀ reason after, (assign name assignment operand).evaluate workspace = (.error reason, after) →
        after.get? name = workspace.get? name ∧ after.valuesOf name = workspace.valuesOf name := by
  have untouched := evaluate_valuesOf unassigned workspace
  obtain ⟨current, isCurrent⟩ := Option.isSome_iff_exists.mp isSet
  have reads : (named name).evaluate workspace = (.ok current, workspace) := by
    rw [evaluate]
    show (Except.ok ((workspace.get? name).getD .empty), workspace) = _
    rw [isCurrent, Option.getD_some]
  have expansion := congrFun (evaluate_binary_named combines name operand) workspace
  rw [Evaluation.bind_of_ok reads] at expansion
  rcases evaluated : operand.evaluate workspace with ⟨reason | value, after⟩
  · -- The operand fails, and nothing else happens in either form.
    rw [evaluated] at untouched
    rw [Evaluation.bind_of_error evaluated] at expansion
    rw [evaluate_assign_of_error evaluated, evaluate_assign_of_error expansion]
    refine ⟨rfl, fun reason' after' failed => ?_⟩
    cases failed
    exact ⟨Workspace.get?_of_valuesOf untouched, untouched⟩
  · rw [evaluated] at untouched
    have stillCurrent : after.get? name = some current :=
      (Workspace.get?_of_valuesOf untouched).trans isCurrent
    rw [Evaluation.bind_of_ok evaluated] at expansion
    rw [evaluate_assign_of_ok evaluated, stillCurrent, Option.getD_some]
    cases combined : applyAssignment assignment current value with
    | error reason =>
      rw [combined] at expansion
      rw [evaluate_assign_of_error expansion]
      refine ⟨rfl, fun reason' after' failed => ?_⟩
      cases failed
      exact ⟨Workspace.get?_of_valuesOf untouched, untouched⟩
    | ok result =>
      rw [combined] at expansion
      rw [evaluate_assign_of_ok expansion]
      exact ⟨rfl, fun reason' after' failed => nomatch failed⟩

/-- A quotient by zero fails in both forms after its operand has set another variable. -/
theorem evaluate_assign_eq_expansion_of_zero :
    let workspace := Workspace.initial.set "x" (.integer 7)
    let operand : Expression := .assign "y" .set (.literal (.integer 0))
    let after := (workspace.set "y" (.integer 0))
    (assign "x" .div operand).evaluate workspace =
        (.error (.arithmetic .divisionByZero), after) ∧
      (assign "x" .set (binary .div (named "x") operand)).evaluate workspace =
        (.error (.arithmetic .divisionByZero), after) ∧
      after.valuesOf "x" = [some (.integer 7)] := by
  intro workspace operand after
  have fails : (assign "x" .div operand).evaluate workspace =
      (.error (.arithmetic .divisionByZero), after) := by
    have isZero : ((Value.integer 0).toFloat == 0.0) = true := by decide +kernel
    have evaluated : operand.evaluate workspace = (.ok (.integer 0), after) := rfl
    rw [evaluate_assign_of_ok evaluated]
    show storing "x" (((Value.integer 7).div (.integer 0)).mapError .arithmetic) after = _
    rw [Value.div, if_pos isZero]
    rfl
  have expands := @evaluate_assign_eq_expansion "x" .div .div operand workspace rfl (by decide) rfl
  exact ⟨fails, expands.1.symm.trans fails, (expands.2 _ _ fails).2⟩

end Expression

end SlashScript
