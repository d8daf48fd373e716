/-
What a running script works on: its variables in nested scopes, the arguments of the invocations
that are under way, and the log of the errors that were allowed to pass. A variable is looked up
from the innermost scope outwards and written in the innermost one; the global scope is the
outermost and is always there.
-/

import SlashScript.Value.Basic

namespace SlashScript

/-- How an error was raised. -/
inductive ErrorKind where
  /-- By the script itself, which may go on. -/
  | nonTerminating
  /-- By an evaluation that failed; its statement is abandoned. -/
  | statement
  /-- By the script itself, which cannot go on. -/
  | thrown
  deriving DecidableEq

/-- An error that was raised while a script ran. -/
structure ErrorRecord where
  kind : ErrorKind
  message : String
  deriving DecidableEq

namespace ErrorRecord

/-- Whether the script may go on after the error. -/
def isResumable (record : ErrorRecord) : Bool :=
  record.kind != .thrown

end ErrorRecord

/-- Variables and their values. -/
structure Scope where
  bindings : List (String × Value)

namespace Scope

/-- No variables. -/
def empty : Scope := ⟨[]⟩

/-- The value of a variable. -/
def get? (scope : Scope) (name : String) : Option Value :=
  scope.bindings.lookup name

/-- Gives a variable a value. -/
def set (scope : Scope) (name : String) (value : Value) : Scope :=
  ⟨(name, value) :: scope.bindings.filter fun binding => binding.1 != name⟩

/-- Removes a variable. -/
def erase (scope : Scope) (name : String) : Scope :=
  ⟨scope.bindings.filter fun binding => binding.1 != name⟩

theorem lookup_filter_ne (bindings : List (String × Value)) (name other : String)
    (different : other ≠ name) :
    (bindings.filter fun binding => binding.1 != name).lookup other = bindings.lookup other := by
  induction bindings with
  | nil => rfl
  | cons binding rest inductionHypothesis =>
    obtain ⟨key, value⟩ := binding
    by_cases isName : key = name
    · subst isName
      simp [List.lookup_cons, inductionHypothesis, beq_false_of_ne different]
    · simp [List.lookup_cons, inductionHypothesis, isName]

theorem lookup_filter_self (bindings : List (String × Value)) (name : String) :
    (bindings.filter fun binding => binding.1 != name).lookup name = none := by
  induction bindings with
  | nil => rfl
  | cons binding rest inductionHypothesis =>
    obtain ⟨key, value⟩ := binding
    by_cases isName : key = name
    · simp [isName, inductionHypothesis]
    · simp [List.lookup_cons, inductionHypothesis, isName, beq_false_of_ne (Ne.symm isName)]

@[simp] theorem get?_empty (name : String) : empty.get? name = none := rfl

@[simp] theorem get?_set_self (scope : Scope) (name : String) (value : Value) :
    (scope.set name value).get? name = some value := by
  simp [get?, set]

theorem get?_set_of_ne (scope : Scope) (name other : String) (value : Value)
    (different : other ≠ name) : (scope.set name value).get? other = scope.get? other := by
  simp [get?, set, List.lookup_cons, beq_false_of_ne different, lookup_filter_ne, different]

@[simp] theorem get?_erase_self (scope : Scope) (name : String) :
    (scope.erase name).get? name = none :=
  lookup_filter_self scope.bindings name

theorem get?_erase_of_ne (scope : Scope) (name other : String) (different : other ≠ name) :
    (scope.erase name).get? other = scope.get? other :=
  lookup_filter_ne scope.bindings name other different

end Scope

/-- The state of a script interpreter. -/
structure Workspace where
  /-- The scopes above the global one, innermost first. -/
  locals : List Scope
  global : Scope
  /-- The arguments of each invocation under way, innermost first. -/
  frames : List (List Value)
  /-- The errors that were allowed to pass and kept, oldest first. -/
  errors : List ErrorRecord

namespace Workspace

/-- A workspace in which nothing was set yet. -/
def initial : Workspace := ⟨[], .empty, [], []⟩

/-- The number of scopes. -/
def depth (workspace : Workspace) : Nat :=
  workspace.locals.length + 1

/-- All scopes, innermost first. -/
def scopes (workspace : Workspace) : List Scope :=
  workspace.locals ++ [workspace.global]

/-- The value of a variable, looked up from the innermost scope outwards. -/
def get? (workspace : Workspace) (name : String) : Option Value :=
  workspace.scopes.findSome? fun scope => scope.get? name

/-- Gives a variable a value in the innermost scope. -/
def set (workspace : Workspace) (name : String) (value : Value) : Workspace :=
  match workspace.locals with
  | [] => { workspace with global := workspace.global.set name value }
  | innermost :: outer => { workspace with locals := innermost.set name value :: outer }

/-- Gives a variable a value in the global scope. -/
def setGlobal (workspace : Workspace) (name : String) (value : Value) : Workspace :=
  { workspace with global := workspace.global.set name value }

/-- The value of a variable of the global scope. -/
def getGlobal? (workspace : Workspace) (name : String) : Option Value :=
  workspace.global.get? name

/-- The scopes without a variable in the innermost of them that has it. -/
def eraseInnermost (name : String) : List Scope → Scope → List Scope × Scope
  | [], global => ([], global.erase name)
  | innermost :: outer, global =>
    if (innermost.get? name).isSome then (innermost.erase name :: outer, global)
    else
      let (outer, global) := eraseInnermost name outer global
      (innermost :: outer, global)

/-- Whether some scope has a variable. -/
def defines (workspace : Workspace) (name : String) : Bool :=
  (workspace.get? name).isSome

/-- Removes a variable from the innermost scope that has it. -/
def unset (workspace : Workspace) (name : String) : Workspace :=
  let (locals, global) := eraseInnermost name workspace.locals workspace.global
  { workspace with locals := locals, global := global }

/-- The arguments of the innermost invocation. -/
def arguments (workspace : Workspace) : List Value :=
  workspace.frames.headD []

/-- Adds an error to the log. -/
def record (workspace : Workspace) (error : ErrorRecord) : Workspace :=
  { workspace with errors := workspace.errors ++ [error] }

/-- Empties the log. -/
def clearErrors (workspace : Workspace) : Workspace :=
  { workspace with errors := [] }

/-! ### Nested work -/

/-- Where an invocation writes its variables. -/
inductive ScopeMode where
  /-- Into a scope of its own, which ends with it. -/
  | newScope
  /-- Into the scope of its caller. -/
  | callerScope
  deriving DecidableEq

/-- The name of a mode. -/
def ScopeMode.name : ScopeMode → String
  | newScope => "NewScope"
  | callerScope => "CallerScope"

/-- The workspace inside an invocation with these arguments. -/
def enter (workspace : Workspace) (mode : ScopeMode) (arguments : List Value) : Workspace :=
  { workspace with
    locals := match mode with
      | .newScope => .empty :: workspace.locals
      | .callerScope => workspace.locals
    frames := arguments :: workspace.frames }

/-- The workspace after nested work, back at the numbers of scopes and frames that `outside`
had. -/
def leave (workspace outside : Workspace) : Workspace :=
  { workspace with
    locals := workspace.locals.drop (workspace.locals.length - outside.locals.length)
    frames := workspace.frames.drop (workspace.frames.length - outside.frames.length) }

@[simp] theorem depth_initial : initial.depth = 1 := rfl

@[simp] theorem arguments_enter (workspace : Workspace) (mode : ScopeMode)
    (arguments : List Value) : (workspace.enter mode arguments).arguments = arguments := rfl

@[simp] theorem get?_set_self (workspace : Workspace) (name : String) (value : Value) :
    (workspace.set name value).get? name = some value := by
  unfold set get? scopes
  cases workspace.locals <;> simp

end Workspace

end SlashScript
