/-
Which error action an invocation runs under. The caller's own wish comes first; without one, a
preference variable is looked up through the scopes of the caller, and when that is not set
either, the settings decide.
-/

import SlashScript.Text.Quoted
import SlashScript.Workspace

namespace SlashScript

/-- A preference variable that holds something else than an error action. -/
structure InvalidPolicy where
  variableName : String
  value : String

namespace InvalidPolicy

/-- The text of the failure. -/
def message (policy : InvalidPolicy) : String :=
  s!"{policy.variableName} {Text.quoted policy.value} is not a valid error action"

end InvalidPolicy

/-- A way of finding the error action. -/
inductive Resolver where
  /-- The caller's wish, then the variable with this name. -/
  | chain (variableName : String)
  /-- Always the same action. -/
  | fixed (action : ErrorAction)
  /-- A way of the host's own, which is told the caller's wish and may look up variables. -/
  | custom (consult : Option ErrorAction → (String → Option Value) →
      Except InvalidPolicy (Option ErrorAction))

namespace Resolver

/-- The variable that is consulted unless the settings name another. -/
def preferenceVariable : String := "ErrorActionPreference"

/-- The action that the value of the preference variable names. -/
def actionOfValue (variableName : String) : Value → Except InvalidPolicy ErrorAction
  | .action action => .ok action
  | .text content =>
    match ErrorAction.ofText? content with
    | some action => .ok action
    | none => .error ⟨variableName, content⟩
  | other => .error ⟨variableName, s!"{other.toText} ({other.typeName})"⟩

/-- The action for an invocation with the caller's wish, if anything names one. -/
def resolve (resolver : Resolver) (workspace : Workspace) (wish : Option ErrorAction) :
    Except InvalidPolicy (Option ErrorAction) :=
  match resolver with
  | .fixed action => .ok (some action)
  | .custom consult => consult wish workspace.get?
  | .chain variableName =>
    match wish with
    | some action => .ok (some action)
    | none =>
      match workspace.get? variableName with
      | none => .ok none
      | some value => (actionOfValue variableName value).map some

end Resolver

end SlashScript
