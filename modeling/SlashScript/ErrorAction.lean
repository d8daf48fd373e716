/-
Error actions: what an invocation does with an error its script raises. A host, a setting or a
script variable may name one, in any mixture of capital and small ASCII letters.
-/

import SlashScript.Text.Blank
import SlashScript.Text.Quoted

namespace SlashScript

/-- What to do with an error. -/
inductive ErrorAction where
  /-- Keep the error in the log and go on without a report. -/
  | silent
  /-- End the invocation. -/
  | stop
  /-- Report the error, keep it in the log and go on. -/
  | proceed
  /-- Ask whether to go on. -/
  | inquire
  /-- Forget the error and go on. -/
  | ignore
  deriving DecidableEq

namespace ErrorAction

/-- The name under which an action is written. -/
def name : ErrorAction → String
  | silent => "SilentlyContinue"
  | stop => "Stop"
  | proceed => "Continue"
  | inquire => "Inquire"
  | ignore => "Ignore"

/-- All actions, in the order in which messages list them. -/
def all : List ErrorAction :=
  [silent, stop, proceed, inquire, ignore]

/-- The action with this name, blanks around it and ASCII case apart. -/
def ofText? (text : String) : Option ErrorAction :=
  let wanted := (Text.trim text.toList).map Char.toLower
  all.find? fun action => action.name.toList.map Char.toLower == wanted

/-- The text of a refusal to read an action. -/
def refusal (text : String) : String :=
  let names := ", ".intercalate (all.map name)
  s!"unknown error action {Text.quoted text} (expected one of {names})"

theorem ofText?_name (action : ErrorAction) : ofText? action.name = some action := by
  cases action <;> decide

end ErrorAction

end SlashScript
