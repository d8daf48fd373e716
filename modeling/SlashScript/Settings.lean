/-
Settings files. Each line may be a `/set` directive, which changes one of the engine's settings
or gives a global variable its value; comments and other commands are passed over. A directive
that cannot be followed is reported with its line and has no effect on the rest of the file.
-/

import SlashScript.Policy
import SlashScript.Text.Lines

namespace SlashScript

/-- The settings of the engine. -/
structure EngineSettings where
  /-- The error action when nothing else names one. -/
  fallbackAction : ErrorAction
  /-- The variable that holds the preferred error action. -/
  preferenceVariable : String
  /-- How many emitted values may wait for the sink; at zero, a script and its sink take turns. -/
  channelDepth : Nat
  deriving DecidableEq

namespace EngineSettings

/-- The greatest number of values that may wait. -/
def maxChannelDepth : Nat := 4096

/-- The settings without a file. -/
def standard : EngineSettings :=
  ⟨.proceed, Resolver.preferenceVariable, 0⟩

end EngineSettings

/-- What a settings file asks for. -/
structure Settings where
  engine : EngineSettings
  /-- Global variables in the order of the file. -/
  globals : List (String × Value)

/-- The reasons for which a directive is not followed. -/
inductive SettingsCause where
  | withoutArgument
  | withoutValue (name : String)
  | emptyName
  | unknownAction (text : String)
  | emptyPreferenceVariable
  | notACount (text : String)
  | tooDeep (depth : Nat)
  deriving DecidableEq

/-- A directive that is not followed: its line and the reason. -/
structure SettingsError where
  line : Nat
  cause : SettingsCause
  deriving DecidableEq

namespace SettingsError

/-- The text of the reason. -/
def message (error : SettingsError) : String :=
  match error.cause with
  | .withoutArgument => "/set: requires an argument"
  | .withoutValue name => s!"/set: missing value for '{name}'"
  | .emptyName => "/set: variable name cannot be empty"
  | .unknownAction text => ErrorAction.refusal text
  | .emptyPreferenceVariable => "sb_preference_variable cannot be empty"
  | .notACount text => s!"sb_channel_depth: not a count: {text}"
  | .tooDeep depth =>
    s!"sb_channel_depth: {depth} exceeds the maximum of {EngineSettings.maxChannelDepth}"

/-- The text of the reason with the line. -/
def display (error : SettingsError) : String :=
  s!"line {error.line}: {error.message}"

end SettingsError

namespace Settings

/-- The settings without a file. -/
def standard : Settings := ⟨.standard, []⟩

/-! ### Words -/

/-- The blanks between the words of a directive. -/
def isSeparator (char : Char) : Bool :=
  char == ' ' || char == '\t' || char == '\n' || char == '\x0C' || char == '\r'

/-- A word that ends here, unless nothing was written. -/
def closeWord (reversed : List Char) (others : List (List Char)) : List (List Char) :=
  if reversed.isEmpty then others else reversed.reverse :: others

/-- The words of the rest of a directive, when the characters of the current word are given last
first. Between double quotation marks blanks belong to the word and a backslash protects the
character after it; the marks themselves do not belong to it. -/
def wordsFrom (quoted : Bool) (reversed : List Char) : List Char → List (List Char)
  | [] => closeWord reversed []
  | char :: rest =>
    if char = '"' then wordsFrom (!quoted) reversed rest
    else if quoted && char = '\\' then
      match rest with
      | [] => closeWord reversed []
      | escaped :: rest => wordsFrom quoted (escaped :: reversed) rest
    else if isSeparator char && !quoted then closeWord reversed (wordsFrom quoted [] rest)
    else wordsFrom quoted (char :: reversed) rest

/-- The words of a directive. -/
def words (chars : List Char) : List (List Char) :=
  wordsFrom false [] chars

/-! ### Directives -/

/-- The words joined by single spaces. -/
def joinWords (words : List (List Char)) : List Char :=
  [' '].intercalate words

/-- The name and the value of a directive: divided by the first equals sign of the first word, or
else after the first word. -/
def nameAndValue : List (List Char) → Except SettingsCause (List Char × List Char)
  | [] => .error .withoutArgument
  | first :: others =>
    match first.dropWhile (· != '=') with
    | _ :: value => .ok (first.takeWhile (· != '='), joinWords (value :: others))
    | [] =>
      if others.isEmpty then .error (.withoutValue (String.ofList first))
      else .ok (first, joinWords others)

/-- The greatest number that a count may be written as. -/
def greatestCount : Nat := Nat.pow 2 64 - 1

/-- A count: digits, with a plus sign before them if one is written. -/
def readCount? (chars : List Char) : Option Nat :=
  let digits := match chars with
    | '+' :: digits => digits
    | digits => digits
  let count := Decimal.valueOfDigits digits
  if Decimal.isDigits digits && count ≤ greatestCount then some count else none

/-- The settings after one directive. -/
def assign (settings : Settings) (name value : List Char) : Except SettingsCause Settings :=
  let text := String.ofList value
  match String.ofList name with
  | "" => .error .emptyName
  | "sb_fallback_action" =>
    match ErrorAction.ofText? text with
    | some action => .ok { settings with engine := { settings.engine with fallbackAction := action } }
    | none => .error (.unknownAction text)
  | "sb_preference_variable" =>
    if value.isEmpty then .error .emptyPreferenceVariable
    else .ok { settings with engine := { settings.engine with preferenceVariable := text } }
  | "sb_channel_depth" =>
    match readCount? value with
    | none => .error (.notACount text)
    | some depth =>
      if EngineSettings.maxChannelDepth < depth then .error (.tooDeep depth)
      else .ok { settings with engine := { settings.engine with channelDepth := depth } }
  | name => .ok { settings with globals := settings.globals ++ [(name, Value.ofText text)] }

/-- The argument of a line that is a directive. -/
def directive? (line : List Char) : Option (List Char) :=
  match Text.trim line with
  | '/' :: rest =>
    if rest.takeWhile (!isSeparator ·) = "set".toList then
      some (Text.trim ((rest.dropWhile (!isSeparator ·)).drop 1))
    else none
  | _ => none

/-- The settings after one line, or the reason for which its directive is not followed. -/
def followLine (settings : Settings) (line : List Char) : Except SettingsCause Settings :=
  match directive? line with
  | none => .ok settings
  | some arguments => do
    let (name, value) ← nameAndValue (words arguments)
    settings.assign name value

/-- The settings after the remaining lines, with the errors in them. -/
def followLines (settings : Settings) (number : Nat) :
    List (List Char) → Settings × List SettingsError
  | [] => (settings, [])
  | line :: rest =>
    match settings.followLine line with
    | .ok settings => followLines settings (number + 1) rest
    | .error cause =>
      let (settings, errors) := followLines settings (number + 1) rest
      (settings, ⟨number, cause⟩ :: errors)

/-- The settings of a file and the errors in it. -/
def load (text : String) : Settings × List SettingsError :=
  followLines standard 1 (Text.lines text.toList)

/-- Gives the global variables their values. -/
def apply (settings : Settings) (workspace : Workspace) : Workspace :=
  settings.globals.foldl (fun workspace binding => workspace.setGlobal binding.1 binding.2) workspace

end Settings

end SlashScript
