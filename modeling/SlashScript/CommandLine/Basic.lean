/-
What a command line asks for: one of two commands, the settings file to start from, and how much
is to be logged.
-/

import SlashScript.Pipeline

namespace SlashScript

/-- Where the settings come from. -/
inductive SettingsSource where
  /-- The first file that exists among the usual places. -/
  | search
  /-- Nowhere. -/
  | skip
  | explicit (path : String)
  deriving DecidableEq

/-- What is to be done. -/
inductive Command where
  /-- Prints the text of the script that the lines of a file make, or those of the standard
  input. -/
  | build (file : Option String)
  /-- Runs scripts that are given as texts, and then the lines of a file; without either, the
  lines of the standard input. -/
  | run (file : Option String) (texts : List String) (options : RunOptions)

/-- A command line that was understood. -/
structure CommandLine where
  source : SettingsSource
  /-- How often more logging was asked for. -/
  verbosity : Nat
  command : Command

/-- The reasons for which a command line is not followed. -/
inductive UsageError where
  | unknownArgument
  /-- An option without its value, or a path without a character. -/
  | invalidValue
  /-- An option given twice that may be given once, or two options that exclude each other. -/
  | argumentConflict
  /-- A value for an option that takes none. -/
  | tooManyValues
  /-- A value that does not name what it should name. -/
  | valueValidation
  | missingSubcommand
  | invalidSubcommand
  /-- Nothing was given at all. -/
  | nothingGiven
  /-- Help was asked for. -/
  | helpRequest
  /-- The version was asked for. -/
  | versionRequest
  deriving DecidableEq

namespace UsageError

/-- Whether the user asked for what is shown instead of following the command line. -/
def isRequest : UsageError → Bool
  | helpRequest => true
  | versionRequest => true
  | _ => false

end UsageError

namespace CommandLine

/-- The name of the level of the least important events that are logged, by how often more
logging was asked for. -/
def logLevel (verbosity : Nat) : String :=
  (Logging.Level.ofVerbosity verbosity).name

end CommandLine

end SlashScript
