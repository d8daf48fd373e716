/-
Scripts ready to run: a text together with the statements it stands for. A script has no state,
so it may be run any number of times, and two scripts are equal when their statements are.
-/

import SlashScript.Logging
import SlashScript.Statement.Parser

namespace SlashScript

/-- A compiled script. -/
structure Script where
  /-- The text it was compiled from. -/
  source : String
  statements : Block

namespace Script

/-- Compiles a text. -/
def compile (source : String) : Except CompileError Script :=
  (Statement.parse source.toList).map fun statements => ⟨source, statements⟩

/-- What the log tells of a text that was compiled. -/
def compiled (script : Script) : Logging.Event :=
  ⟨.debug, "scriptblock::unit", "compiled unit",
    [("bytes", toString script.source.utf8ByteSize),
      ("statements", toString script.statements.length)]⟩

/-- Whether there is nothing to run. -/
def isEmpty (script : Script) : Bool :=
  script.statements.isEmpty

/-- Equality of what two scripts do, their texts apart. -/
def same (left right : Script) : Bool :=
  Statement.blockSame left.statements right.statements

end Script

end SlashScript
