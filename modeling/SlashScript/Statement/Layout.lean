/-
From the text of a script to the texts of its statements. Lines whose first visible character is
a semicolon or a number sign are comments and are left out wherever they stand. A line that ends
in a backslash goes on in the next line. A percent sign before a semicolon ends a statement
within a line, except between double quotation marks and inside brackets. Every statement keeps
the number of the physical line on which its logical line starts.
-/

import SlashScript.Text.Blank
import SlashScript.Text.Lines

namespace SlashScript

/-- The text of one statement and the line it starts on, counted from one. -/
structure SourceStatement where
  line : Nat
  text : List Char
  deriving DecidableEq

namespace Layout

/-! ### Logical lines -/

/-- Lines that are left out. -/
def isComment (line : List Char) : Bool :=
  match Text.trimStart line with
  | ';' :: _ => true
  | '#' :: _ => true
  | _ => false

/-- The logical lines of the remaining physical lines, when a logical line with this start and
text may still be open. -/
def logicalLinesFrom (pending : Option SourceStatement) (number : Nat) :
    List (List Char) → List SourceStatement
  | [] => pending.toList
  | line :: rest =>
    if isComment line then logicalLinesFrom pending (number + 1) rest
    else
      let opened := pending.getD ⟨number, []⟩
      if line.getLast? = some '\\' then
        logicalLinesFrom (some ⟨opened.line, opened.text ++ line.dropLast⟩) (number + 1) rest
      else ⟨opened.line, opened.text ++ line⟩ :: logicalLinesFrom none (number + 1) rest

/-- The logical lines of a text. -/
def logicalLines (source : List Char) : List SourceStatement :=
  logicalLinesFrom none 1 (Text.lines source)

/-! ### Statements that share a line -/

/-- Puts a character before the first of several texts. -/
def prependChar (char : Char) : List (List Char) → List (List Char)
  | [] => [[char]]
  | first :: others => (char :: first) :: others

/-- The texts between the separators of a line, when the line so far has opened a quotation or
this many brackets. Within a quotation a backslash protects the character after it. -/
def splitFrom (quoted : Bool) (depth : Nat) : List Char → List (List Char)
  | [] => [[]]
  | char :: rest =>
    if quoted then
      if char = '\\' then
        match rest with
        | [] => [[char]]
        | next :: rest => prependChar char (prependChar next (splitFrom true depth rest))
      else prependChar char (splitFrom (char != '"') depth rest)
    else if char = '%' && depth = 0 && rest.head? = some ';' then
      match rest with
      | [] => [[]]
      | _ :: rest => [] :: splitFrom false 0 rest
    else
      let depth' := if char = '[' then depth + 1 else if char = ']' then depth - 1 else depth
      prependChar char (splitFrom (char = '"') depth' rest)

/-- The texts between the separators of a line. -/
def splitStatements (line : List Char) : List (List Char) :=
  splitFrom false 0 line

/-- The statements of a logical line, without blanks around them; empty ones do not count. -/
def statementsOfLine (line : SourceStatement) : List SourceStatement :=
  ((splitStatements line.text).map Text.trim).filterMap fun text =>
    if text.isEmpty then none else some ⟨line.line, text⟩

/-- The statements of a text. -/
def statements (source : List Char) : List SourceStatement :=
  (logicalLines source).flatMap statementsOfLine

end Layout

end SlashScript
