/-
Complaints about regular expressions. A complaint names the stretch of the pattern it is about,
sometimes with an earlier stretch that it contradicts, and its text shows the pattern with both
stretches underlined.
-/

import SlashScript.Text.Lines

namespace SlashScript.Pattern

/-- The number of groups, sets and other compound parts of a pattern that may lie within each
other. -/
def nestingLimit : Nat := 250

/-- The reasons for which a pattern is refused. -/
inductive Cause where
  | classEscapeInvalid
  | classRangeInvalid
  | classRangeLiteral
  | classUnclosed
  | decimalInvalid
  | escapeHexEmpty
  | escapeHexInvalid
  | escapeHexInvalidDigit
  | escapeUnexpectedEnd
  | escapeUnrecognized
  | flagDanglingNegation
  | flagDuplicate
  | flagRepeatedNegation
  | flagUnexpectedEnd
  | flagUnrecognized
  | groupNameDuplicate
  | groupNameEmpty
  | groupNameInvalid
  | groupNameUnexpectedEnd
  | groupUnclosed
  | groupUnopened
  | nestingTooDeep
  | repetitionCountInvalid
  | repetitionCountEmpty
  | repetitionCountUnclosed
  | repetitionMissing
  | boundaryUnclosed
  | boundaryUnrecognized
  | boundaryUnexpectedEnd
  | propertyInvalid
  | propertyNotFound
  | propertyValueNotFound
  | unsupportedBackreference
  | unsupportedLookAround
  | unicodeNotAllowed
  | matchesInvalidText

/-- The text of a reason. -/
def Cause.message : Cause → String
  | classEscapeInvalid => "invalid escape sequence found in character class"
  | classRangeInvalid => "invalid character class range, the start must be <= the end"
  | classRangeLiteral => "invalid range boundary, must be a literal"
  | classUnclosed => "unclosed character class"
  | decimalInvalid => "decimal literal invalid"
  | escapeHexEmpty => "hexadecimal literal empty"
  | escapeHexInvalid => "hexadecimal literal is not a Unicode scalar value"
  | escapeHexInvalidDigit => "invalid hexadecimal digit"
  | escapeUnexpectedEnd => "incomplete escape sequence, reached end of pattern prematurely"
  | escapeUnrecognized => "unrecognized escape sequence"
  | flagDanglingNegation => "dangling flag negation operator"
  | flagDuplicate => "duplicate flag"
  | flagRepeatedNegation => "flag negation operator repeated"
  | flagUnexpectedEnd => "expected flag but got end of regex"
  | flagUnrecognized => "unrecognized flag"
  | groupNameDuplicate => "duplicate capture group name"
  | groupNameEmpty => "empty capture group name"
  | groupNameInvalid => "invalid capture group character"
  | groupNameUnexpectedEnd => "unclosed capture group name"
  | groupUnclosed => "unclosed group"
  | groupUnopened => "unopened group"
  | nestingTooDeep =>
    s!"exceed the maximum number of nested parentheses/brackets ({nestingLimit})"
  | repetitionCountInvalid => "invalid repetition count range, the start must be <= the end"
  | repetitionCountEmpty => "repetition quantifier expects a valid decimal"
  | repetitionCountUnclosed => "unclosed counted repetition"
  | repetitionMissing => "repetition operator missing expression"
  | boundaryUnclosed =>
    "special word boundary assertion is either unclosed or contains an invalid character"
  | boundaryUnrecognized =>
    "unrecognized special word boundary assertion, valid choices are: start, end, " ++
      "start-half or end-half"
  | boundaryUnexpectedEnd =>
    "found either the beginning of a special word boundary or a bounded repetition on a \\b " ++
      "with an opening brace, but no closing brace"
  | propertyInvalid => "invalid Unicode character class"
  | propertyNotFound => "Unicode property not found"
  | propertyValueNotFound => "Unicode property value not found"
  | unsupportedBackreference => "backreferences are not supported"
  | unsupportedLookAround =>
    "look-around, including look-ahead and look-behind, is not supported"
  | unicodeNotAllowed => "Unicode not allowed here"
  | matchesInvalidText => "pattern can match invalid UTF-8"

/-- A stretch of a pattern: the places before its first character and after its last. -/
structure Span where
  start : Nat
  stop : Nat

/-- A refused pattern. -/
structure Complaint where
  span : Span
  /-- The earlier stretch that the complaint contradicts. -/
  earlier : Option Span
  cause : Cause

/-! ### The pattern with its stretches underlined -/

/-- A place as its line and column, both counted from one. -/
structure Place where
  line : Nat
  column : Nat

/-- The place before the character with this index. -/
def placeAt (pattern : List Char) (index : Nat) : Place :=
  (pattern.take index).foldl
    (fun place char => if char = '\n' then ⟨place.line + 1, 1⟩ else ⟨place.line, place.column + 1⟩)
    ⟨1, 1⟩

/-- Marks under the columns of stretches on one line, given from left to right as first column
and length. A stretch of no length is marked with one sign. -/
def marks (column : Nat) : List (Nat × Nat) → List Char
  | [] => []
  | (first, length) :: rest =>
    let length := max 1 length
    List.replicate (first - 1 - column) ' ' ++ List.replicate length '^' ++
      marks (max column (first - 1) + length) rest

/-- Stretches in the order in which they are marked. -/
def inOrder (left right : Place × Place) : Bool :=
  left.1.line < right.1.line ||
    (left.1.line == right.1.line && left.1.column ≤ right.1.column)

/-- A number with blanks before it up to a width. -/
def padLeft (width number : Nat) : List Char :=
  let digits := Nat.toDigits 10 number
  List.replicate (width - digits.length) ' ' ++ digits

/-- The lines of the pattern, numbered if there are several, with marks under the stretches that
lie on one line. -/
def underlined (pattern : List Char) (stretches : List (Place × Place)) : List Char :=
  let lines := Text.lines pattern
  let count := lines.length + (if pattern.getLast? = some '\n' then 1 else 0)
  let width := if count ≤ 1 then 0 else (Nat.toDigits 10 count).length
  let indent := if width = 0 then 4 else width + 2
  (lines.zipIdx 1).flatMap fun (line, number) =>
    let head := if width = 0 then List.replicate 4 ' ' else padLeft width number ++ [':', ' ']
    let here := (stretches.filter fun stretch => stretch.1.line == number).map fun stretch =>
      (stretch.1.column, stretch.2.column - stretch.1.column)
    let below :=
      if here.isEmpty then [] else List.replicate indent ' ' ++ marks 0 here ++ ['\n']
    head ++ line ++ ['\n'] ++ below

/-- The text of a complaint about a pattern. -/
def Complaint.message (pattern : String) (complaint : Complaint) : String :=
  let chars := pattern.toList
  let stretches := (complaint.span :: complaint.earlier.toList).map fun span =>
    (placeAt chars span.start, placeAt chars span.stop)
  let sorted := stretches.mergeSort inOrder
  let oneLine := sorted.filter fun stretch => stretch.1.line == stretch.2.line
  let shown := String.ofList (underlined chars oneLine)
  if chars.contains '\n' then
    let divider := String.ofList (List.replicate 79 '~')
    let notes := (sorted.filter fun stretch => stretch.1.line != stretch.2.line).map
      fun (start, stop) =>
        s!"on line {start.line} (column {start.column}) " ++
          s!"through line {stop.line} (column {stop.column - 1})"
    let noteText := if notes.isEmpty then "" else Text.joinLines notes ++ "\n"
    "regex parse error:\n" ++ divider ++ "\n" ++ shown ++ divider ++ "\n" ++ noteText ++
      "error: " ++ complaint.cause.message
  else "regex parse error:\n" ++ shown ++ "error: " ++ complaint.cause.message

end SlashScript.Pattern
