/-
Regular expressions as scripts use them: a pattern is compiled or refused, and a compiled pattern
finds its leftmost match in a text. Patterns whose counted repetitions would multiply into too
large an automaton are refused as well.
-/

import SlashScript.Pattern.Meaning
import SlashScript.Pattern.Room
import SlashScript.Pattern.Search

namespace SlashScript

/-- A compiled regular expression. -/
structure Regex where
  tree : Pattern.Tree

/-- The reasons for which a pattern is refused as a whole. -/
inductive RegexError where
  | syntaxError (pattern : String) (complaint : Pattern.Complaint)
  | tooLarge

namespace RegexError

/-- The text of a refusal. -/
def message : RegexError → String
  | syntaxError pattern complaint => complaint.message pattern
  | tooLarge => s!"Compiled regex exceeds size limit of {Pattern.Tree.roomLimit} bytes."

end RegexError

namespace Regex

/-- Compiles a pattern. -/
def compile (pattern : String) : Except RegexError Regex :=
  match Pattern.Tree.parse pattern.toList with
  | .error complaint => .error (.syntaxError pattern complaint)
  | .ok tree => if tree.fits then .ok ⟨tree⟩ else .error .tooLarge

/-- Whether the text contains a match. -/
def isMatch (regex : Regex) (text : String) : Bool :=
  (regex.tree.search text.toList).isSome

/-- The leftmost match in the text. -/
def find? (regex : Regex) (text : String) : Option String :=
  (regex.tree.search text.toList).map fun found =>
    String.ofList ((text.toList.drop found.start).take (found.stop - found.start))

end Regex

end SlashScript
