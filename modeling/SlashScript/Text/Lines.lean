/-
Physical lines of a text. A line ends at a newline, or at a carriage return followed by a
newline; the last line needs no ending, and an ending at the very end of the text opens no
further line.
-/

namespace SlashScript.Text

/-- A line whose characters are given last first, without the carriage return that belongs to
its ending. -/
def closeLine (reversed : List Char) : List Char :=
  match reversed with
  | '\r' :: earlier => earlier.reverse
  | _ => reversed.reverse

/-- The lines of the remaining text, when the characters of the current line so far are given
last first. -/
def linesFrom (reversed : List Char) : List Char → List (List Char)
  | [] => if reversed.isEmpty then [] else [reversed.reverse]
  | '\n' :: rest => closeLine reversed :: linesFrom [] rest
  | char :: rest => linesFrom (char :: reversed) rest

/-- The lines of a text, without their endings. -/
def lines (chars : List Char) : List (List Char) :=
  linesFrom [] chars

/-- The texts joined by single newlines. -/
def joinLines (texts : List String) : String :=
  "\n".intercalate texts

end SlashScript.Text
