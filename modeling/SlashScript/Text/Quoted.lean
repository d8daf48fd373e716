/-
Texts and characters as messages show them: between quotation marks, with escapes for the
quotation mark itself, the backslash, the common controls, and every character that a reader
could not see or could not tell from its neighbour.
-/

import SlashScript.Text.Letter

namespace SlashScript.Text

/-- The code point of a character between braces, in small hexadecimal digits. -/
def escapeCode (char : Char) : List Char :=
  ['\\', 'u', '\x7b'] ++ Nat.toDigits 16 char.toNat ++ ['\x7d']

/-- One character as it is shown between marks of the given kind. -/
def showChar (mark : Char) (char : Char) : List Char :=
  if char = mark then ['\\', mark]
  else if char = '\\' then ['\\', '\\']
  else if char = '\n' then ['\\', 'n']
  else if char = '\r' then ['\\', 'r']
  else if char = '\t' then ['\\', 't']
  else if char = '\x00' then ['\\', '0']
  else if extendsGrapheme char || !isVisible char then escapeCode char
  else [char]

/-- A text between double quotation marks. -/
def quoted (text : String) : String :=
  String.ofList (['"'] ++ text.toList.flatMap (showChar '"') ++ ['"'])

/-- A character between single quotation marks. -/
def quotedChar (char : Char) : String :=
  String.ofList (['\''] ++ showChar '\'' char ++ ['\''])

end SlashScript.Text
