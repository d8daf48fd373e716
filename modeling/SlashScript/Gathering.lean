/-
Script text that arrives in pieces. The pieces are gathered in the order of their arrival, and
together they make one text in which every piece starts on a line of its own.
-/

import SlashScript.Text.Lines

namespace SlashScript

/-- A piece of script text. -/
inductive Fragment where
  | line (text : String)
  | chars (characters : List Char)

namespace Fragment

/-- The text of a piece. -/
def text : Fragment → String
  | line text => text
  | chars characters => String.ofList characters

end Fragment

/-- The pieces that have arrived, in order. -/
structure Gathering where
  texts : Array String

namespace Gathering

/-- No pieces. -/
def empty : Gathering := ⟨#[]⟩

/-- The number of pieces. -/
def size (gathering : Gathering) : Nat :=
  gathering.texts.size

/-- Whether there are no pieces; a piece without text is a piece. -/
def isEmpty (gathering : Gathering) : Bool :=
  gathering.texts.isEmpty

/-- Adds a piece. -/
def append (gathering : Gathering) (fragment : Fragment) : Gathering :=
  ⟨gathering.texts.push fragment.text⟩

/-- The text that the pieces make together. -/
def text (gathering : Gathering) : String :=
  Text.joinLines gathering.texts.toList

@[simp] theorem toList_append (gathering : Gathering) (fragment : Fragment) :
    (gathering.append fragment).texts.toList = gathering.texts.toList ++ [fragment.text] := by
  simp [append]

@[simp] theorem size_append (gathering : Gathering) (fragment : Fragment) :
    (gathering.append fragment).size = gathering.size + 1 := by
  simp [append, size]

@[simp] theorem text_empty : empty.text = "" := rfl

@[simp] theorem text_append_empty (fragment : Fragment) :
    (empty.append fragment).text = fragment.text := rfl

end Gathering

end SlashScript
