/-
Regular expressions as trees, with the flags of their text already applied: texts and sets of
characters, places between characters, repetition, concatenation and choice. The functions that
build larger trees from smaller ones leave out what matches nothing of its own, so that a tree
shows what a search has to do.
-/

import SlashScript.Text.CodeSet

namespace SlashScript.Pattern

open Text

/-- Places in a text where a pattern matches without taking a character. -/
inductive Boundary where
  | textStart
  | textEnd
  /-- The start of a line; lines may also be ended by carriage returns. -/
  | lineStart (withReturn : Bool)
  | lineEnd (withReturn : Bool)
  | wordBoundary (negated : Bool) (wordChars : CodeSet)
  | wordStart (wordChars : CodeSet)
  | wordEnd (wordChars : CodeSet)
  /-- A place that no word character comes before. -/
  | wordStartHalf (wordChars : CodeSet)
  /-- A place that no word character follows. -/
  | wordEndHalf (wordChars : CodeSet)

/-- A regular expression. -/
inductive Tree where
  | empty
  /-- These characters one after the other. -/
  | literal (chars : List Char)
  /-- One character of a set. -/
  | set (chars : CodeSet)
  | boundary (place : Boundary)
  /-- A part whose match could be asked for by its number. -/
  | capture (tree : Tree)
  | concat (trees : List Tree)
  /-- An earlier alternative is preferred to a later one. -/
  | choice (trees : List Tree)
  /-- At least `least` and, if there is a bound, at most `most` times, as often as possible or,
  if it is lazy, as rarely as possible. -/
  | repetition (tree : Tree) (least : Nat) (most : Option Nat) (isLazy : Bool)

namespace Tree

/-! ### Trees that match without taking a character -/

mutual

/-- Whether a tree can match without taking a character. -/
def matchesEmpty : Tree → Bool
  | empty => true
  | literal chars => chars.isEmpty
  | set _ => false
  | boundary _ => true
  | capture tree => tree.matchesEmpty
  | concat trees => allMatchEmpty trees
  | choice trees => anyMatchesEmpty trees
  | repetition tree least _ _ => least == 0 || tree.matchesEmpty

/-- Whether all of several trees can match without taking a character. -/
def allMatchEmpty : List Tree → Bool
  | [] => true
  | tree :: rest => tree.matchesEmpty && allMatchEmpty rest

/-- Whether one of several trees can match without taking a character. -/
def anyMatchesEmpty : List Tree → Bool
  | [] => false
  | tree :: rest => tree.matchesEmpty || anyMatchesEmpty rest

end

mutual

/-- Whether a tree never takes a character. -/
def neverTakes : Tree → Bool
  | empty => true
  | literal chars => chars.isEmpty
  | set _ => false
  | boundary _ => true
  | capture tree => tree.neverTakes
  | concat trees => noneTakes trees
  | choice trees => noneTakes trees
  | repetition tree _ most _ => most == some 0 || tree.neverTakes

/-- Whether none of several trees ever takes a character. -/
def noneTakes : List Tree → Bool
  | [] => true
  | tree :: rest => tree.neverTakes && noneTakes rest

end

/-! ### Building trees -/

/-- The tree of one character of a set. -/
def ofSet (chars : CodeSet) : Tree :=
  match chars.runs with
  | [(first, last)] => if first = last then literal [Char.ofNat first] else .set chars
  | _ => .set chars

/-- The trees that a concatenation with a tree is made of. -/
def factors : Tree → List Tree
  | empty => []
  | concat trees => trees
  | tree => [tree]

/-- Puts a tree in front of others. Two literals make one. -/
def attach (tree : Tree) (trees : List Tree) : List Tree :=
  match tree, trees with
  | literal chars, literal others :: rest => literal (chars ++ others) :: rest
  | tree, trees => tree :: trees

/-- Several trees one after the other. -/
def ofConcat (trees : List Tree) : Tree :=
  match (trees.flatMap factors).foldr attach [] with
  | [] => empty
  | [tree] => tree
  | trees => concat trees

/-- The trees that a choice with a tree is made of. -/
def alternatives : Tree → List Tree
  | choice trees => trees
  | tree => [tree]

/-- The character of a tree that matches just one. -/
def char? : Tree → Option Char
  | literal [char] => some char
  | _ => none

/-- The set of a tree that matches one character of a set. -/
def set? : Tree → Option CodeSet
  | .set chars => some chars
  | _ => none

/-- One of several trees, the first preferred. Characters and sets to choose from make one set. -/
def ofChoice (trees : List Tree) : Tree :=
  match trees.flatMap alternatives with
  | [tree] => tree
  | trees =>
    match trees.mapM char?, trees.mapM set? with
    | some chars, _ => ofSet (.unionAll (chars.map fun char => .single char.toNat))
    | none, some sets => ofSet (.unionAll sets)
    | none, none => choice trees

/-- The repetition of a tree. What never takes a character is repeated at most once. -/
def ofRepetition (tree : Tree) (least : Nat) (most : Option Nat) (isLazy : Bool) : Tree :=
  let (least, most) :=
    if tree.neverTakes then (min least 1, some (min (most.getD 1) 1)) else (least, most)
  match least, most with
  | 0, some 0 => empty
  | 1, some 1 => tree
  | least, most => repetition tree least most isLazy

end Tree

end SlashScript.Pattern
