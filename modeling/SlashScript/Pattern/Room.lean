/-
The room that a compiled pattern takes. A pattern is counted as an automaton over the bytes of
UTF-8, once as it reads a text forwards and once as it reads it backwards, and is refused if either
needs more than the limit. Copies of a repeated part are counted one by one, so the room is worked
out from the tree and no automaton is built. The count comes close to the bytes that an engine for
such patterns takes and need not meet them exactly.
-/

import SlashScript.Pattern.Basic
import Std.Data.HashSet

namespace SlashScript.Pattern

open Text

/-- The directions in which a text is read. -/
inductive Direction where
  | forwards
  | backwards
deriving DecidableEq

/-- The bytes that a state takes. -/
def stateRoom : Nat := 32

/-- The bytes that a state takes for each range of bytes that it tells from others. -/
def transitionRoom : Nat := 8

/-- The bytes that a fork takes for each way out of it. -/
def wayRoom : Nat := 4

/-- A fork with two ways. -/
def forkRoom : Nat := stateRoom + 2 * wayRoom

/-! ### Words that share their beginnings -/

/-- Neighbouring words by their first letters, with what follows these. -/
def branches {Letter : Type} [BEq Letter] (words : List (List Letter)) :
    List (Letter × List (List Letter)) :=
  words.foldr (fun word groups =>
    match word, groups with
    | [], groups => groups
    | letter :: rest, [] => [(letter, [rest])]
    | letter :: rest, (other, rests) :: groups =>
      if letter == other then (other, rest :: rests) :: groups
      else (letter, [rest]) :: (other, rests) :: groups) []

/-- The number of different beginnings of words up to a length. -/
def beginnings {Letter : Type} [BEq Letter] : Nat → List (List Letter) → Nat
  | 0, _ => 0
  | length + 1, words =>
    ((branches words).map fun (_, rests) => 1 + beginnings length rests).sum

/-- What may follow after beginnings of words up to a length: one list of endings for each
beginning that is no whole word. -/
def continuations {Letter : Type} [BEq Letter] : Nat → List (List Letter) → List (List (List Letter))
  | 0, _ => []
  | length + 1, words =>
    if words.all List.isEmpty then []
    else words :: (branches words).flatMap fun (_, rests) => continuations length rests

/-! ### Sets of characters -/

/-- Bytes from one to another. -/
abbrev ByteRange : Type := UInt8 × UInt8

/-- Divides a run of code points where blocks of the given sizes start, so that within each part
the bytes of UTF-8 range independently of each other. -/
def divideRun : List Nat → Nat × Nat → List (Nat × Nat)
  | [], run => [run]
  | block :: larger, (first, last) =>
    if first / block = last / block then [(first, last)]
    else
      let start := (first + block - 1) / block * block
      let stop := (last + 1) / block * block
      let head := if first < start then [(first, start - 1)] else []
      let middle := if start < stop then divideRun larger (start, stop - 1) else []
      let tail := if stop ≤ last then [(stop, last)] else []
      head ++ middle ++ tail

/-- The byte sequences of a run of code points that all take the same number of bytes. -/
def sequencesOfRun (run : Nat × Nat) : List (List ByteRange) :=
  (divideRun [Nat.pow 2 6, Nat.pow 2 12, Nat.pow 2 18] run).map fun (first, last) =>
    (String.utf8EncodeChar (Char.ofNat first)).zip (String.utf8EncodeChar (Char.ofNat last))

/-- The byte sequences of the characters of a set, in ascending order. -/
def byteSequences (chars : CodeSet) : List (List ByteRange) :=
  let lengths : List CodeSet :=
    [.range 0 0x7F, .range 0x80 0x7FF, CodeSet.all.intersection (.range 0x800 0xFFFF),
      .range 0x10000 0x10FFFF]
  lengths.flatMap fun codes =>
    (chars.intersection codes).runs.flatMap fun run =>
      if run.2 ≤ 0x7F then [[(run.1.toUInt8, run.2.toUInt8)]] else sequencesOfRun run

/-- The greatest number of bytes that a character takes. -/
def longestChar : Nat := 4

/-- The room of a set of characters. Forwards, beginnings with the same continuations share a
state; backwards, only equal beginnings do. -/
def setRoom (direction : Direction) (chars : CodeSet) : Nat :=
  if chars.changes.all (· ≤ 0x80) then 2 * stateRoom + transitionRoom * chars.runs.length
  else
    let sequences := byteSequences chars
    match direction with
    | .forwards =>
      let states := (Std.HashSet.ofList (continuations longestChar sequences)).toList
      let transitions := states.foldl (fun count rests => count + (branches rests).length) 0
      stateRoom * (states.length + 1) + transitionRoom * transitions
    | .backwards =>
      stateRoom * (beginnings longestChar sequences + 2) + wayRoom * sequences.length

/-! ### Literals to choose from -/

/-- Words divided at those that have already ended. -/
def divideAtEnds {Letter : Type} (words : List (List Letter)) : List (List (List Letter)) :=
  words.foldr (fun word parts =>
    match word, parts with
    | [], parts => [] :: parts
    | word, part :: parts => (word :: part) :: parts
    | word, [] => [[word]]) [[]]

/-- The room of the states that tell words up to a length apart, an earlier word being preferred to
a later one that it begins. A word that ends more than once before others go on counts once. -/
def wordsRoom : Nat → List (List UInt8) → Nat
  | 0, _ => 0
  | length + 1, words =>
    if words.all List.isEmpty then 0
    else
      let parts := divideAtEnds words
      let endsFirst := (parts.takeWhile List.isEmpty).length
      let ends := parts.length - 1 - (endsFirst - 1)
      let partRoom (part : List (List UInt8)) : Nat :=
        let groups := branches (part.mergeSort fun left right => left.headD 0 ≤ right.headD 0)
        let told := if groups.length = 1 then 0 else transitionRoom * groups.length
        wayRoom + stateRoom + told + (groups.map fun (_, rests) => wordsRoom length rests).sum
      stateRoom + wayRoom * ends + ((parts.filter fun part => !part.isEmpty).map partRoom).sum

/-- The bytes of a text in the order in which they are read. -/
def bytesInOrder (direction : Direction) (chars : List Char) : List UInt8 :=
  let bytes := chars.flatMap String.utf8EncodeChar
  match direction with
  | .forwards => bytes
  | .backwards => bytes.reverse

/-- The room of a choice between literals. -/
def literalsRoom (direction : Direction) (literals : List (List Char)) : Nat :=
  let words := literals.map (bytesInOrder direction)
  let longest := words.foldl (fun longest word => max longest word.length) 0
  stateRoom + wordsRoom (longest + 1) words

/-! ### Trees -/

namespace Tree

/-- The characters of a tree that matches just them. -/
def literal? : Tree → Option (List Char)
  | literal chars => some chars
  | _ => none

/-- The room of the copies of a repeated part, given the room of one copy. -/
def repetitionRoom (copy : Nat) (matchesEmpty : Bool) (least : Nat) (most : Option Nat) : Nat :=
  match least, most with
  | 0, none => if matchesEmpty then copy + 2 * forkRoom + stateRoom else copy + forkRoom
  | least, none => least * copy + forkRoom
  | 0, some 1 => copy + forkRoom + stateRoom
  | least, some most =>
    let needed := if least = 0 then stateRoom else least * copy
    if least = most then needed else needed + stateRoom + (most - least) * (copy + forkRoom)

mutual

/-- The room of a tree. -/
def room (direction : Direction) : Tree → Nat
  | empty => stateRoom
  | literal chars => stateRoom * (chars.map Char.utf8Size).sum
  | set chars => setRoom direction chars
  | boundary _ => stateRoom
  | capture tree =>
    tree.room direction + (if direction = .forwards then 2 * stateRoom else 0)
  | concat trees => roomOfAll direction trees
  | choice trees =>
    match trees.mapM literal? with
    | some literals => literalsRoom direction literals
    | none => roomOfAll direction trees + 2 * stateRoom + wayRoom * trees.length
  | repetition tree least most _ =>
    repetitionRoom (tree.room direction) tree.matchesEmpty least most

/-- The room of several trees. -/
def roomOfAll (direction : Direction) : List Tree → Nat
  | [] => 0
  | tree :: rest => tree.room direction + roomOfAll direction rest

end

mutual

/-- Whether a tree matches only at the start of the text. -/
def onlyAtStart : Tree → Bool
  | boundary .textStart => true
  | capture tree => tree.onlyAtStart
  | concat trees => firstOnlyAtStart trees
  | choice trees => allOnlyAtStart trees
  | repetition tree least _ _ => least != 0 && tree.onlyAtStart
  | _ => false

/-- Whether trees one after the other match only at the start of the text. -/
def firstOnlyAtStart : List Tree → Bool
  | [] => false
  | tree :: rest => tree.onlyAtStart || (tree.neverTakes && firstOnlyAtStart rest)

/-- Whether each of several trees matches only at the start of the text. -/
def allOnlyAtStart : List Tree → Bool
  | [] => true
  | tree :: rest => tree.onlyAtStart && allOnlyAtStart rest

end

mutual

/-- Whether a tree matches only at the end of the text. -/
def onlyAtEnd : Tree → Bool
  | boundary .textEnd => true
  | capture tree => tree.onlyAtEnd
  | concat trees => lastOnlyAtEnd trees
  | choice trees => allOnlyAtEnd trees
  | repetition tree least _ _ => least != 0 && tree.onlyAtEnd
  | _ => false

/-- Whether trees one after the other match only at the end of the text. -/
def lastOnlyAtEnd : List Tree → Bool
  | [] => false
  | tree :: rest => lastOnlyAtEnd rest || (noneTakes rest && tree.onlyAtEnd)

/-- Whether each of several trees matches only at the end of the text. -/
def allOnlyAtEnd : List Tree → Bool
  | [] => true
  | tree :: rest => tree.onlyAtEnd && allOnlyAtEnd rest

end

/-- The room of what skips the text before a match; where there is only one place to start, it is a
single state. -/
def skippingRoom (fixed : Bool) : Nat :=
  if fixed then stateRoom else forkRoom + 2 * stateRoom + transitionRoom

/-- The room of a whole pattern. -/
def totalRoom (direction : Direction) (tree : Tree) : Nat :=
  let fixed := match direction with
    | .forwards => tree.onlyAtStart
    | .backwards => tree.onlyAtEnd
  skippingRoom fixed + (capture tree).room direction + stateRoom

/-- The greatest room that a pattern may take. -/
def roomLimit : Nat := 10 * Nat.pow 2 20

/-- Whether a pattern keeps to the limit in both directions. The room is an approximation of what
an engine takes for the pattern, so right at the limit an engine may decide otherwise. -/
def fits (tree : Tree) : Bool :=
  tree.totalRoom .forwards ≤ roomLimit && tree.totalRoom .backwards ≤ roomLimit

end Tree

end SlashScript.Pattern
