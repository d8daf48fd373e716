/-
The meaning of a written pattern: its tree under the flags in force at every place. A pattern can
be well formed and have no meaning, because a property is not known or because it would match what
is not text; where several parts have none, the complaint is about the first of them, and about the
members of a set before the set.
-/

import SlashScript.Pattern.Basic
import SlashScript.Pattern.Property
import SlashScript.Pattern.Nesting
import SlashScript.Pattern.Parser
import SlashScript.Text.Folding

namespace SlashScript.Pattern

open Text

/-! ### Sets with a letter of their own -/

/-- Digits of every script. -/
def digitChars : CodeSet :=
  .ofStretches decimalNumbers

/-- Blanks of every script. -/
def blankChars : CodeSet :=
  .ofStretches Trait.whiteSpace.table

/-- Characters of every script that may stand in a word. -/
def wordChars : CodeSet :=
  .ofStretches (Trait.alphabetic.table ++ nonspacingMarks ++ spacingMarks ++ enclosingMarks ++
    decimalNumbers ++ connectorPunctuations ++ Trait.joinControl.table)

/-- The characters of a range. -/
def charRange (first last : Char) : CodeSet :=
  .range first.toNat last.toNat

/-- The characters of any of several ranges. -/
def charRanges (ranges : AsciiRanges) : CodeSet :=
  .unionAll (ranges.map fun (first, last) => charRange first last)

/-- Word characters of ASCII. -/
def asciiWordChars : CodeSet :=
  charRanges [('0', '9'), ('A', 'Z'), ('_', '_'), ('a', 'z')]

/-- The characters of a set with a letter, of every script or of ASCII alone. -/
def LetterClass.codes (letterClass : LetterClass) (unicode : Bool) : CodeSet :=
  match letterClass, unicode with
  | digit, true => digitChars
  | blank, true => blankChars
  | word, true => wordChars
  | digit, false => charRange '0' '9'
  | blank, false => charRanges [('\t', '\r'), (' ', ' ')]
  | word, false => asciiWordChars

/-! ### Sets under flags -/

namespace Flags

/-- What a complement is taken in: all characters, or all values of a byte. -/
def everything (flags : Flags) : CodeSet :=
  if flags.unicode then .all else .range 0 0xFF

/-- A set with all that differs from one of its members only in case, if case is to be ignored.
Outside of Unicode only the letters of ASCII have a case. -/
def fold (flags : Flags) (codes : CodeSet) : CodeSet :=
  let capitals : Shift := ⟨⟨0x41, 0x5A, 1⟩, 32⟩
  if !flags.caseInsensitive then codes
  else if flags.unicode then codes.folded
  else (codes.union (codes.shifted capitals)).union (codes.unshifted capitals)

/-- The complement of a set, if it is asked for. -/
def negate (flags : Flags) (negated : Bool) (codes : CodeSet) : CodeSet :=
  if negated then flags.everything.difference codes else codes

/-- A set written at some place, unless it holds single bytes that are no characters. -/
def checkText (flags : Flags) (span : Span) (codes : CodeSet) : Except Complaint CodeSet :=
  if flags.unicode || codes.changes.all (· ≤ 0x80) then .ok codes
  else .error ⟨span, none, .matchesInvalidText⟩

/-- A set after case, complement and the check that it matches text. -/
def finishSet (flags : Flags) (span : Span) (negated : Bool) (codes : CodeSet) :
    Except Complaint CodeSet :=
  flags.checkText span (flags.negate negated (flags.fold codes))

end Flags

/-- A literal outside of sets, unless it is a single byte that is no character. -/
def Literal.checkText (flags : Flags) (literal : Literal) : Except Complaint Char :=
  if !flags.unicode && literal.isByte && 0x80 ≤ literal.char.toNat then
    .error ⟨literal.span, none, .matchesInvalidText⟩
  else .ok literal.char

/-- A literal within a set, where only ASCII can stand for bytes. -/
def Literal.member (flags : Flags) (literal : Literal) : Except Complaint Char := do
  let char ← literal.checkText flags
  if !flags.unicode && 0x80 ≤ char.toNat then .error ⟨literal.span, none, .unicodeNotAllowed⟩
  else .ok char

/-- The characters that an operator makes of two sets. -/
def SetOperator.codes (operator : SetOperator) (left right : CodeSet) : CodeSet :=
  match operator with
  | intersection => left.intersection right
  | difference => left.difference right
  | symmetricDifference => left.symmetricDifference right

namespace WrittenSet

mutual

/-- The characters of a set. -/
def codes (flags : Flags) : WrittenSet → Except Complaint CodeSet
  | empty _ => .ok .empty
  | literal char => do
    let char ← char.member flags
    .ok (.single char.toNat)
  | range first last => do
    let first ← first.member flags
    let last ← last.member flags
    .ok (charRange first last)
  | ascii span negated ranges => flags.finishSet span negated (charRanges ranges)
  | letter span negated letterClass =>
    flags.checkText span (flags.negate negated (letterClass.codes flags.unicode))
  | property span negated name =>
    if !flags.unicode then .error ⟨span, none, .unicodeNotAllowed⟩
    else
      let query := PropertyQuery.ofText name
      match query.codes with
      | .ok codes => flags.finishSet span (negated != query.isUnequal) codes
      | .error cause => .error ⟨span, none, cause⟩
  | union _ members => do
    let sets ← codesOfAll flags members
    .ok (.unionAll sets)
  | operation _ operator left right => do
    let left ← codes flags left
    let right ← codes flags right
    .ok (operator.codes (flags.fold left) (flags.fold right))
  | bracket span negated inside => do
    let inside ← codes flags inside
    flags.finishSet span negated inside

/-- The characters of each of several sets. -/
def codesOfAll (flags : Flags) : List WrittenSet → Except Complaint (List CodeSet)
  | [] => .ok []
  | set :: rest => do
    let first ← codes flags set
    let others ← codesOfAll flags rest
    .ok (first :: others)

end

end WrittenSet

/-! ### Patterns under flags -/

/-- The tree of a character. -/
def charTree (flags : Flags) (char : Char) : Tree :=
  .ofSet (flags.fold (.single char.toNat))

/-- The characters that a dot matches. -/
def dotChars (flags : Flags) : CodeSet :=
  let newline : CodeSet := .single '\n'.toNat
  if flags.dotMatchesNewline then .all
  else if flags.withReturn then CodeSet.all.difference (newline.union (.single '\r'.toNat))
  else CodeSet.all.difference newline

/-- The place that an anchor stands for. -/
def Anchor.boundary (flags : Flags) (anchor : Anchor) : Boundary :=
  let wordChars := LetterClass.word.codes flags.unicode
  match anchor with
  | caret => if flags.multiLine then .lineStart flags.withReturn else .textStart
  | dollar => if flags.multiLine then .lineEnd flags.withReturn else .textEnd
  | textStart => .textStart
  | textEnd => .textEnd
  | wordBoundary negated => .wordBoundary negated wordChars
  | wordStart => .wordStart wordChars
  | wordEnd => .wordEnd wordChars
  | wordStartHalf => .wordStartHalf wordChars
  | wordEndHalf => .wordEndHalf wordChars

namespace Written

mutual

/-- The tree of a part of a pattern under the flags before it, with the flags after it. -/
def meaning (flags : Flags) : Written → Except Complaint (Tree × Flags)
  | empty _ => .ok (.empty, flags)
  | setting _ signs => .ok (.empty, flags.apply true signs)
  | literal char => do
    let char ← char.checkText flags
    .ok (charTree flags char, flags)
  | dot span =>
    if flags.unicode then .ok (.set (dotChars flags), flags)
    else .error ⟨span, none, .matchesInvalidText⟩
  | anchor _ place => .ok (.boundary (place.boundary flags), flags)
  | set chars => do
    let codes ← chars.codes flags
    .ok (.ofSet codes, flags)
  | repetition _ item least most asks => do
    let (tree, flags) ← meaning flags item
    .ok (.ofRepetition tree least most (asks != flags.swapGreed), flags)
  | group _ kind inside => do
    let (tree, _) ← meaning (flags.apply true kind.signs) inside
    match kind with
    | .capturing => .ok (.capture tree, flags)
    | .plain _ => .ok (tree, flags)
  | concat _ items => do
    let (trees, flags) ← meaningOfAll flags items
    .ok (.ofConcat trees, flags)
  | choice _ alternatives => do
    let (trees, flags) ← meaningOfAll flags alternatives
    .ok (.ofChoice trees, flags)

/-- The trees of several parts, each under the flags after the one before it. -/
def meaningOfAll (flags : Flags) : List Written → Except Complaint (List Tree × Flags)
  | [] => .ok ([], flags)
  | part :: rest => do
    let (tree, flags) ← meaning flags part
    let (trees, flags) ← meaningOfAll flags rest
    .ok (tree :: trees, flags)

end

end Written

/-- The tree of a pattern. -/
def Tree.parse (pattern : List Char) : Except Complaint Tree := do
  let written ← Written.parse pattern
  let written ← written.checkNesting
  let (tree, _) ← written.meaning {}
  .ok tree

end SlashScript.Pattern
