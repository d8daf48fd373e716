/-
Regular expressions as they are written. Every part that a complaint may be about carries the
stretch of the pattern that it takes; flags are still settings at their places, and a set between
brackets is still the list of its members.
-/

import SlashScript.Pattern.Error

namespace SlashScript.Pattern

/-! ### Flags -/

/-- The flags in force at a place of a pattern. -/
structure Flags where
  caseInsensitive : Bool := false
  multiLine : Bool := false
  dotMatchesNewline : Bool := false
  swapGreed : Bool := false
  withReturn : Bool := false
  unicode : Bool := true
  extended : Bool := false

/-- A sign of a flag setting: the letter of a flag, or the sign that turns the later ones off. -/
abbrev FlagSign : Type := Char

namespace Flags

/-- The flags after one has been set or cleared. -/
def set (flags : Flags) (letter : FlagSign) (value : Bool) : Flags :=
  match letter with
  | 'i' => { flags with caseInsensitive := value }
  | 'm' => { flags with multiLine := value }
  | 's' => { flags with dotMatchesNewline := value }
  | 'U' => { flags with swapGreed := value }
  | 'R' => { flags with withReturn := value }
  | 'u' => { flags with unicode := value }
  | _ => { flags with extended := value }

/-- The flags after the signs of a setting, which turn flags on up to the sign that says
otherwise. -/
def apply (flags : Flags) (value : Bool) : List FlagSign → Flags
  | [] => flags
  | sign :: rest =>
    if sign = '-' then flags.apply false rest else (flags.set sign value).apply value rest

end Flags

/-! ### Characters and sets -/

/-- A character, as itself or as an escape. -/
structure Literal where
  span : Span
  char : Char
  /-- Whether it is written as a byte, with two hexadecimal digits. -/
  isByte : Bool

/-- The sets with a one-letter escape. -/
inductive LetterClass where
  | digit
  | blank
  | word

/-- Ranges of ASCII characters that have a name of their own. -/
abbrev AsciiRanges : Type := List (Char × Char)

/-- Operators between the parts of a set. -/
inductive SetOperator where
  | intersection
  | difference
  | symmetricDifference

/-- A set of characters as it is written. -/
inductive WrittenSet where
  | empty (span : Span)
  | literal (char : Literal)
  | range (first last : Literal)
  | ascii (span : Span) (negated : Bool) (ranges : AsciiRanges)
  | letter (span : Span) (negated : Bool) (letterClass : LetterClass)
  | property (span : Span) (negated : Bool) (name : List Char)
  /-- Several members within a pair of brackets. -/
  | union (span : Span) (members : List WrittenSet)
  | operation (span : Span) (operator : SetOperator) (left right : WrittenSet)
  | bracket (span : Span) (negated : Bool) (inside : WrittenSet)

/-- The stretch that a set takes. -/
def WrittenSet.span : WrittenSet → Span
  | empty span => span
  | literal char => char.span
  | range first last => ⟨first.span.start, last.span.stop⟩
  | ascii span _ _ => span
  | letter span _ _ => span
  | property span _ _ => span
  | union span _ => span
  | operation span _ _ _ => span
  | bracket span _ _ => span

/-! ### Patterns -/

/-- Signs and escapes for places between characters. -/
inductive Anchor where
  /-- The start of the text or of a line. -/
  | caret
  /-- The end of the text or of a line. -/
  | dollar
  | textStart
  | textEnd
  | wordBoundary (negated : Bool)
  | wordStart
  | wordEnd
  | wordStartHalf
  | wordEndHalf

/-- The kinds of groups. -/
inductive GroupKind where
  | capturing
  /-- A group that only holds together, with the flags that it sets. -/
  | plain (signs : List FlagSign)

/-- The signs of the flag setting that a group starts with. -/
def GroupKind.signs : GroupKind → List FlagSign
  | capturing => []
  | plain signs => signs

/-- A regular expression as it is written. -/
inductive Written where
  | empty (span : Span)
  /-- A setting of flags for the rest of the group around. -/
  | setting (span : Span) (signs : List FlagSign)
  | literal (char : Literal)
  | dot (span : Span)
  | anchor (span : Span) (place : Anchor)
  | set (chars : WrittenSet)
  /-- The item is asked for lazily when a question mark follows the count. -/
  | repetition (span : Span) (item : Written) (least : Nat) (most : Option Nat) (asks : Bool)
  | group (span : Span) (kind : GroupKind) (inside : Written)
  | concat (span : Span) (items : List Written)
  | choice (span : Span) (alternatives : List Written)

/-- The stretch that a part of a pattern takes. -/
def Written.span : Written → Span
  | empty span => span
  | setting span _ => span
  | literal char => char.span
  | dot span => span
  | anchor span _ => span
  | set chars => chars.span
  | repetition span _ _ _ _ => span
  | group span _ _ => span
  | concat span _ => span
  | choice span _ => span

end SlashScript.Pattern
