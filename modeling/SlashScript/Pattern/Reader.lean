/-
The small parts of regular expressions: places in the pattern, the blanks and comments that the
extended notation skips, escapes, and sets between brackets. What a part means is not asked here;
of the flags only the one that turns the extended notation on plays a role.
-/

import SlashScript.Pattern.Written
import SlashScript.Text.Blank

namespace SlashScript.Pattern

/-- A place in a pattern, with the characters after it. -/
structure Cursor where
  index : Nat
  rest : List Char

/-- A complaint about a stretch of the pattern. -/
def refuse {Result : Type} (start stop : Nat) (cause : Cause) : Except Complaint Result :=
  .error ⟨⟨start, stop⟩, none, cause⟩

namespace Cursor

/-- The place after the next character. -/
def next (cursor : Cursor) : Cursor :=
  ⟨cursor.index + 1, cursor.rest.tail⟩

/-- The place this many characters further on. -/
def skip (cursor : Cursor) (count : Nat) : Cursor :=
  ⟨cursor.index + count, cursor.rest.drop count⟩

/-- Whether the rest of the pattern starts with a text. -/
def startsWith (cursor : Cursor) (text : String) : Bool :=
  text.toList.isPrefixOf cursor.rest

/-- Whether nothing is left. -/
def atEnd (cursor : Cursor) : Bool :=
  cursor.rest.isEmpty

/-- The place after the blanks and comments of the extended notation. -/
def skipExtended (inComment : Bool) (index : Nat) : List Char → Cursor
  | [] => ⟨index, []⟩
  | char :: rest =>
    if inComment then skipExtended (char != '\n') (index + 1) rest
    else if Text.isBlank char then skipExtended false (index + 1) rest
    else if char = '#' then skipExtended true (index + 1) rest
    else ⟨index, char :: rest⟩

/-- The place after what the notation allows to skip. -/
def skipIgnored (extended : Bool) (cursor : Cursor) : Cursor :=
  if extended then skipExtended false cursor.index cursor.rest else cursor

/-- The place after the next character and what may be skipped behind it. -/
def advance (extended : Bool) (cursor : Cursor) : Cursor :=
  cursor.next.skipIgnored extended

end Cursor

/-! ### Escapes -/

/-- What an escape or a character that stands for itself may be. -/
inductive Primitive where
  | literal (char : Literal)
  | set (chars : WrittenSet)
  | anchor (span : Span) (place : Anchor)

/-- The part of a pattern that a primitive makes outside of sets. -/
def Primitive.written : Primitive → Written
  | literal char => .literal char
  | set chars => .set chars
  | anchor span place => .anchor span place

/-- Characters with a meaning of their own in some place of a pattern. -/
def isMeta (char : Char) : Bool :=
  "\\.+*?()|[]\x7b\x7d^$#&-~".toList.contains char

/-- Characters that may be escaped without need. -/
def isEscapable (char : Char) : Bool :=
  isMeta char ||
    (char.toNat < 0x80 && !char.isAlphanum && char != '<' && char != '>')

/-- Digits of base sixteen. -/
def isHexDigit (char : Char) : Bool :=
  char.isDigit || ('a' ≤ char.toLower && char.toLower ≤ 'f')

/-- The character with a hexadecimal code point. -/
def charOfHex? (digits : List Char) : Option Char :=
  let digit (char : Char) : Nat :=
    if char.isDigit then char.toNat - '0'.toNat else char.toLower.toNat - 'a'.toNat + 10
  let code := digits.foldl (fun code char => 16 * code + digit char) 0
  if code.isValidChar then some (Char.ofNat code) else none

/-- A fixed number of hexadecimal digits, the first of which is next. -/
def readHexDigits (extended : Bool) (start : Nat) (digits : List Char) :
    Nat → Cursor → Except Complaint (Char × Cursor)
  | 0, cursor =>
    match charOfHex? digits.reverse with
    | some char => .ok (char, cursor)
    | none => refuse start cursor.index .escapeHexInvalid
  | count + 1, cursor =>
    match cursor.rest with
    | [] => refuse cursor.index cursor.index .escapeUnexpectedEnd
    | char :: _ =>
      if isHexDigit char then
        readHexDigits extended start (char :: digits) count (cursor.advance extended)
      else refuse cursor.index (cursor.index + 1) .escapeHexInvalidDigit

/-- Characters up to a closing brace that all pass a test, with the place of the brace. The limit
is the number of characters that are left. -/
def readBraced (extended : Bool) (passes : Char → Bool) (cause : Cause) (taken : List Char) :
    Nat → Cursor → Except Complaint (List Char × Cursor)
  | 0, cursor => .ok (taken.reverse, cursor)
  | limit + 1, cursor =>
    match cursor.rest with
    | [] => .ok (taken.reverse, cursor)
    | '\x7d' :: _ => .ok (taken.reverse, cursor)
    | char :: _ =>
      if passes char then
        readBraced extended passes cause (char :: taken) limit (cursor.advance extended)
      else refuse cursor.index (cursor.index + 1) cause

/-- A hexadecimal escape, from the character after its letter on. -/
def readHex (extended : Bool) (count : Nat) (cursor : Cursor) :
    Except Complaint (Char × Cursor) :=
  match cursor.rest with
  | [] => refuse cursor.index cursor.index .escapeUnexpectedEnd
  | '\x7b' :: _ => do
    let brace := cursor.index
    let (digits, closing) ← readBraced extended isHexDigit .escapeHexInvalidDigit []
      cursor.rest.length (cursor.advance extended)
    if closing.atEnd then refuse brace closing.index .escapeUnexpectedEnd
    else
      let after := closing.advance extended
      if digits.isEmpty then refuse brace after.index .escapeHexEmpty
      else
        match charOfHex? digits with
        | some char => .ok (char, after)
        | none => refuse (brace + 1) closing.index .escapeHexInvalid
  | _ => readHexDigits extended cursor.index [] count cursor

/-- A property escape, from the character after its letter on. -/
def readProperty (extended : Bool) (start : Nat) (negated : Bool) (cursor : Cursor) :
    Except Complaint (WrittenSet × Cursor) := do
  match cursor.rest with
  | [] => refuse cursor.index cursor.index .escapeUnexpectedEnd
  | '\x7b' :: _ =>
    let (name, closing) ← readBraced extended (fun _ => true) .propertyInvalid []
      cursor.rest.length (cursor.advance extended)
    if closing.atEnd then refuse closing.index closing.index .escapeUnexpectedEnd
    else .ok (.property ⟨start, closing.next.index⟩ negated name, closing.next)
  | '\\' :: _ => refuse cursor.index (cursor.index + 1) .propertyInvalid
  | letter :: _ =>
    let after := cursor.advance extended
    .ok (.property ⟨start, after.index⟩ negated [letter], after)

/-- A word boundary with a name between braces, if the brace starts one; `none` leaves the brace
to be read as a repetition. -/
def readNamedBoundary (extended : Bool) (start : Nat) (cursor : Cursor) :
    Except Complaint (Option (Anchor × Cursor)) := do
  let isNameChar (char : Char) : Bool := char.isAlpha || char == '-'
  let inside := cursor.advance extended
  match inside.rest with
  | [] => refuse start inside.index .boundaryUnexpectedEnd
  | first :: _ =>
    if !isNameChar first then .ok none
    else
      let rec collect (taken : List Char) : Nat → Cursor → List Char × Cursor
        | 0, cursor => (taken.reverse, cursor)
        | limit + 1, cursor =>
          match cursor.rest with
          | [] => (taken.reverse, cursor)
          | char :: _ =>
            if char.isAlpha || char == '-' then
              collect (char :: taken) limit (cursor.advance extended)
            else (taken.reverse, cursor)
      let (name, closing) := collect [] inside.rest.length inside
      if !closing.startsWith "\x7d" then refuse cursor.index closing.index .boundaryUnclosed
      else
        let found (anchor : Anchor) := .ok (some (anchor, closing.next))
        match String.ofList name with
        | "start" => found .wordStart
        | "end" => found .wordEnd
        | "start-half" => found .wordStartHalf
        | "end-half" => found .wordEndHalf
        | _ => refuse inside.index closing.index .boundaryUnrecognized

/-- The set that an escaped letter stands for, and whether it is a complement. -/
def letterClass? (letter : Char) : Option (LetterClass × Bool) :=
  match letter with
  | 'd' => some (.digit, false)
  | 'D' => some (.digit, true)
  | 's' => some (.blank, false)
  | 'S' => some (.blank, true)
  | 'w' => some (.word, false)
  | 'W' => some (.word, true)
  | _ => none

/-- The control character that an escaped letter stands for. -/
def controlOfLetter? (letter : Char) : Option Char :=
  match letter with
  | 'a' => some '\x07'
  | 'f' => some '\x0C'
  | 't' => some '\t'
  | 'n' => some '\n'
  | 'r' => some '\r'
  | 'v' => some '\x0B'
  | _ => none

/-- The place that an escaped sign stands for. -/
def anchorOfLetter? (letter : Char) : Option Anchor :=
  match letter with
  | 'A' => some .textStart
  | 'z' => some .textEnd
  | 'b' => some (.wordBoundary false)
  | 'B' => some (.wordBoundary true)
  | '<' => some .wordStart
  | '>' => some .wordEnd
  | _ => none

/-- An escape, from its backslash on. -/
def readEscape (extended : Bool) (cursor : Cursor) : Except Complaint (Primitive × Cursor) := do
  let start := cursor.index
  let letterAt := cursor.next
  match letterAt.rest with
  | [] => refuse start letterAt.index .escapeUnexpectedEnd
  | letter :: _ =>
    let after := letterAt.next
    let span : Span := ⟨start, after.index⟩
    if letter.isDigit then refuse start after.index .unsupportedBackreference
    else if letter = 'x' || letter = 'u' || letter = 'U' then
      let count := if letter = 'x' then 2 else if letter = 'u' then 4 else 8
      let digitsAt := letterAt.advance extended
      let (char, after) ← readHex extended count digitsAt
      let isByte := letter = 'x' && !digitsAt.startsWith "\x7b"
      .ok (.literal ⟨⟨start, after.index⟩, char, isByte⟩, after)
    else if letter = 'p' || letter = 'P' then
      let (set, after) ←
        readProperty extended start (letter = 'P') (letterAt.advance extended)
      .ok (.set set, after)
    else
      match letterClass? letter with
      | some (letterClass, negated) => .ok (.set (.letter span negated letterClass), after)
      | none =>
        if isEscapable letter then .ok (.literal ⟨span, letter, false⟩, after)
        else
          match controlOfLetter? letter, anchorOfLetter? letter with
          | some control, _ => .ok (.literal ⟨span, control, false⟩, after)
          | none, some anchor =>
            if letter = 'b' && after.startsWith "\x7b" then
              match ← readNamedBoundary extended start after with
              | some (anchor, after) => .ok (.anchor ⟨start, after.index⟩ anchor, after)
              | none => .ok (.anchor span anchor, after)
            else .ok (.anchor span anchor, after)
          | none, none => refuse start after.index .escapeUnrecognized

/-! ### Sets between brackets -/

/-- The ranges of an ASCII class with a name. -/
def asciiClass? (name : String) : Option AsciiRanges :=
  match name with
  | "alnum" => some [('0', '9'), ('A', 'Z'), ('a', 'z')]
  | "alpha" => some [('A', 'Z'), ('a', 'z')]
  | "ascii" => some [('\x00', '\x7F')]
  | "blank" => some [('\t', '\t'), (' ', ' ')]
  | "cntrl" => some [('\x00', '\x1F'), ('\x7F', '\x7F')]
  | "digit" => some [('0', '9')]
  | "graph" => some [('!', '~')]
  | "lower" => some [('a', 'z')]
  | "print" => some [(' ', '~')]
  | "punct" => some [('!', '/'), (':', '@'), ('[', '\x60'), ('\x7b', '~')]
  | "space" => some [('\t', '\r'), (' ', ' ')]
  | "upper" => some [('A', 'Z')]
  | "word" => some [('0', '9'), ('A', 'Z'), ('_', '_'), ('a', 'z')]
  | "xdigit" => some [('0', '9'), ('A', 'F'), ('a', 'f')]
  | _ => none

/-- The part of a set that is being read: its members so far, last first, and what came before
the last operator. -/
structure OpenSet where
  /-- The stretch from the bracket on that opens the set. -/
  opening : Span
  negated : Bool
  /-- The stretch of the members so far. -/
  span : Span
  members : List WrittenSet
  before : Option (WrittenSet × SetOperator)

/-- The members of a part as one set. -/
def OpenSet.union (current : OpenSet) : WrittenSet :=
  match current.members with
  | [] => .empty current.span
  | [member] => member
  | members => .union current.span members.reverse

/-- A part, with what came before it. -/
def OpenSet.joined (current : OpenSet) : WrittenSet :=
  let union := current.union
  match current.before with
  | none => union
  | some (left, operator) =>
    .operation ⟨left.span.start, union.span.stop⟩ operator left union

/-- The part with one more member. -/
def OpenSet.add (current : OpenSet) (member : WrittenSet) : OpenSet :=
  let start := if current.members.isEmpty then member.span.start else current.span.start
  { current with
    span := ⟨start, member.span.stop⟩
    members := member :: current.members }

/-- The next part of a set, after an operator that ends at a place. -/
def OpenSet.operate (current : OpenSet) (operator : SetOperator) (place : Nat) : OpenSet :=
  { current with
    span := ⟨place, place⟩
    members := []
    before := some (current.joined, operator) }

/-- A hyphen at the start of a set stands for itself; there may be several. The limit is the number
of characters that are left. -/
def readLeadingHyphens (extended : Bool) (current : OpenSet) : Nat → Cursor → OpenSet × Cursor
  | 0, cursor => (current, cursor)
  | limit + 1, cursor =>
    if cursor.startsWith "-" then
      let hyphen : Literal := ⟨⟨cursor.index, cursor.index + 1⟩, '-', false⟩
      readLeadingHyphens extended (current.add (.literal hyphen)) limit (cursor.advance extended)
    else (current, cursor)

/-- Opens a set at its bracket: its complement sign and the signs right after the bracket that
stand for themselves. -/
def openSet (extended : Bool) (cursor : Cursor) : Except Complaint (OpenSet × Cursor) := do
  let start := cursor.index
  let afterBracket := cursor.advance extended
  if afterBracket.atEnd then refuse start afterBracket.index .classUnclosed
  else
    let negated := afterBracket.startsWith "^"
    let inside := if negated then afterBracket.advance extended else afterBracket
    if inside.atEnd then refuse start inside.index .classUnclosed
    else
      let empty : OpenSet := ⟨⟨start, start⟩, negated, ⟨inside.index, inside.index⟩, [], none⟩
      let (current, inside) := readLeadingHyphens extended empty inside.rest.length inside
      if inside.atEnd then refuse start start .classUnclosed
      else if current.members.isEmpty && inside.startsWith "]" then
        let bracket : Literal := ⟨⟨inside.index, inside.index + 1⟩, ']', false⟩
        let after := inside.advance extended
        if after.atEnd then refuse start after.index .classUnclosed
        else
          .ok ({ current.add (.literal bracket) with opening := ⟨start, after.index⟩ }, after)
      else .ok ({ current with opening := ⟨start, inside.index⟩ }, inside)

/-- An ASCII class such as `[:digit:]`, from its bracket on, if there is one. -/
def readAsciiClass? (cursor : Cursor) : Option (WrittenSet × Cursor) :=
  if cursor.startsWith "[:" then
    let afterColon := cursor.skip 2
    let negated := afterColon.startsWith "^"
    let name := if negated then afterColon.next else afterColon
    let letters := name.rest.takeWhile (· != ':')
    let closing := name.skip letters.length
    if closing.startsWith ":]" then
      let after := closing.skip 2
      (asciiClass? (String.ofList letters)).map fun ranges =>
        (.ascii ⟨cursor.index, after.index⟩ negated ranges, after)
    else none
  else none

/-- One end of a range, or an item that is no range. -/
def readSetPrimitive (extended : Bool) (cursor : Cursor) :
    Except Complaint (Primitive × Cursor) :=
  match cursor.rest with
  | '\\' :: _ => readEscape extended cursor
  | char :: _ => .ok (.literal ⟨⟨cursor.index, cursor.index + 1⟩, char, false⟩, cursor.next)
  | [] => refuse cursor.index cursor.index .classUnclosed

/-- A primitive as a member of a set. -/
def Primitive.member : Primitive → Except Complaint WrittenSet
  | literal char => .ok (.literal char)
  | set chars => .ok chars
  | anchor span _ => refuse span.start span.stop .classEscapeInvalid

/-- A primitive as an end of a range. -/
def Primitive.endOfRange : Primitive → Except Complaint Literal
  | literal char => .ok char
  | set chars => refuse chars.span.start chars.span.stop .classRangeLiteral
  | anchor span _ => refuse span.start span.stop .classRangeLiteral

/-- A member of a set: a range, a single character or an escape. A hyphen before a closing
bracket or before another hyphen makes no range. -/
def readSetItem (extended : Bool) (unclosed : Span) (cursor : Cursor) :
    Except Complaint (WrittenSet × Cursor) := do
  let (first, afterFirst) ← readSetPrimitive extended cursor
  let dash := afterFirst.skipIgnored extended
  if dash.atEnd then refuse unclosed.start unclosed.stop .classUnclosed
  else
    let afterDash := dash.advance extended
    if !dash.startsWith "-" || afterDash.startsWith "]" || afterDash.startsWith "-" then
      .ok (← first.member, dash)
    else if afterDash.atEnd then refuse unclosed.start unclosed.stop .classUnclosed
    else
      let (last, afterLast) ← readSetPrimitive extended afterDash
      let low ← first.endOfRange
      let high ← last.endOfRange
      if high.char < low.char then refuse low.span.start high.span.stop .classRangeInvalid
      else .ok (.range low high, afterLast)

/-- A set between brackets, within sets that are still open, innermost first. The limit is the
number of characters that are left. -/
def readSetFrom (extended : Bool) (current : OpenSet) (outer : List OpenSet) :
    Nat → Cursor → Except Complaint (WrittenSet × Cursor)
  | 0, _ => refuse current.opening.start current.opening.stop .classUnclosed
  | limit + 1, cursor => do
    let cursor := cursor.skipIgnored extended
    let operate (operator : SetOperator) :=
      let after := cursor.skip 2
      readSetFrom extended (current.operate operator after.index) outer limit after
    match cursor.rest with
    | [] => refuse current.opening.start current.opening.stop .classUnclosed
    | '[' :: _ =>
      match readAsciiClass? cursor with
      | some (set, after) => readSetFrom extended (current.add set) outer limit after
      | none =>
        let (inner, after) ← openSet extended cursor
        readSetFrom extended inner (current :: outer) limit after
    | ']' :: _ =>
      let after := cursor.next
      let set : WrittenSet :=
        .bracket ⟨current.opening.start, after.index⟩ current.negated current.joined
      match outer with
      | [] => .ok (set, after)
      | around :: outer => readSetFrom extended (around.add set) outer limit after
    | '&' :: '&' :: _ => operate .intersection
    | '-' :: '-' :: _ => operate .difference
    | '~' :: '~' :: _ => operate .symmetricDifference
    | _ =>
      let (member, after) ← readSetItem extended current.opening cursor
      readSetFrom extended (current.add member) outer limit after

/-- A set between brackets, from its opening bracket on. -/
def readSet (extended : Bool) (cursor : Cursor) : Except Complaint (WrittenSet × Cursor) := do
  let (current, after) ← openSet extended cursor
  readSetFrom extended current [] (after.rest.length + 1) after

end SlashScript.Pattern
