/-
The grammar of regular expressions. A pattern is read from left to right with a stack of the
groups that are open: a character, set, escape or boundary becomes an item of the innermost
group, a repetition changes the item before it, a bar starts the next alternative of the group.
The extended notation, once turned on within a group, holds up to its end.
-/

import SlashScript.Pattern.Reader
import SlashScript.Text.Letter

namespace SlashScript.Pattern

/-- What has been read of a group: its finished alternatives and the items of the one that is
being read, both last first, with the places where the group and this alternative start. -/
structure Level where
  groupStart : Nat
  alternatives : List Written
  start : Nat
  items : List Written

namespace Level

/-- Nothing yet of a group whose inside starts at a place. -/
def startingAt (place : Nat) : Level :=
  ⟨place, [], place, []⟩

/-- The alternative that is being read, if it ends at a place. -/
def alternative (level : Level) (place : Nat) : Written :=
  match level.items with
  | [] => .empty ⟨level.start, place⟩
  | [item] => item
  | items => .concat ⟨level.start, place⟩ items.reverse

/-- The inside of the group, if it ends at a place. -/
def inside (level : Level) (place : Nat) : Written :=
  match level.alternatives with
  | [] => level.alternative place
  | alternatives =>
    .choice ⟨level.groupStart, place⟩ (level.alternative place :: alternatives).reverse

end Level

/-- A group that is open: its parenthesis, its kind, and what stood around it. -/
structure OpenGroup where
  start : Nat
  kind : GroupKind
  extended : Bool
  around : Level

/-- A pattern that is being read. -/
structure Reading where
  cursor : Cursor
  extended : Bool
  level : Level
  groups : List OpenGroup
  /-- The names of groups so far, with their places. -/
  names : List (List Char × Span)

namespace Reading

/-- Adds an item and goes on at a place. -/
def add (reading : Reading) (item : Written) (after : Cursor) : Reading :=
  { reading with
    level := { reading.level with items := item :: reading.level.items }
    cursor := after }

/-! ### Groups -/

/-- The signs of a flag setting, up to the colon or parenthesis that ends it. Those before are
given last first with their places. -/
def readSigns (index : Nat) (signs : List (FlagSign × Nat)) :
    List Char → Except Complaint (List FlagSign × Cursor)
  | [] => refuse index index .flagUnexpectedEnd
  | char :: rest =>
    if char = ':' || char = ')' then
      match signs with
      | ('-', dash) :: _ => refuse dash (dash + 1) .flagDanglingNegation
      | _ => .ok ((signs.map Prod.fst).reverse, ⟨index, char :: rest⟩)
    else if char != '-' && !"imsURux".toList.contains char then
      refuse index (index + 1) .flagUnrecognized
    else
      match signs.find? fun sign => sign.1 == char with
      | some (_, earlier) =>
        let cause := if char = '-' then .flagRepeatedNegation else .flagDuplicate
        .error ⟨⟨index, index + 1⟩, some ⟨earlier, earlier + 1⟩, cause⟩
      | none => readSigns (index + 1) ((char, index) :: signs) rest

/-- Whether a character may stand in the name of a group. -/
def isGroupNameChar (isFirst : Bool) (char : Char) : Bool :=
  char == '_' || Text.isLetter char ||
    (!isFirst && (char == '.' || char == '[' || char == ']' || Text.isNumber char))

/-- The name of a group, up to its closing angle bracket, and the place after that bracket. -/
def readGroupName (start : Nat) (taken : List Char) (index : Nat) :
    List Char → Except Complaint (List Char × Cursor)
  | [] => refuse index index .groupNameUnexpectedEnd
  | char :: rest =>
    if char = '>' then
      if taken.isEmpty then refuse start start .groupNameEmpty
      else .ok (taken.reverse, ⟨index + 1, rest⟩)
    else if isGroupNameChar taken.isEmpty char then
      readGroupName start (char :: taken) (index + 1) rest
    else refuse index (index + 1) .groupNameInvalid

/-- Whether the extended notation is on after a flag setting. -/
def extendedAfter (extended : Bool) (signs : List FlagSign) : Bool :=
  (Flags.apply { extended := extended } true signs).extended

/-- Puts a group on the stack. -/
def enter (reading : Reading) (start : Nat) (kind : GroupKind) (after : Cursor) : Reading :=
  { reading with
    cursor := after
    extended := extendedAfter reading.extended kind.signs
    level := .startingAt after.index
    groups := ⟨start, kind, reading.extended, reading.level⟩ :: reading.groups }

/-- Opens a group with a name. -/
def enterNamed (reading : Reading) (start : Nat) (nameAt : Cursor) :
    Except Complaint Reading := do
  let (name, after) ← readGroupName nameAt.index [] nameAt.index nameAt.rest
  let span : Span := ⟨nameAt.index, nameAt.index + name.length⟩
  match reading.names.find? fun entry => entry.1 == name with
  | some (_, earlier) => .error ⟨span, some earlier, .groupNameDuplicate⟩
  | none =>
    .ok { reading.enter start .capturing after with names := (name, span) :: reading.names }

/-- Opens a group, or sets flags for the rest of the group around. -/
def openGroup (reading : Reading) : Except Complaint Reading := do
  let start := reading.cursor.index
  let inner := reading.cursor.advance reading.extended
  let lookAround := ["?=", "?!", "?<=", "?<!"].find? inner.startsWith
  match lookAround with
  | some sign => refuse start (inner.index + sign.length) .unsupportedLookAround
  | none =>
    if inner.startsWith "?P<" then reading.enterNamed start (inner.skip 3)
    else if inner.startsWith "?<" then reading.enterNamed start (inner.skip 2)
    else if inner.startsWith "?" then
      if inner.next.atEnd then refuse start (start + 1) .groupUnclosed
      else
        let (signs, closing) ← readSigns inner.next.index [] inner.next.rest
        let after := closing.next
        if closing.startsWith ":" then .ok (reading.enter start (.plain signs) after)
        else if signs.isEmpty then refuse inner.index inner.index .repetitionMissing
        else
          .ok { reading.add (.setting ⟨start, after.index⟩ signs) after with
            extended := extendedAfter reading.extended signs }
    else .ok (reading.enter start .capturing inner)

/-- Closes the innermost group. -/
def closeGroup (reading : Reading) : Except Complaint Reading :=
  let place := reading.cursor.index
  let after := reading.cursor.next
  match reading.groups with
  | [] => refuse place after.index .groupUnopened
  | group :: groups =>
    let item : Written := .group ⟨group.start, after.index⟩ group.kind (reading.level.inside place)
    .ok (add
      { reading with extended := group.extended, level := group.around, groups := groups }
      item after)

/-- Starts the next alternative. -/
def nextAlternative (reading : Reading) : Reading :=
  let level := reading.level
  let after := reading.cursor.next
  { reading with
    cursor := after
    level :=
      { level with
        alternatives := level.alternative reading.cursor.index :: level.alternatives
        start := after.index
        items := [] } }

/-! ### Repetition -/

/-- The item that a repetition at the cursor is about, and the items before it. -/
def repeated (reading : Reading) : Except Complaint (Written × List Written) :=
  match reading.level.items with
  | [] | .setting .. :: _ => refuse reading.cursor.index reading.cursor.index .repetitionMissing
  | item :: items => .ok (item, items)

/-- Repeats an item; a question mark right after the count asks for a lazy repetition. -/
def repeatItem (reading : Reading) (item : Written) (items : List Written) (least : Nat)
    (most : Option Nat) (after : Cursor) : Reading :=
  let asks := after.startsWith "?"
  let after := if asks then after.next else after
  let repetition : Written :=
    .repetition ⟨item.span.start, after.index⟩ item least most asks
  { reading with
    cursor := after
    level := { reading.level with items := repetition :: items } }

/-- A repetition with a sign. -/
def repeatBySign (reading : Reading) (least : Nat) (most : Option Nat) :
    Except Complaint Reading := do
  let (item, items) ← reading.repeated
  .ok (reading.repeatItem item items least most reading.cursor.next)

/-- The greatest count that a repetition may name. -/
def greatestCount : Nat := Nat.pow 2 32 - 1

/-- The digits at a place, with what may be skipped after each of them. -/
def takeDigits (extended : Bool) (taken : List Char) : Nat → Cursor → List Char × Cursor
  | 0, cursor => (taken.reverse, cursor)
  | limit + 1, cursor =>
    match cursor.rest with
    | [] => (taken.reverse, cursor)
    | char :: _ =>
      if char.isDigit then takeDigits extended (char :: taken) limit (cursor.advance extended)
      else (taken.reverse, cursor)

/-- The place after the blanks at a place. -/
def skipBlanks (cursor : Cursor) : Cursor :=
  cursor.skip (cursor.rest.takeWhile Text.isBlank).length

/-- A count, blanks around it apart: its value or the complaint about it, and the place after
it. -/
def readCount (extended : Bool) (cursor : Cursor) : Except Complaint Nat × Cursor :=
  let start := skipBlanks cursor
  let (digits, stop) := takeDigits extended [] start.rest.length start
  let value := digits.foldl (fun value digit => 10 * value + (digit.toNat - '0'.toNat)) 0
  if digits.isEmpty then (refuse start.index stop.index .repetitionCountEmpty, skipBlanks stop)
  else if greatestCount < value then (refuse start.index stop.index .decimalInvalid, skipBlanks stop)
  else (.ok value, skipBlanks stop)

/-- A repetition with counts between braces. -/
def repeatByCount (reading : Reading) : Except Complaint Reading := do
  let extended := reading.extended
  let start := reading.cursor.index
  let (item, items) ← reading.repeated
  let inside := reading.cursor.advance extended
  if inside.atEnd then refuse start inside.index .repetitionCountUnclosed
  else
    let (least, afterLeast) := readCount extended inside
    if afterLeast.atEnd then refuse start afterLeast.index .repetitionCountUnclosed
    else
      let finish (least : Nat) (most : Option Nat) (closing : Cursor) : Except Complaint Reading :=
        if !closing.startsWith "\x7d" then refuse start closing.index .repetitionCountUnclosed
        else
          let reading := reading.repeatItem item items least most (closing.advance extended)
          if most.any (· < least) then
            refuse start reading.cursor.index .repetitionCountInvalid
          else .ok reading
      if afterLeast.startsWith "," then
        let afterComma := afterLeast.advance extended
        if afterComma.atEnd then refuse start afterComma.index .repetitionCountUnclosed
        else if afterComma.startsWith "\x7d" then finish (← least) none afterComma
        else
          let least ← least
          let (most, closing) := readCount extended afterComma
          finish least (some (← most)) closing
      else
        let least ← least
        finish least (some least) afterLeast

/-! ### The whole pattern -/

/-- Reads what the cursor is at, which is not the end of the pattern. -/
def step (reading : Reading) (char : Char) : Except Complaint Reading := do
  let cursor := reading.cursor
  let span : Span := ⟨cursor.index, cursor.index + 1⟩
  match char with
  | '(' => reading.openGroup
  | ')' => reading.closeGroup
  | '|' => .ok reading.nextAlternative
  | '[' =>
    let (set, after) ← readSet reading.extended cursor
    .ok (reading.add (.set set) after)
  | '?' => reading.repeatBySign 0 (some 1)
  | '*' => reading.repeatBySign 0 none
  | '+' => reading.repeatBySign 1 none
  | '\x7b' => reading.repeatByCount
  | '\\' =>
    let (primitive, after) ← readEscape reading.extended cursor
    .ok (reading.add primitive.written after)
  | '.' => .ok (reading.add (.dot span) cursor.next)
  | '^' => .ok (reading.add (.anchor span .caret) cursor.next)
  | '$' => .ok (reading.add (.anchor span .dollar) cursor.next)
  | char => .ok (reading.add (.literal ⟨span, char, false⟩) cursor.next)

/-- A pattern that has been read to its end. -/
def finish (reading : Reading) : Except Complaint Written :=
  match reading.groups with
  | group :: _ => refuse group.start (group.start + 1) .groupUnclosed
  | [] => .ok (reading.level.inside reading.cursor.index)

/-- Reads the rest of a pattern. Each step takes at least one character; the limit is their
number. -/
def readFrom : Nat → Reading → Except Complaint Written
  | 0, reading => reading.finish
  | limit + 1, reading =>
    let cursor := reading.cursor.skipIgnored reading.extended
    let reading := { reading with cursor := cursor }
    match cursor.rest with
    | [] => reading.finish
    | char :: _ => do readFrom limit (← step reading char)

end Reading

/-- A pattern as it is written. -/
def Written.parse (pattern : List Char) : Except Complaint Written :=
  Reading.readFrom (pattern.length + 1) ⟨⟨0, pattern⟩, false, .startingAt 0, [], []⟩

end SlashScript.Pattern
