/-
Searching a text for a match of a regular expression. The tree becomes a list of instructions,
and the search follows all ways through them at once, one character of the text at a time. The
ways are kept in order of preference, and of two ways that reach the same instruction the less
preferred one is dropped; so the time is bounded by the product of the lengths, and the match
found is the leftmost one and of those the most preferred.
-/

import SlashScript.Pattern.Basic

namespace SlashScript.Pattern

open Text

/-- One instruction; other instructions are named by their number. -/
inductive Instruction where
  | accept
  | char (chars : CodeSet) (next : Nat)
  | boundary (boundary : Boundary) (next : Nat)
  /-- Both ways, the first one preferred. -/
  | split (preferred other : Nat)

/-- The instructions of a pattern. -/
abbrev Program : Type := Array Instruction

namespace Program

/-- Adds an instruction and returns its number. -/
def emit (instruction : Instruction) : StateM Program Nat := fun program =>
  (program.size, program.push instruction)

/-- A fork whose ways are entered later. -/
def emitFork : StateM Program Nat :=
  emit (.split 0 0)

/-- Enters the ways of a fork: the one inside first, unless the repetition is lazy. -/
def setFork (fork inside outside : Nat) (isLazy : Bool) : StateM Program Unit :=
  modify fun program =>
    program.setIfInBounds fork (if isLazy then .split outside inside else .split inside outside)

/-- Repeats a step that puts instructions before those with the given number. -/
def times (step : Nat → StateM Program Nat) : Nat → Nat → StateM Program Nat
  | 0, next => pure next
  | count + 1, next => do times step count (← step next)

/-- Adds the instructions that take characters one after the other. -/
def addLiteral : List Char → Nat → StateM Program Nat
  | [], next => pure next
  | char :: rest, next => do emit (.char (.single char.toNat) (← addLiteral rest next))

/-- Adds the instructions of a repetition, given the step that adds one copy of what is repeated. -/
def addRepetition (copy : Nat → StateM Program Nat) (matchesEmpty : Bool) (least : Nat)
    (most : Option Nat) (isLazy : Bool) (next : Nat) : StateM Program Nat :=
  match most with
  | some most => do
    let optional (inside : Nat) : StateM Program Nat := do
      let body ← copy inside
      let fork ← emitFork
      setFork fork body next isLazy
      pure fork
    let start ← times optional (most - least) next
    times copy least start
  | none => do
    let fork ← emitFork
    let body ← copy fork
    setFork fork body next isLazy
    if least = 0 then
      if matchesEmpty then
        let entry ← emitFork
        setFork entry body next isLazy
        pure entry
      else pure fork
    else times copy (least - 1) body

mutual

/-- Adds the instructions of a tree before the instruction with the given number, and returns
the number of the first. -/
def add : Tree → Nat → StateM Program Nat
  | .empty, next => pure next
  | .literal chars, next => addLiteral chars next
  | .set chars, next => emit (.char chars next)
  | .boundary place, next => emit (.boundary place next)
  | .capture tree, next => add tree next
  | .concat trees, next => addConcat trees next
  | .choice trees, next => addChoice trees next
  | .repetition tree least most isLazy, next =>
    addRepetition (add tree) tree.matchesEmpty least most isLazy next

/-- Adds the instructions of several trees one after the other. -/
def addConcat : List Tree → Nat → StateM Program Nat
  | [], next => pure next
  | tree :: rest, next => do add tree (← addConcat rest next)

/-- Adds the instructions of alternatives. Without any, the way ends at a fork into itself. -/
def addChoice : List Tree → Nat → StateM Program Nat
  | [], _ => do
    let fork ← emitFork
    setFork fork fork fork false
    pure fork
  | [tree], next => add tree next
  | tree :: rest, next => do
    let other ← addChoice rest next
    let preferred ← add tree next
    emit (.split preferred other)

end

/-- The instructions of a tree and the number of the first one. -/
def ofTree (tree : Tree) : Program × Nat :=
  let (start, program) := (add tree 0).run #[.accept]
  (program, start)

end Program

/-! ### Places in a text -/

/-- Whether a boundary lies between the character before a place and the one after it. -/
def Boundary.holds (boundary : Boundary) (before after : Option Char) : Bool :=
  match boundary with
  | .textStart => before.isNone
  | .textEnd => after.isNone
  | .lineStart false => before.all (· == '\n')
  | .lineEnd false => after.all (· == '\n')
  | .lineStart true =>
    before.all (· == '\n') || (before == some '\r' && after != some '\n')
  | .lineEnd true =>
    after.all (· == '\r') || (after == some '\n' && before != some '\r')
  | .wordBoundary negated wordChars => (before.any wordChars.holds != after.any wordChars.holds) != negated
  | .wordStart wordChars => !before.any wordChars.holds && after.any wordChars.holds
  | .wordEnd wordChars => before.any wordChars.holds && !after.any wordChars.holds
  | .wordStartHalf wordChars => !before.any wordChars.holds
  | .wordEndHalf wordChars => !after.any wordChars.holds

/-! ### Following all ways at once -/

/-- A way through the instructions: where it is and at which index of the text it started. -/
structure Way where
  instruction : Nat
  start : Nat

/-- Ways in order of preference, with the instructions that they have reached so far. -/
structure Ways where
  reached : Array Bool
  /-- Least preferred first. -/
  reversed : List Way

/-- Follows ways up to the instructions that take a character or accept. The limit is on the
number of instructions that can be looked at. -/
def Ways.follow (program : Program) (before after : Option Char) (start : Nat) :
    Nat → List Nat → Ways → Ways
  | 0, _, ways => ways
  | _, [], ways => ways
  | limit + 1, number :: pending, ways =>
    if ways.reached.getD number true then Ways.follow program before after start limit pending ways
    else
      let ways := { ways with reached := ways.reached.setIfInBounds number true }
      match program[number]? with
      | none => Ways.follow program before after start limit pending ways
      | some (.split preferred other) =>
        Ways.follow program before after start limit (preferred :: other :: pending) ways
      | some (.boundary boundary next) =>
        let pending := if boundary.holds before after then next :: pending else pending
        Ways.follow program before after start limit pending ways
      | some _ =>
        Ways.follow program before after start limit pending
          { ways with reversed := ⟨number, start⟩ :: ways.reversed }

/-- No ways. -/
def Ways.none (program : Program) : Ways :=
  ⟨Array.replicate program.size false, []⟩

/-- Adds the ways that go on from an instruction. -/
def Ways.add (program : Program) (before after : Option Char) (ways : Ways) (way : Way) : Ways :=
  Ways.follow program before after way.start (3 * program.size + 3) [way.instruction] ways

/-- A match: the index where it starts and the index after it. -/
structure Match where
  start : Nat
  stop : Nat

/-- Takes one character with every way, in order of preference, until one accepts: the ways after
the character, and the match if one accepts. -/
def takeChar (program : Program) (char after : Option Char) (index : Nat) :
    List Way → Ways → Ways × Option Match
  | [], ways => (ways, none)
  | way :: others, ways =>
    match program[way.instruction]?, char with
    | some .accept, _ => (ways, some ⟨way.start, index⟩)
    | some (.char chars next), some taken =>
      if chars.holds taken then
        takeChar program char after index others (ways.add program char after ⟨next, way.start⟩)
      else takeChar program char after index others ways
    | _, _ => takeChar program char after index others ways

/-- Searches the rest of a text. A new way starts at every index until a match is found; a later
match of a more preferred way replaces an earlier one. -/
def searchFrom (program : Program) (entry : Nat) (index : Nat) (before : Option Char)
    (ways : Ways) (found : Option Match) : List Char → Option Match
  | [] =>
    let ways := if found.isNone then ways.add program before none ⟨entry, index⟩ else ways
    let (_, better) := takeChar program none none index ways.reversed.reverse (Ways.none program)
    better.or found
  | char :: rest =>
    let ways := if found.isNone then ways.add program before (some char) ⟨entry, index⟩ else ways
    let (ways, better) :=
      takeChar program (some char) rest.head? index ways.reversed.reverse (Ways.none program)
    let found := better.or found
    if found.isSome && ways.reversed.isEmpty then found
    else searchFrom program entry (index + 1) (some char) ways found rest

/-- The leftmost match of a tree in a text, the most preferred one of those. -/
def Tree.search (tree : Tree) (text : List Char) : Option Match :=
  let (program, entry) := Program.ofTree tree
  searchFrom program entry 0 none (Ways.none program) none text

end SlashScript.Pattern
