/-
This file shows that a script is refused at its first offending statement. Reading goes from
statement to statement, so what comes before the one that fails was read, and what is left open
there is all that can be wrong with the text above it. What comes below is never looked at.

Only a block that is left open is refused at the end of the text. Its line is that of the innermost
opener that has no closer yet, which is told from the names of the commands alone.
-/

import Mathlib.Data.List.Forall2
import SlashScript.Proofs.Blocks.Joining

namespace SlashScript

/-- A computation that goes from item to item fails at one of them, and looks at none after it. -/
theorem foldlM_eq_error {State Item Reason : Type} {step : State → Item → Except Reason State}
    {items : List Item} {state : State} {reason : Reason} :
    items.foldlM step state = .error reason ↔
      ∃ before item after reached, items = before ++ item :: after ∧
        before.foldlM step state = .ok reached ∧ step reached item = .error reason := by
  constructor
  · intro fails
    induction items generalizing state with
    | nil => cases fails
    | cons item items inductionHypothesis =>
      rw [List.foldlM_cons] at fails
      cases stepped : step state item with
      | error reason' =>
        rw [stepped] at fails
        cases fails
        exact ⟨[], item, items, state, rfl, rfl, stepped⟩
      | ok next =>
        rw [stepped] at fails
        obtain ⟨before, failing, after, reached, rfl, followed, failed⟩ := inductionHypothesis fails
        refine ⟨item :: before, failing, after, reached, rfl, ?_, failed⟩
        rw [List.foldlM_cons]
        exact bind_eq_ok.mpr ⟨next, stepped, followed⟩
  · rintro ⟨before, item, after, reached, rfl, followed, failed⟩
    rw [List.foldlM_append, followed]
    show ((item :: after).foldlM step reached) = _
    rw [List.foldlM_cons, failed]
    rfl

/-! ### The first lines of a text -/

namespace Text

/-- The first lines of a text, with their endings. -/
def firstLines : Nat → List Char → List Char
  | 0, _ => []
  | _ + 1, [] => []
  | count + 1, '\n' :: rest => '\n' :: firstLines count rest
  | count + 1, char :: rest => char :: firstLines (count + 1) rest

theorem linesFrom_firstLines (count : Nat) (reversed chars : List Char) :
    linesFrom reversed (firstLines (count + 1) chars) =
      (linesFrom reversed chars).take (count + 1) := by
  induction chars generalizing count reversed with
  | nil =>
    rw [firstLines, linesFrom]
    split
    · rw [List.take_nil]
    · rw [List.take_succ_cons, List.take_nil]
  | cons char rest inductionHypothesis =>
    by_cases isNewline : char = '\n'
    · rw [isNewline]
      refine congrArg (closeLine reversed :: ·) ?_
      cases count with
      | zero =>
        rw [firstLines, List.take_zero]
        rfl
      | succ count => exact inductionHypothesis count []
    · rw [firstLines.eq_4 count char rest isNewline, linesFrom_cons_of_ne isNewline,
        linesFrom_cons_of_ne isNewline]
      exact inductionHypothesis count (char :: reversed)

theorem lines_firstLines (count : Nat) (chars : List Char) :
    lines (firstLines count chars) = (lines chars).take count := by
  cases count with
  | zero =>
    rw [firstLines, List.take_zero]
    rfl
  | succ count => exact linesFrom_firstLines count [] chars

end Text

/-! ### Where statements start -/

namespace Layout

/-- A logical line starts on the physical line with this number: it is no comment, and what stands
above it does not go on in it. -/
def StartsAt (lines : List (List Char)) (number : Nat) : Prop :=
  ∃ above line below, lines = above ++ line :: below ∧ above.length + 1 = number ∧
    isComment line = false ∧ Closes above

/-- The same where a logical line may be open above the lines: what stands between ends it. -/
def StartsAfter (isOpen : Bool) (lines : List (List Char)) (number : Nat) : Prop :=
  ∃ above line below, lines = above ++ line :: below ∧ above.length + 1 = number ∧
    isComment line = false ∧ Closes above ∧
      (isOpen = true → (above.filter fun line => !isComment line) ≠ [])

theorem StartsAfter.startsAt {isOpen : Bool} {lines : List (List Char)} {number : Nat}
    (starts : StartsAfter isOpen lines number) : StartsAt lines number := by
  obtain ⟨above, line, below, split, sameLine, noComment, closes, _⟩ := starts
  exact ⟨above, line, below, split, sameLine, noComment, closes⟩

theorem startsAfter_first {line : List Char} (noComment : isComment line = false)
    (lines : List (List Char)) : StartsAfter false (line :: lines) 1 :=
  ⟨[], line, lines, rfl, rfl, noComment, closes_nil, nofun⟩

theorem StartsAfter.below_comment {isOpen : Bool} {line : List Char} {lines : List (List Char)}
    {number : Nat} (starts : StartsAfter isOpen lines number) (comment : isComment line = true) :
    StartsAfter isOpen (line :: lines) (number + 1) := by
  obtain ⟨above, start, below, rfl, sameLine, noComment, closes, ends⟩ := starts
  refine ⟨line :: above, start, below, rfl, congrArg (· + 1) sameLine, noComment,
    closes.cons (.inl comment), ?_⟩
  rwa [List.filter_cons_of_neg (by simpa using comment)]

/-- Whatever is open above a line that is no comment, only this line matters to those below. -/
theorem StartsAfter.below_visible {isOpen goesOn : Bool} {line : List Char}
    {lines : List (List Char)} {number : Nat} (starts : StartsAfter goesOn lines number)
    (noComment : isComment line = false) (isGoing : line.getLast? = some '\\' → goesOn = true) :
    StartsAfter isOpen (line :: lines) (number + 1) := by
  obtain ⟨above, start, below, rfl, sameLine, startVisible, closes, ends⟩ := starts
  refine ⟨line :: above, start, below, rfl, congrArg (· + 1) sameLine, startVisible,
    closes.cons (.inr ?_), fun _ => ?_⟩
  · by_cases going : line.getLast? = some '\\'
    · exact .inr (ends (isGoing going))
    · exact .inl going
  · rw [List.filter_cons_of_pos (by simpa using noComment)]
    exact List.cons_ne_nil _ _

/-- A logical line is the one that was open already, or it starts on one of the physical lines,
where none is open. -/
theorem exists_start {pending : Option SourceStatement} {number : Nat}
    {lines : List (List Char)} {logical : SourceStatement}
    (member : logical ∈ logicalLinesFrom pending number lines) :
    (∃ opened, pending = some opened ∧ logical.line = opened.line) ∨
      ∃ index, logical.line = number + index ∧ StartsAfter pending.isSome lines (index + 1) := by
  induction lines generalizing pending number with
  | nil =>
    cases pending with
    | none => cases member
    | some opened =>
      cases List.mem_singleton.mp member
      exact .inl ⟨_, rfl, rfl⟩
  | cons line lines inductionHypothesis =>
    rw [logicalLinesFrom] at member
    by_cases comment : isComment line = true
    · rw [if_pos comment] at member
      rcases inductionHypothesis member with ofOpened | ⟨index, sameLine, starts⟩
      · exact .inl ofOpened
      · exact .inr ⟨index + 1, by omega, starts.below_comment comment⟩
    · have noComment : isComment line = false := eq_false_of_ne_true comment
      -- The logical line to which this physical one belongs.
      have ofOpened (sameLine : logical.line = (pending.getD ⟨number, []⟩).line) :
          (∃ opened, pending = some opened ∧ logical.line = opened.line) ∨
            ∃ index, logical.line = number + index ∧
              StartsAfter pending.isSome (line :: lines) (index + 1) := by
        cases pending with
        | none => exact .inr ⟨0, sameLine, startsAfter_first noComment lines⟩
        | some opened => exact .inl ⟨opened, rfl, sameLine⟩
      rw [if_neg comment] at member
      dsimp only at member
      split at member
      · rcases inductionHypothesis member with ⟨_, ⟨⟩, sameLine⟩ | ⟨index, sameLine, starts⟩
        · exact ofOpened sameLine
        · exact .inr ⟨index + 1, by omega, starts.below_visible noComment fun _ => rfl⟩
      · next ended =>
        rcases List.mem_cons.mp member with rfl | member
        · exact ofOpened rfl
        · rcases inductionHypothesis member with ⟨_, ⟨⟩, _⟩ | ⟨index, sameLine, starts⟩
          exact .inr ⟨index + 1, by omega, starts.below_visible noComment fun goesOn =>
            absurd goesOn ended⟩

theorem mem_statementsOfLine {logical statement : SourceStatement}
    (member : statement ∈ statementsOfLine logical) :
    statement.line = logical.line ∧ statement.text ≠ [] := by
  obtain ⟨text, _, isStatement⟩ := List.mem_filterMap.mp member
  split at isStatement
  · cases isStatement
  · next nonempty =>
    cases isStatement
    exact ⟨rfl, fun empty => nonempty (List.isEmpty_iff.mpr empty)⟩

theorem startsAt_of_mem {source : List Char} {statement : SourceStatement}
    (member : statement ∈ statements source) :
    StartsAt (Text.lines source) statement.line ∧ statement.text ≠ [] := by
  obtain ⟨logical, isLogical, isStatement⟩ := List.mem_flatMap.mp member
  obtain ⟨sameLine, nonempty⟩ := mem_statementsOfLine isStatement
  rw [sameLine]
  rcases exists_start isLogical with ⟨_, ⟨⟩, _⟩ | ⟨index, sameLine, starts⟩
  rw [sameLine, Nat.add_comm]
  exact ⟨starts.startsAt, nonempty⟩

/-- The statements above a line on which a logical line starts are those of the text cut off
there, and each of them stands above it. -/
theorem statements_firstLines {source : List Char} {number : Nat}
    (starts : StartsAt (Text.lines source) number) :
    (∃ later, statements source = statements (Text.firstLines (number - 1) source) ++ later) ∧
      ∀ statement ∈ statements (Text.firstLines (number - 1) source), statement.line < number := by
  obtain ⟨above, line, below, split, rfl, _, closes⟩ := starts
  have cut : Text.lines (Text.firstLines (above.length + 1 - 1) source) = above := by
    rw [Nat.add_sub_cancel, Text.lines_firstLines, split, List.take_left]
  constructor
  · refine ⟨(logicalLinesFrom none (1 + above.length) (line :: below)).flatMap statementsOfLine, ?_⟩
    unfold statements logicalLines
    rw [cut, split, logicalLinesFrom_append closes (.inl rfl), List.flatMap_append]
  · intro statement member
    obtain ⟨⟨before, line', after, split', sameLine, _⟩, _⟩ := startsAt_of_mem member
    rw [cut] at split'
    rw [← sameLine, split', List.length_append, List.length_cons]
    omega

end Layout

/-! ### Refusals at a statement -/

/-- The reason is a block that is not closed. -/
def CompileCause.IsUnclosed (cause : CompileCause) : Prop :=
  ∃ opener, cause = .unclosed opener "endif" ∨ cause = .unclosed opener "done"

namespace Statement

open Building (Follows Takes)

/-- If the computation fails, the reason is something else than a block that is not closed. -/
def NotUnclosed {Value : Type} (computation : Except CompileCause Value) : Prop :=
  ∀ cause, computation = .error cause → ¬ cause.IsUnclosed

namespace NotUnclosed

variable {Reason Value Value' : Type}

theorem ok (value : Value) : NotUnclosed (.ok value) :=
  nofun

theorem error {cause : CompileCause} (other : ∀ opener closer, cause ≠ .unclosed opener closer) :
    NotUnclosed (.error cause : Except CompileCause Value) := by
  rintro _ ⟨⟩ ⟨opener, unclosed | unclosed⟩
  · exact other _ _ unclosed
  · exact other _ _ unclosed

theorem mapError {computation : Except Reason Value} {change : Reason → CompileCause}
    (other : ∀ reason opener closer, change reason ≠ .unclosed opener closer) :
    NotUnclosed (computation.mapError change) := by
  cases computation with
  | ok value => exact ok value
  | error reason => exact error (other reason)

theorem map {computation : Except CompileCause Value} (first : NotUnclosed computation)
    (change : Value → Value') : NotUnclosed (computation.map change) := by
  cases computation with
  | ok value => exact ok _
  | error cause =>
    rintro _ ⟨⟩
    exact first cause rfl

theorem bind {computation : Except CompileCause Value}
    {next : Value → Except CompileCause Value'} (first : NotUnclosed computation)
    (second : ∀ value, NotUnclosed (next value)) : NotUnclosed (computation >>= next) := by
  cases computation with
  | ok value => exact second value
  | error cause =>
    rintro _ ⟨⟩
    exact first cause rfl

theorem mapM {Item : Type} {items : List Item} {next : Item → Except CompileCause Value}
    (each : ∀ item, NotUnclosed (next item)) : NotUnclosed (items.mapM next) := by
  induction items with
  | nil => exact ok []
  | cons item items inductionHypothesis =>
    rw [List.mapM_cons]
    exact (each item).bind fun _ => inductionHypothesis.bind fun _ => ok _

theorem nameOf (command : String) (chars : List Char) :
    NotUnclosed (Statement.nameOf command chars) :=
  mapError nofun

theorem templateOf (chars : List Char) : NotUnclosed (Statement.templateOf chars) :=
  mapError nofun

theorem expressionOf (command : String) (chars : List Char) :
    NotUnclosed (Statement.expressionOf command chars) := by
  unfold Statement.expressionOf
  split
  · exact error nofun
  · exact mapError nofun

theorem forHead (rest : List Char) : NotUnclosed (Statement.forHead rest) := by
  unfold Statement.forHead
  split
  · exact (nameOf _ _).bind fun _ => (templateOf _).bind fun _ => (templateOf _).bind fun _ => ok _
  · exact error nofun

theorem directiveOfCommand (command : String) (rest : List Char) :
    NotUnclosed (Statement.directiveOfCommand command rest) := by
  unfold Statement.directiveOfCommand
  split
  case h_1 | h_13 | h_14 => exact (templateOf rest).bind fun _ => ok _
  case h_2 | h_7 | h_9 => exact (expressionOf _ rest).bind fun _ => ok _
  case h_3 | h_4 => exact (nameOf _ _).bind fun _ => (templateOf _).bind fun _ => ok _
  case h_5 => exact (nameOf _ rest).bind fun _ => ok _
  case h_6 =>
    dsimp only
    split
    · exact error nofun
    · exact (mapM fun _ => nameOf _ _).bind fun _ => ok _
  case h_8 | h_15 | h_16 | h_17 | h_18 => exact ok _
  case h_10 => exact forHead rest
  case h_11 =>
    split
    · exact ok _
    · exact error nofun
  case h_12 =>
    split
    · exact ok _
    · exact (expressionOf _ rest).bind fun _ => ok _
  case h_19 => exact error nofun

theorem directive (text : List Char) : NotUnclosed (Statement.directive text) := by
  unfold Statement.directive
  split
  · exact directiveOfCommand _ _
  · exact (templateOf text).bind fun _ => ok _

theorem enter (building : Building) (line : Nat) {opener : Except CompileCause Opener}
    (ofOpener : NotUnclosed opener) : NotUnclosed (building.enter line opener) := by
  unfold Building.enter
  split
  · exact error nofun
  · exact ofOpener.map _

theorem follow (building : Building) (line : Nat) (asked : Directive) :
    NotUnclosed (building.follow line asked) := by
  fun_cases Building.follow building line asked with
  | case1 | case7 | case9 | case10 | case12 | case13 => exact ok _
  | case2 => exact enter building line ((expressionOf "if" _).map _)
  | case3 | case4 => exact enter building line (ok _)
  | case5 => exact (expressionOf "if" _).bind fun _ => ok _
  | case6 | case8 | case11 | case14 => exact error nofun

end NotUnclosed

/-- A statement that does not fit is refused with its own line, and not for a block that is not
closed. -/
theorem Building.step_eq_error {building : Building} {statement : SourceStatement}
    {error : CompileError} (refused : building.step statement = .error error) :
    error.line = statement.line ∧ ¬ error.cause.IsUnclosed := by
  have other := (NotUnclosed.directive statement.text).bind fun asked =>
    NotUnclosed.follow building statement.line asked
  unfold step at refused
  cases followed : directive statement.text >>= building.follow statement.line with
  | ok next =>
    rw [followed] at refused
    cases refused
  | error cause =>
    rw [followed] at refused
    cases refused
    exact ⟨rfl, other cause followed⟩

/-- How a list of statements is refused: at the first one that does not fit, or at the end for a
block that is open still. -/
inductive Refuses : List SourceStatement → CompileError → Prop where
  | atStatement {before after : List SourceStatement} {statement : SourceStatement}
    {building : Building} {error : CompileError} (follows : Follows Building.start before building)
    (refused : building.step statement = .error error) :
    Refuses (before ++ statement :: after) error
  | atEnd {statements : List SourceStatement} {current : Block} {innermost : OpenBlock}
    {outer : List OpenBlock}
    (follows : Follows Building.start statements ⟨current, innermost :: outer⟩) :
    Refuses statements
      ⟨innermost.line, .unclosed innermost.opener.names.1 innermost.opener.names.2⟩

theorem ofSource_eq_error_iff {statements : List SourceStatement} {error : CompileError} :
    ofSource statements = .error error ↔ Refuses statements error := by
  constructor
  · intro refused
    unfold ofSource at refused
    cases followed : statements.foldlM Building.step Building.start with
    | error reason =>
      rw [followed] at refused
      cases refused
      obtain ⟨before, statement, after, building, rfl, follows, failed⟩ :=
        foldlM_eq_error.mp followed
      exact .atStatement follows failed
    | ok building =>
      rw [followed] at refused
      obtain ⟨current, _ | ⟨innermost, outer⟩⟩ := building
      · cases refused
      · cases refused
        exact .atEnd followed
  · intro refuses
    unfold ofSource
    cases refuses with
    | atStatement follows refused =>
      rw [foldlM_eq_error.mpr ⟨_, _, _, _, rfl, follows, refused⟩]
      rfl
    | @atEnd _ current innermost outer follows =>
      have followed : statements.foldlM Building.step Building.start =
          .ok ⟨current, innermost :: outer⟩ := follows
      rw [followed]
      rfl

/-- Statements that can be followed are refused at most for a block that they leave open. -/
theorem isUnclosed_of_follows {statements : List SourceStatement} {building : Building}
    {error : CompileError} (follows : Follows Building.start statements building)
    (refused : ofSource statements = .error error) : error.cause.IsUnclosed := by
  have followed : statements.foldlM Building.step Building.start = .ok building := follows
  unfold ofSource at refused
  rw [followed] at refused
  obtain ⟨current, _ | ⟨⟨line, opener, around⟩, outer⟩⟩ := building
  · cases refused
  · cases refused
    cases opener with
    | branch | otherwise => exact ⟨"if", .inl rfl⟩
    | whileLoop => exact ⟨"while", .inr rfl⟩
    | forLoop => exact ⟨"for", .inr rfl⟩

theorem isUnclosed_of_atEnd {statements : List SourceStatement} {current : Block}
    {innermost : OpenBlock} {outer : List OpenBlock}
    (follows : Follows Building.start statements ⟨current, innermost :: outer⟩) :
    (CompileCause.unclosed innermost.opener.names.1 innermost.opener.names.2).IsUnclosed :=
  isUnclosed_of_follows follows (ofSource_eq_error_iff.mpr (.atEnd follows))

/-! ### Openers without a closer -/

/-- The openers that have no closer yet, innermost first, after one more statement. -/
def openersAfter (openers : List SourceStatement) (statement : SourceStatement) :
    List SourceStatement :=
  match Kind.ofText statement.text with
  | .openIf | .openLoop => statement :: openers
  | .endIf | .endLoop => openers.tail
  | .simple | .elseIf | .otherwise => openers

/-- The openers that have no closer among the statements, innermost first. -/
def openers (statements : List SourceStatement) : List SourceStatement :=
  statements.foldl openersAfter []

/-- The block that the statement opened is still open. -/
structure Opened (opened : OpenBlock) (statement : SourceStatement) : Prop where
  line : opened.line = statement.line
  command : ∃ rest, splitCommand statement.text = some (opened.opener.names.1, rest)

theorem exists_splitCommand {text : List Char} {kind : Kind} (isKind : Kind.ofText text = kind)
    (notSimple : kind ≠ .simple) :
    ∃ command rest, splitCommand text = some (command, rest) ∧ Kind.ofCommand command = kind := by
  unfold Kind.ofText at isKind
  cases parts : splitCommand text with
  | none =>
    rw [parts] at isKind
    exact absurd isKind.symm notSimple
  | some part =>
    rw [parts] at isKind
    exact ⟨part.1, part.2, rfl, isKind⟩

theorem command_of_openIf {command : String} (isKind : Kind.ofCommand command = .openIf) :
    command = "if" := by
  unfold Kind.ofCommand at isKind
  split at isKind
  case h_1 => rfl
  all_goals cases isKind

theorem command_of_openLoop {command : String} (isKind : Kind.ofCommand command = .openLoop) :
    command = "while" ∨ command = "for" := by
  unfold Kind.ofCommand at isKind
  split at isKind
  case h_2 => exact .inl rfl
  case h_3 => exact .inr rfl
  all_goals cases isKind

theorem Opened.of_openIf {line : SourceStatement} {condition : Expression} {around : Block}
    (compiles : Compiles line (.openIf condition)) :
    Opened ⟨line.line, .branch [] condition, around⟩ line := by
  obtain ⟨command, rest, parts, isKind⟩ := exists_splitCommand compiles.kind nofun
  cases command_of_openIf isKind
  exact ⟨rfl, rest, parts⟩

theorem Opened.of_openLoop {line : SourceStatement} {loop : Loop} {around : Block}
    (compiles : Compiles line (.openLoop loop)) :
    Opened ⟨line.line, loop.opener, around⟩ line := by
  obtain ⟨command, rest, parts, isKind⟩ := exists_splitCommand compiles.kind nofun
  refine ⟨rfl, rest, parts.trans (congrArg (fun name => some (name, rest)) ?_)⟩
  have asked : directive line.text = directiveOfCommand command rest := by
    unfold directive
    rw [parts]
  rcases command_of_openLoop isKind with rfl | rfl
  · cases compiles with
    | openWhile => rfl
    | openFor read =>
      obtain ⟨_, _, result⟩ := bind_eq_ok.mp (asked.symm.trans read)
      cases result
  · cases compiles with
    | openWhile read =>
      obtain ⟨_, _, _, result⟩ := forHead_eq_ok (asked.symm.trans read)
      cases result
    | openFor => rfl

/-- The blocks that are open are those of the openers without a closer. -/
theorem Building.Takes.opened {building building' : Building} {line : SourceStatement}
    {openers : List SourceStatement} (takes : Takes building line building')
    (opened : List.Forall₂ Opened building.openBlocks openers) :
    List.Forall₂ Opened building'.openBlocks (openersAfter openers line) := by
  unfold openersAfter
  cases takes with
  | plain compiles =>
    rw [compiles.kind]
    exact opened
  | openIf compiles =>
    rw [compiles.kind]
    exact .cons (.of_openIf compiles) opened
  | openLoop compiles =>
    rw [compiles.kind]
    exact .cons (.of_openLoop compiles) opened
  | elseIf compiles | otherwise compiles =>
    rw [compiles.kind]
    cases opened with
    | cons innermost outer => exact .cons ⟨innermost.line, innermost.command⟩ outer
  | endBranch compiles | endOtherwise compiles | endLoop _ compiles =>
    rw [compiles.kind]
    cases opened with
    | cons innermost outer => exact outer

theorem Building.Follows.opened {building building' : Building}
    {statements openers : List SourceStatement} (follows : Follows building statements building')
    (opened : List.Forall₂ Opened building.openBlocks openers) :
    List.Forall₂ Opened building'.openBlocks (statements.foldl openersAfter openers) := by
  induction statements generalizing building openers with
  | nil =>
    cases follows
    exact opened
  | cons statement statements inductionHypothesis =>
    unfold Follows at follows
    rw [List.foldlM_cons] at follows
    obtain ⟨next, stepped, follows⟩ := bind_eq_ok.mp follows
    exact inductionHypothesis follows ((step_eq_ok_iff.mp stepped).opened opened)

theorem mem_openersAfter {openers : List SourceStatement} {opener statement : SourceStatement}
    (member : opener ∈ openersAfter openers statement) :
    opener = statement ∨ opener ∈ openers := by
  unfold openersAfter at member
  cases isKind : Kind.ofText statement.text with
  | openIf | openLoop =>
    rw [isKind] at member
    exact List.mem_cons.mp member
  | endIf | endLoop =>
    rw [isKind] at member
    exact .inr (List.mem_of_mem_tail member)
  | simple | elseIf | otherwise =>
    rw [isKind] at member
    exact .inr member

theorem mem_foldl_openersAfter {statements openers : List SourceStatement}
    {opener : SourceStatement} (member : opener ∈ statements.foldl openersAfter openers) :
    opener ∈ openers ∨ opener ∈ statements := by
  induction statements generalizing openers with
  | nil => exact .inl member
  | cons statement statements inductionHypothesis =>
    rcases inductionHypothesis member with ofFirst | ofRest
    · rcases mem_openersAfter ofFirst with rfl | ofOpeners
      · exact .inr List.mem_cons_self
      · exact .inl ofOpeners
    · exact .inr (List.mem_cons_of_mem _ ofRest)

/-- A list of statements that leaves a block open is refused at the innermost opener that has no
closer. -/
theorem exists_opener {statements : List SourceStatement} {current : Block} {innermost : OpenBlock}
    {outer : List OpenBlock}
    (follows : Follows Building.start statements ⟨current, innermost :: outer⟩) :
    ∃ opener ∈ statements, (openers statements).head? = some opener ∧ Opened innermost opener := by
  have opened : List.Forall₂ Opened (innermost :: outer) (openers statements) :=
    follows.opened .nil
  cases isOpeners : openers statements with
  | nil =>
    rw [isOpeners] at opened
    cases opened
  | cons opener others =>
    rw [isOpeners] at opened
    obtain ⟨ofInnermost, _⟩ := List.forall₂_cons.mp opened
    have member : opener ∈ openers statements := isOpeners ▸ List.mem_cons_self
    exact ⟨opener, (mem_foldl_openersAfter member).resolve_left List.not_mem_nil, rfl, ofInnermost⟩

/-! ### The text above and the text below -/

theorem Building.Follows.of_append {building building' : Building}
    {statements more : List SourceStatement}
    (follows : Follows building (statements ++ more) building') :
    ∃ middle, Follows building statements middle := by
  unfold Follows at follows
  rw [List.foldlM_append] at follows
  obtain ⟨middle, first, _⟩ := bind_eq_ok.mp follows
  exact ⟨middle, first⟩

/-- Every statement above the line of a refusal was followed. -/
theorem Refuses.exists_follows {above later : List SourceStatement} {error : CompileError}
    (refuses : Refuses (above ++ later) error)
    (isAbove : ∀ statement ∈ above, statement.line < error.line) :
    ∃ building, Follows Building.start above building := by
  generalize same : above ++ later = statements at refuses
  cases refuses with
  | @atStatement before after statement building _ follows refused =>
    have sameLine := (Building.step_eq_error refused).1
    rcases List.append_eq_append_iff.mp same with ⟨between, rfl, _⟩ | ⟨between, isAppend, isRest⟩
    · exact follows.of_append
    · cases between with
      | nil =>
        rw [List.append_nil] at isAppend
        exact ⟨building, isAppend ▸ follows⟩
      | cons first between =>
        cases (List.cons.inj isRest).1
        have member : statement ∈ above := isAppend ▸ List.mem_append_cons_self
        have lower := isAbove statement member
        omega
  | atEnd follows =>
    rw [← same] at follows
    exact follows.of_append

/-- A refusal at a statement stays whatever follows. -/
theorem Refuses.append {statements : List SourceStatement} {error : CompileError}
    (refuses : Refuses statements error) (other : ¬ error.cause.IsUnclosed)
    (more : List SourceStatement) : Refuses (statements ++ more) error := by
  cases refuses with
  | atStatement follows refused =>
    rw [List.append_assoc]
    exact .atStatement follows refused
  | atEnd follows => exact absurd (isUnclosed_of_atEnd follows) other

/-- A refusal is due to one statement, if the reason is no block that is not closed. -/
theorem Refuses.exists_offending {statements : List SourceStatement} {error : CompileError}
    (refuses : Refuses statements error) (other : ¬ error.cause.IsUnclosed) :
    ∃ before statement after,
      statements = before ++ statement :: after ∧ statement.line = error.line ∧
        (∀ error', ofSource before = .error error' → error'.cause.IsUnclosed) ∧
          ofSource (before ++ [statement]) = .error error := by
  cases refuses with
  | @atStatement before after statement _ _ follows refused =>
    exact ⟨before, statement, after, rfl, (Building.step_eq_error refused).1.symm,
      fun _ => isUnclosed_of_follows follows,
      ofSource_eq_error_iff.mpr (.atStatement follows refused)⟩
  | atEnd follows => exact absurd (isUnclosed_of_atEnd follows) other

/-- The line of a refusal is that of a statement. -/
theorem Refuses.exists_mem {statements : List SourceStatement} {error : CompileError}
    (refuses : Refuses statements error) :
    ∃ statement ∈ statements, statement.line = error.line := by
  cases refuses with
  | atStatement follows refused =>
    exact ⟨_, List.mem_append_cons_self, (Building.step_eq_error refused).1.symm⟩
  | atEnd follows =>
    obtain ⟨opener, member, _, opened⟩ := exists_opener follows
    exact ⟨opener, member, opened.line.symm⟩

/-- A text is refused at its first offending statement. The line is one on which a logical line
starts and that has a statement, and the text above it has no fault but a block that is still open.
Unless the reason is such a block, the statements before one on that line have no other fault, with
this one they are refused as the text is, and nothing that is put below the text changes it. If the
reason is such a block, the line is that of the innermost opener without a closer. -/
theorem parse_refused {source : List Char} {error : CompileError}
    (refused : parse source = .error error) :
    (Layout.StartsAt (Text.lines source) error.line ∧
      ∃ statement ∈ Layout.statements source, statement.line = error.line ∧ statement.text ≠ []) ∧
    (∀ error', parse (Text.firstLines (error.line - 1) source) = .error error' →
      error'.cause.IsUnclosed) ∧
    (¬ error.cause.IsUnclosed → ∃ before statement after,
      Layout.statements source = before ++ statement :: after ∧ statement.line = error.line ∧
        (∀ error', ofSource before = .error error' → error'.cause.IsUnclosed) ∧
          ofSource (before ++ [statement]) = .error error) ∧
    (¬ error.cause.IsUnclosed → '\r' ∉ source → Layout.Closes (Text.lines source) → ∀ more,
      parse (source ++ '\n' :: more) = .error error ∧
        (source.getLast? = some '\n' → parse (source ++ more) = .error error)) ∧
    (error.cause.IsUnclosed → ∃ opener command rest,
      (openers (Layout.statements source)).head? = some opener ∧ opener.line = error.line ∧
        splitCommand opener.text = some (command, rest) ∧
          error.cause = .unclosed command (if command = "if" then "endif" else "done")) := by
  have refuses : Refuses (Layout.statements source) error := ofSource_eq_error_iff.mp refused
  obtain ⟨statement, member, sameLine⟩ := refuses.exists_mem
  obtain ⟨starts, nonempty⟩ := Layout.startsAt_of_mem member
  rw [sameLine] at starts
  refine ⟨⟨starts, statement, member, sameLine, nonempty⟩, ?_, refuses.exists_offending, ?_, ?_⟩
  · intro error' refused'
    obtain ⟨⟨later, split⟩, isAbove⟩ := Layout.statements_firstLines starts
    rw [split] at refuses
    obtain ⟨building, follows⟩ := refuses.exists_follows isAbove
    exact isUnclosed_of_follows follows refused'
  · intro other noReturn closes more
    refine ⟨ofSource_eq_error_iff.mpr ?_, fun ended => ofSource_eq_error_iff.mpr ?_⟩
    · rw [Layout.statements_join noReturn closes]
      exact refuses.append other _
    · obtain ⟨first, rfl⟩ := List.getLast?_eq_some_iff.mp ended
      rw [List.append_assoc, List.singleton_append, Layout.statements_append_newline closes]
      exact refuses.append other _
  · intro isUnclosed
    generalize Layout.statements source = statements at refuses ⊢
    cases refuses with
    | atStatement follows refused => exact absurd isUnclosed (Building.step_eq_error refused).2
    | @atEnd _ _ innermost outer follows =>
      obtain ⟨opener, _, isHead, opened⟩ := exists_opener follows
      obtain ⟨rest, parts⟩ := opened.command
      refine ⟨opener, _, rest, isHead, opened.line.symm, parts, ?_⟩
      cases innermost.opener <;> rfl

/-- An unknown command within a conditional, below a comment and a line that goes on, is refused
on its own line, whatever comes after it. -/
theorem parse_refused_conditional :
    parse "/if 1\n; note\n/echo a \\\nb %; c\n /nope".toList =
        .error ⟨5, .unknownCommand "nope"⟩ ∧
      ∀ more, parse ("/if 1\n; note\n/echo a \\\nb %; c\n /nope".toList ++ '\n' :: more) =
        .error ⟨5, .unknownCommand "nope"⟩ := by
  have refused : parse "/if 1\n; note\n/echo a \\\nb %; c\n /nope".toList =
      .error ⟨5, .unknownCommand "nope"⟩ := by
    cbv
  have other : ¬ (CompileCause.unknownCommand "nope").IsUnclosed := by
    rintro ⟨_, isUnclosed | isUnclosed⟩ <;> cases isUnclosed
  have closes :
      Layout.Closes (Text.lines "/if 1\n; note\n/echo a \\\nb %; c\n /nope".toList) := by
    rintro _ ⟨⟩
    decide
  exact ⟨refused, fun more => ((parse_refused refused).2.2.2.1 other (by decide) closes more).1⟩

end Statement

end SlashScript
