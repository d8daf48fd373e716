/-
This file changes the physical lines of a script and keeps its logical ones. A comment may be put
between any two lines, also where a logical line goes on, and a line may be broken in two by a
backslash. The statements stay the same, so the script is read as the same block or refused for the
same reason. Only the statements that start below the change stand one line further down.
-/

import SlashScript.Proofs.Literal.Basic

namespace SlashScript

/-! ### Texts given by their lines -/

namespace Text

/-- The lines joined by newlines. -/
def joined (lines : List (List Char)) : List Char :=
  ['\n'].intercalate lines

/-- No character of the line belongs to the ending of a line. -/
def Unending (line : List Char) : Prop :=
  '\n' ∉ line ∧ '\r' ∉ line

instance (line : List Char) : Decidable (Unending line) :=
  inferInstanceAs (Decidable (_ ∧ _))

theorem Unending.append {line line' : List Char} (unending : Unending line)
    (unending' : Unending line') : Unending (line ++ line') :=
  ⟨mt List.mem_append.mp (not_or.mpr ⟨unending.1, unending'.1⟩),
    mt List.mem_append.mp (not_or.mpr ⟨unending.2, unending'.2⟩)⟩

theorem joined_singleton (line : List Char) : joined [line] = line :=
  List.intercalate_singleton

theorem joined_cons_cons (line next : List Char) (lines : List (List Char)) :
    joined (line :: next :: lines) = line ++ '\n' :: joined (next :: lines) :=
  List.intercalate_cons_cons.trans (List.append_assoc ..)

/-- A newline after a line ends it, together with a carriage return before it. -/
theorem linesFrom_closed {line : List Char} (oneLine : '\n' ∉ line) (reversed : List Char) :
    linesFrom reversed (line ++ ['\n']) = [closeLine (line.reverse ++ reversed)] := by
  rw [linesFrom_append_of_not_mem oneLine]
  rfl

/-- A newline after a line ends it and begins no other. -/
theorem linesFrom_ended {reversed line : List Char} (unending : Unending line)
    (noReturn : '\r' ∉ reversed) :
    linesFrom reversed (line ++ ['\n']) = [reversed.reverse ++ line] := by
  have noReturnAtAll : '\r' ∉ line.reverse ++ reversed := by
    rw [List.mem_append, List.mem_reverse]
    exact not_or.mpr ⟨unending.2, noReturn⟩
  rw [linesFrom_closed unending.1, closeLine_of_not_mem noReturnAtAll, List.reverse_append,
    List.reverse_reverse]

/-- The lines are read back, except for an empty one at the end. -/
theorem lines_joined {lines : List (List Char)} (unending : ∀ line ∈ lines, Unending line) :
    Text.lines (joined lines) = lines ∨ Text.lines (joined lines) ++ [[]] = lines := by
  induction lines with
  | nil => exact .inl rfl
  | cons line lines inductionHypothesis =>
    obtain ⟨ofLine, ofRest⟩ := List.forall_mem_cons.mp unending
    cases lines with
    | nil =>
      rw [joined_singleton]
      rcases eq_or_ne line [] with rfl | nonempty
      · exact .inr rfl
      · exact .inl (linesFrom_of_not_mem ofLine.1 (.inr nonempty))
    | cons next lines =>
      have joins : Text.lines (joined (line :: next :: lines)) =
          line :: Text.lines (joined (next :: lines)) := by
        rw [joined_cons_cons]
        refine (linesFrom_append [] line _).trans ?_
        rw [linesFrom_ended ofLine List.not_mem_nil]
        rfl
      rw [joins]
      exact (inductionHypothesis ofRest).imp (congrArg (line :: ·)) (congrArg (line :: ·))

end Text

namespace Layout

/-! ### Logical lines that stay the same -/

/-- An empty line at the end adds no statement. -/
theorem flatMap_statementsOfLine_append_empty (pending : Option SourceStatement) (number : Nat)
    (lines : List (List Char)) :
    (logicalLinesFrom pending number (lines ++ [[]])).flatMap statementsOfLine =
      (logicalLinesFrom pending number lines).flatMap statementsOfLine := by
  induction lines generalizing pending number with
  | nil =>
    cases pending with
    | none => rfl
    | some pending =>
      show [SourceStatement.mk pending.line (pending.text ++ [])].flatMap statementsOfLine = _
      rw [List.append_nil]
      rfl
  | cons line lines inductionHypothesis =>
    rw [List.cons_append, logicalLinesFrom, logicalLinesFrom]
    split
    · exact inductionHypothesis pending (number + 1)
    · generalize pending.getD ⟨number, []⟩ = start
      dsimp only
      split
      · exact inductionHypothesis (some ⟨start.line, start.text ++ line.dropLast⟩) (number + 1)
      · exact congrArg (_ ++ ·) (inductionHypothesis none (number + 1))

/-- The statements of a text that is given by its lines. -/
theorem statements_joined {lines : List (List Char)}
    (unending : ∀ line ∈ lines, Text.Unending line) :
    statements (Text.joined lines) = (logicalLinesFrom none 1 lines).flatMap statementsOfLine := by
  unfold statements logicalLines
  rcases Text.lines_joined unending with same | same
  · rw [same]
  · conv_rhs => rw [← same, flatMap_statementsOfLine_append_empty]

/-- A line that is no comment ends the open logical line or lets it go on. -/
theorem logicalLinesFrom_of_visible {line : List Char} (noComment : isComment line = false)
    (pending : Option SourceStatement) (number : Nat) (rest : List (List Char)) :
    logicalLinesFrom pending number (line :: rest) =
      if line.getLast? = some '\\' then
        logicalLinesFrom (some ⟨(pending.getD ⟨number, []⟩).line,
          (pending.getD ⟨number, []⟩).text ++ line.dropLast⟩) (number + 1) rest
      else
        ⟨(pending.getD ⟨number, []⟩).line, (pending.getD ⟨number, []⟩).text ++ line⟩ ::
          logicalLinesFrom none (number + 1) rest := by
  rw [logicalLinesFrom, if_neg (ne_true_of_eq_false noComment)]

/-- The start of the open logical line stays where it is, be it open already or about to be. -/
theorem getD_moved {move : Nat → Nat} {pending : Option SourceStatement} {number : Nat}
    (pendingStays : pending.map (·.moved move) = pending) (stays : move number = number) :
    (pending.getD ⟨number, []⟩).moved move = pending.getD ⟨number, []⟩ := by
  cases pending with
  | none => exact congrArg (SourceStatement.mk · []) stays
  | some pending => exact Option.some.inj pendingStays

/-- If physical lines are changed so that the logical lines of what is changed are moved, then all
logical lines are, those above the change staying where they are. -/
theorem logicalLinesFrom_append_moved {move : Nat → Nat} {later later' : List (List Char)}
    {before : List (List Char)} {pending : Option SourceStatement} {number : Nat}
    (stays : ∀ line, line < number + before.length → move line = line)
    (pendingStays : pending.map (·.moved move) = pending)
    (changed : ∀ pending : Option SourceStatement, pending.map (·.moved move) = pending →
      logicalLinesFrom pending (number + before.length) later' =
        (logicalLinesFrom pending (number + before.length) later).map (·.moved move)) :
    logicalLinesFrom pending number (before ++ later') =
      (logicalLinesFrom pending number (before ++ later)).map (·.moved move) := by
  induction before generalizing pending number with
  | nil => exact changed pending pendingStays
  | cons line before inductionHypothesis =>
    have length : number + (line :: before).length = number + 1 + before.length := by
      rw [List.length_cons]
      omega
    rw [length] at stays changed
    have opened := getD_moved pendingStays (stays number (by omega))
    rw [List.cons_append, List.cons_append, logicalLinesFrom, logicalLinesFrom]
    generalize pending.getD ⟨number, []⟩ = start at opened ⊢
    have sameLine : move start.line = start.line := congrArg SourceStatement.line opened
    have moved (text : List Char) : SourceStatement.moved move ⟨start.line, text⟩ =
        ⟨start.line, text⟩ := congrArg (SourceStatement.mk · text) sameLine
    split
    · exact inductionHypothesis stays pendingStays changed
    · dsimp only
      split
      · exact inductionHypothesis stays (congrArg some (moved _)) changed
      · rw [List.map_cons, moved, inductionHypothesis stays rfl changed]

/-- Where a line goes when one more line is put in after so many others. -/
def shiftBelow (above line : Nat) : Nat :=
  if above < line then line + 1 else line

theorem shiftBelow_of_le {above line : Nat} (isAbove : line ≤ above) :
    shiftBelow above line = line :=
  if_neg (Nat.not_lt_of_le isAbove)

theorem shiftBelow_of_lt {above line : Nat} (isBelow : above < line) :
    shiftBelow above line = line + 1 :=
  if_pos isBelow

/-- A comment between two lines. -/
theorem logicalLinesFrom_comment {comment : List Char} (isComment : isComment comment = true)
    (before after : List (List Char)) :
    logicalLinesFrom none 1 (before ++ comment :: after) =
      (logicalLinesFrom none 1 (before ++ after)).map (·.moved (shiftBelow before.length)) := by
  refine logicalLinesFrom_append_moved (fun line isAbove => shiftBelow_of_le (by omega)) rfl
    fun pending pendingStays => ?_
  have lowered := logicalLinesFrom_moved (shiftBelow before.length) pending (1 + before.length)
    (1 + before.length + 1) after fun index => by
      rw [shiftBelow_of_lt (by omega)]
      omega
  rw [logicalLinesFrom, if_pos isComment, ← lowered, pendingStays]

section

variable {first second : List Char} (noComment : isComment (first ++ second) = false)
  (secondNoComment : isComment second = false) (nonempty : second ≠ [])

include noComment

/-- What comes before the break is no comment either. -/
theorem isComment_backslash : isComment (first ++ ['\\']) = false := by
  rw [isComment_append_ite] at noComment ⊢
  split
  · rfl
  · next visible => rwa [if_neg visible] at noComment

include secondNoComment nonempty

/-- A line broken in two. -/
theorem logicalLinesFrom_broken (before after : List (List Char)) :
    logicalLinesFrom none 1 (before ++ (first ++ ['\\']) :: second :: after) =
      (logicalLinesFrom none 1 (before ++ (first ++ second) :: after)).map
        (·.moved (shiftBelow (before.length + 1))) := by
  refine logicalLinesFrom_append_moved (fun line isAbove => shiftBelow_of_le (by omega)) rfl
    fun pending pendingStays => ?_
  have lowered (pending : Option SourceStatement) :=
    logicalLinesFrom_moved (shiftBelow (before.length + 1)) pending (1 + before.length + 1)
      (1 + before.length + 1 + 1) after fun index => by
        rw [shiftBelow_of_lt (by omega)]
        omega
  have opened := getD_moved pendingStays
    (shiftBelow_of_le (Nat.le_of_eq (Nat.add_comm 1 before.length)))
  rw [logicalLinesFrom_of_visible (isComment_backslash noComment),
    logicalLinesFrom_of_visible secondNoComment, logicalLinesFrom_of_visible noComment,
    if_pos List.getLast?_concat, List.dropLast_concat]
  generalize pending.getD ⟨1 + before.length, []⟩ = start at opened
  have sameLine : shiftBelow (before.length + 1) start.line = start.line :=
    congrArg SourceStatement.line opened
  rw [Option.getD_some, List.getLast?_append_of_ne_nil _ nonempty,
    List.dropLast_append_of_ne_nil nonempty, List.append_assoc, List.append_assoc]
  split
  · rw [← lowered, Option.map_some, SourceStatement.moved, sameLine]
  · rw [List.map_cons, ← lowered, Option.map_none, SourceStatement.moved, sameLine]

end

end Layout

namespace Statement

/-- If the logical lines of a text are moved, then so are its statements, and its refusal. -/
theorem parse_joined_moved {lines lines' : List (List Char)} {move : Nat → Nat}
    (unending : ∀ line ∈ lines, Text.Unending line)
    (unending' : ∀ line ∈ lines', Text.Unending line)
    (moved : Layout.logicalLinesFrom none 1 lines' =
      (Layout.logicalLinesFrom none 1 lines).map (·.moved move)) :
    parse (Text.joined lines') = (parse (Text.joined lines)).mapError (·.moved move) := by
  unfold parse
  rw [Layout.statements_joined unending, Layout.statements_joined unending', moved,
    Layout.flatMap_statementsOfLine_moved]
  exact ofSource_moved move _

/-- The physical lines of a script may be divided in other ways. A comment put in after so many
lines, and a line after so many others that is broken in two by a backslash, leave the block that
the script is read as or the reason for which it is refused, and move the line of the refusal down
by one exactly if it stands below the change. -/
theorem parse_physicalLines {before after : List (List Char)}
    (unending : ∀ line ∈ before ++ after, Text.Unending line) :
    (∀ comment, Text.Unending comment → Layout.isComment comment = true →
      parse (Text.joined (before ++ comment :: after)) =
        (parse (Text.joined (before ++ after))).mapError
          (·.moved (Layout.shiftBelow before.length))) ∧
    ∀ first second, Text.Unending first → Text.Unending second →
      Layout.isComment (first ++ second) = false → Layout.isComment second = false → second ≠ [] →
        parse (Text.joined (before ++ (first ++ ['\\']) :: second :: after)) =
          (parse (Text.joined (before ++ (first ++ second) :: after))).mapError
            (·.moved (Layout.shiftBelow (before.length + 1))) := by
  obtain ⟨ofBefore, ofAfter⟩ := List.forall_mem_append.mp unending
  have around {changed : List (List Char)} (ofChanged : ∀ line ∈ changed, Text.Unending line) :
      ∀ line ∈ before ++ (changed ++ after), Text.Unending line :=
    List.forall_mem_append.mpr ⟨ofBefore, List.forall_mem_append.mpr ⟨ofChanged, ofAfter⟩⟩
  constructor
  · intro comment ofComment isComment
    exact parse_joined_moved unending (around (List.forall_mem_singleton.mpr ofComment))
      (Layout.logicalLinesFrom_comment isComment before after)
  · intro first second ofFirst ofSecond noComment secondNoComment nonempty
    have ofBroken : ∀ line ∈ [first ++ ['\\'], second], Text.Unending line :=
      List.forall_mem_cons.mpr ⟨ofFirst.append (by decide), List.forall_mem_singleton.mpr ofSecond⟩
    exact parse_joined_moved (around (List.forall_mem_singleton.mpr (ofFirst.append ofSecond)))
      (around ofBroken)
      (Layout.logicalLinesFrom_broken noComment secondNoComment nonempty before after)

/-- A comment within a logical line leaves it whole and moves the unknown command below it, and so
does one more break in the line. -/
theorem parse_physicalLines_comment :
    (∀ line ∈ ["/echo a\\".toList] ++ ["b %; c".toList, "/nope".toList], Text.Unending line) ∧
      Text.Unending " ; c\\".toList ∧ Layout.isComment " ; c\\".toList = true ∧
      parse "/echo a\\\nb %; c\n/nope".toList = .error ⟨3, .unknownCommand "nope"⟩ ∧
      parse "/echo a\\\n ; c\\\nb %; c\n/nope".toList = .error ⟨4, .unknownCommand "nope"⟩ ∧
      parse "/echo a\\\nb %; \\\nc\n/nope".toList = .error ⟨4, .unknownCommand "nope"⟩ := by
  have unending : ∀ line ∈ ["/echo a\\".toList] ++ ["b %; c".toList, "/nope".toList],
      Text.Unending line := by decide
  have unendingAround : ∀ line ∈ ["/echo a\\".toList] ++ ["/nope".toList],
      Text.Unending line := by decide
  have refused : parse "/echo a\\\nb %; c\n/nope".toList = .error ⟨3, .unknownCommand "nope"⟩ := by
    cbv
  refine ⟨unending, by decide, by decide, refused, ?_, ?_⟩
  · exact ((parse_physicalLines unending).1 " ; c\\".toList (by decide) (by decide)).trans
      (congrArg (Except.mapError _) refused)
  · exact ((parse_physicalLines unendingAround).2 "b %; ".toList "c".toList (by decide) (by decide)
      (by decide) (by decide) (by decide)).trans (congrArg (Except.mapError _) refused)

end Statement

end SlashScript
