/-
This file joins two texts by a newline and follows them through the stages of reading. The lines of
the joined text are those of the first, an empty one perhaps, and those of the second. If no logical
line of the first is still open at its end, then the logical lines and the statements of the second
come after those of the first as well, as many lines further down as the first has. Each text alone
closes the blocks that it opens, so the joined text is read as the block of the first and then that
of the second.

Line numbers matter only for refusals: what statements spell does not depend on where they stand.
-/

import SlashScript.Proofs.Blocks.Moving
import SlashScript.Proofs.Blocks.Reading

namespace SlashScript

/-! ### Physical lines -/

namespace Text

theorem closeLine_of_not_mem {reversed : List Char} (noReturn : '\r' ∉ reversed) :
    closeLine reversed = reversed.reverse :=
  closeLine.eq_2 reversed fun _ isReturn => noReturn (isReturn ▸ List.mem_cons_self)

theorem linesFrom_cons_of_ne {char : Char} (notNewline : char ≠ '\n')
    (reversed rest : List Char) :
    linesFrom reversed (char :: rest) = linesFrom (char :: reversed) rest :=
  linesFrom.eq_3 reversed char rest notNewline

/-- A line goes on with characters that are no newlines. -/
theorem linesFrom_append_of_not_mem {word : List Char} (oneLine : '\n' ∉ word)
    (reversed rest : List Char) :
    linesFrom reversed (word ++ rest) = linesFrom (word.reverse ++ reversed) rest := by
  induction word generalizing reversed with
  | nil => rfl
  | cons char word inductionHypothesis =>
    obtain ⟨notNewline, oneLine⟩ := not_or.mp (mt List.mem_cons.mpr oneLine)
    rw [List.cons_append, linesFrom_cons_of_ne (Ne.symm notNewline), inductionHypothesis oneLine,
      List.reverse_cons, List.append_assoc]
    rfl

theorem linesFrom_append (reversed first second : List Char) :
    linesFrom reversed (first ++ '\n' :: second) =
      linesFrom reversed (first ++ ['\n']) ++ lines second := by
  induction first generalizing reversed with
  | nil => rfl
  | cons char first inductionHypothesis =>
    rw [List.cons_append, List.cons_append]
    by_cases isNewline : char = '\n'
    · rw [isNewline]
      exact congrArg (closeLine reversed :: ·) (inductionHypothesis [])
    · rw [linesFrom_cons_of_ne isNewline, linesFrom_cons_of_ne isNewline, inductionHypothesis]

/-- A text that ends in a newline has as many lines as newlines. -/
theorem length_linesFrom_newline (reversed first : List Char) :
    (linesFrom reversed (first ++ ['\n'])).length = first.count '\n' + 1 := by
  induction first generalizing reversed with
  | nil => rfl
  | cons char first inductionHypothesis =>
    rw [List.cons_append]
    by_cases isNewline : char = '\n'
    · rw [isNewline, List.count_cons_self, ← inductionHypothesis []]
      rfl
    · rw [linesFrom_cons_of_ne isNewline, inductionHypothesis, List.count_cons_of_ne isNewline]

/-- A newline after a text ends its last line, or adds an empty line. -/
theorem linesFrom_newline {reversed first : List Char} (noReturn : '\r' ∉ first)
    (noReturnBefore : '\r' ∉ reversed) :
    linesFrom reversed (first ++ ['\n']) = linesFrom reversed first ∨
      linesFrom reversed (first ++ ['\n']) = linesFrom reversed first ++ [[]] := by
  induction first generalizing reversed with
  | nil =>
    cases reversed with
    | nil => exact .inr rfl
    | cons last earlier =>
      exact .inl (congrArg (· :: []) (closeLine_of_not_mem noReturnBefore))
  | cons char first inductionHypothesis =>
    have noReturnAfter : '\r' ∉ first := fun member => noReturn (.tail _ member)
    rw [List.cons_append]
    by_cases isNewline : char = '\n'
    · rw [isNewline]
      rcases inductionHypothesis noReturnAfter List.not_mem_nil with same | added
      · exact .inl (congrArg (closeLine reversed :: ·) same)
      · exact .inr (congrArg (closeLine reversed :: ·) added)
    · rw [linesFrom_cons_of_ne isNewline, linesFrom_cons_of_ne isNewline]
      refine inductionHypothesis noReturnAfter fun member => ?_
      rcases List.mem_cons.mp member with isReturn | member
      · exact noReturn (isReturn ▸ .head _)
      · exact noReturnBefore member

end Text

/-! ### Logical lines -/

/-- The statement, if so many lines stand above its text. -/
def SourceStatement.lowered (above : Nat) (statement : SourceStatement) : SourceStatement :=
  { statement with line := statement.line + above }

namespace Layout

/-- The last of the lines that is no comment, if there is one, does not go on in the next line. -/
def Closes (lines : List (List Char)) : Prop :=
  ∀ line ∈ (lines.filter fun line => !isComment line).getLast?, line.getLast? ≠ some '\\'

theorem Closes.tail {line : List Char} {lines : List (List Char)}
    (closes : Closes (line :: lines)) : Closes lines := by
  intro last isLast
  refine closes last ?_
  rw [List.filter_cons]
  split
  · rw [List.getLast?_cons, isLast]
    rfl
  · exact isLast

theorem closes_nil : Closes [] :=
  nofun

/-- A line put above others changes nothing at their end, unless all of them are comments. -/
theorem Closes.cons {line : List Char} {lines : List (List Char)} (closes : Closes lines)
    (covered : isComment line = true ∨ line.getLast? ≠ some '\\' ∨
      (lines.filter fun line => !isComment line) ≠ []) : Closes (line :: lines) := by
  intro last isLast
  rw [List.filter_cons] at isLast
  split at isLast
  · next visible =>
    cases kept : lines.filter fun line => !isComment line with
    | nil =>
      rw [kept] at isLast covered
      cases isLast
      rcases covered with comment | closed | nonempty
      · rw [comment] at visible
        cases visible
      · exact closed
      · exact absurd rfl nonempty
    | cons first others =>
      rw [kept, List.getLast?_cons_cons] at isLast
      exact closes last (kept ▸ isLast)
  · exact closes last isLast

/-- An empty line is no comment and ends where it begins. -/
theorem Closes.append_empty {lines : List (List Char)} : Closes (lines ++ [[]]) := by
  intro last isLast
  rw [List.filter_append] at isLast
  cases List.getLast?_concat.symm.trans isLast
  nofun

/-- If no logical line is open after the first lines, the others are read by themselves. -/
theorem logicalLinesFrom_append {pending : Option SourceStatement} {lines : List (List Char)}
    (closes : Closes lines)
    (ended : pending = none ∨ (lines.filter fun line => !isComment line) ≠ [])
    (number : Nat) (later : List (List Char)) :
    logicalLinesFrom pending number (lines ++ later) =
      logicalLinesFrom pending number lines ++
        logicalLinesFrom none (number + lines.length) later := by
  induction lines generalizing pending number with
  | nil =>
    rcases ended with rfl | nonempty
    · rfl
    · exact absurd rfl nonempty
  | cons line lines inductionHypothesis =>
    have length : number + (line :: lines).length = number + 1 + lines.length := by
      rw [List.length_cons]
      omega
    rw [List.cons_append, length]
    by_cases comment : isComment line = true
    · rw [logicalLinesFrom, logicalLinesFrom, if_pos comment, if_pos comment]
      rw [List.filter_cons, comment] at ended
      exact inductionHypothesis closes.tail ended (number + 1)
    · have kept : (line :: lines).filter (fun line => !isComment line) =
          line :: lines.filter fun line => !isComment line := by
        rw [List.filter_cons, if_pos (by simpa using comment)]
      rw [logicalLinesFrom, logicalLinesFrom, if_neg comment, if_neg comment]
      dsimp only
      by_cases goesOn : line.getLast? = some '\\'
      · rw [if_pos goesOn, if_pos goesOn]
        refine inductionHypothesis closes.tail (.inr fun empty => ?_) (number + 1)
        refine closes line ?_ goesOn
        rw [kept, empty]
        rfl
      · rw [if_neg goesOn, if_neg goesOn, inductionHypothesis closes.tail (.inl rfl) (number + 1)]
        rfl

theorem logicalLinesFrom_lowered (above : Nat) (pending : Option SourceStatement) (number : Nat)
    (lines : List (List Char)) :
    logicalLinesFrom (pending.map (·.lowered above)) (number + above) lines =
      (logicalLinesFrom pending number lines).map (·.lowered above) :=
  logicalLinesFrom_moved (· + above) pending number (number + above) lines fun _ =>
    Nat.add_right_comm _ _ _

/-! ### Statements -/

/-- If no logical line is open at the end of a text that ends in a newline, the statements of what
is put below it follow its own, as much further down as the text is long. -/
theorem statements_append_newline {first : List Char}
    (closes : Closes (Text.lines (first ++ ['\n']))) (second : List Char) :
    statements (first ++ '\n' :: second) =
      statements (first ++ ['\n']) ++
        (statements second).map (·.lowered (first.count '\n' + 1)) := by
  have lines : Text.lines (first ++ '\n' :: second) =
      Text.lines (first ++ ['\n']) ++ Text.lines second := Text.linesFrom_append [] first second
  have length : (Text.lines (first ++ ['\n'])).length = first.count '\n' + 1 :=
    Text.length_linesFrom_newline [] first
  have lowered := logicalLinesFrom_lowered (first.count '\n' + 1) none 1 (Text.lines second)
  unfold statements logicalLines
  rw [lines, logicalLinesFrom_append closes (.inl rfl), List.flatMap_append, length]
  congr 1
  refine (congrArg (List.flatMap statementsOfLine) lowered).trans ?_
  exact flatMap_statementsOfLine_moved (· + (first.count '\n' + 1)) _

/-- A text that closes its logical lines keeps its statements when a text is joined to it, and the
statements of the other follow, as much further down as the first text is long. -/
theorem statements_join {first : List Char} (noReturn : '\r' ∉ first)
    (closes : Closes (Text.lines first)) (second : List Char) :
    statements (first ++ '\n' :: second) =
      statements first ++ (statements second).map (·.lowered (first.count '\n' + 1)) := by
  -- Ended by a newline, the first text has its statements and no open line.
  have ended : Closes (Text.lines (first ++ ['\n'])) ∧
      statements (first ++ ['\n']) = statements first := by
    unfold statements logicalLines
    rcases Text.linesFrom_newline noReturn List.not_mem_nil with same | added
    · have same : Text.lines (first ++ ['\n']) = Text.lines first := same
      rw [same]
      exact ⟨closes, rfl⟩
    · have added : Text.lines (first ++ ['\n']) = Text.lines first ++ [[]] := added
      rw [added, logicalLinesFrom_append closes (.inl rfl), List.flatMap_append]
      exact ⟨.append_empty, List.append_nil _⟩
  rw [statements_append_newline ended.1, ended.2]

end Layout

/-! ### Blocks -/

namespace Statement

/-- Texts that are read as blocks are read as one block when they are joined by a newline, if the
first closes its logical lines. -/
theorem parse_join {first second : List Char} {block block' : Block} (noReturn : '\r' ∉ first)
    (closes : Layout.Closes (Text.lines first)) (isFirst : parse first = .ok block)
    (isSecond : parse second = .ok block') :
    parse (first ++ '\n' :: second) = .ok (block ++ block') := by
  have spells := ofSource_eq_ok_iff.mp isFirst
  have lowered : ofSource ((Layout.statements second).map (·.lowered (first.count '\n' + 1))) =
      .ok block' := by
    unfold parse at isSecond
    refine (ofSource_moved (· + (first.count '\n' + 1)) (Layout.statements second)).trans ?_
    rw [isSecond]
    rfl
  have spells' := ofSource_eq_ok_iff.mp lowered
  unfold parse
  rw [Layout.statements_join noReturn closes]
  exact ofSource_eq_ok_iff.mpr (spells.append spells')

end Statement

end SlashScript
