/-
This file moves statements to other lines, each line number to another one by the same rule, and
follows them through the stages of reading. What statements are read as does not depend on where
they stand, and the line of a refusal is moved along with the statement that is refused.
-/

import SlashScript.Statement.Parser

namespace SlashScript

/-- The statement on the line that its own is moved to. -/
def SourceStatement.moved (move : Nat → Nat) (statement : SourceStatement) : SourceStatement :=
  { statement with line := move statement.line }

/-- The refusal with the line that its own is moved to. -/
def CompileError.moved (move : Nat → Nat) (error : CompileError) : CompileError :=
  { error with line := move error.line }

/-! ### Logical lines -/

namespace Layout

/-- Logical lines are moved if the physical lines that are left and the open logical line are. -/
theorem logicalLinesFrom_moved (move : Nat → Nat) (pending : Option SourceStatement)
    (number number' : Nat) (lines : List (List Char))
    (moves : ∀ index, move (number + index) = number' + index) :
    logicalLinesFrom (pending.map (·.moved move)) number' lines =
      (logicalLinesFrom pending number lines).map (·.moved move) := by
  induction lines generalizing pending number number' with
  | nil => cases pending <;> rfl
  | cons line lines inductionHypothesis =>
    have first : move number = number' := moves 0
    have movesNext (index : Nat) : move (number + 1 + index) = number' + 1 + index := by
      have next := moves (1 + index)
      rwa [← Nat.add_assoc, ← Nat.add_assoc] at next
    have opened : (pending.map (·.moved move)).getD ⟨number', []⟩ =
        (pending.getD ⟨number, []⟩).moved move := by
      cases pending with
      | none => rw [← first]; rfl
      | some pending => rfl
    rw [logicalLinesFrom, logicalLinesFrom, opened]
    split
    · exact inductionHypothesis pending _ _ movesNext
    · generalize pending.getD ⟨number, []⟩ = start
      dsimp only
      split
      · exact inductionHypothesis (some ⟨start.line, start.text ++ line.dropLast⟩) _ _ movesNext
      · exact congrArg (_ :: ·) (inductionHypothesis none _ _ movesNext)

/-- The statements of a logical line are moved with it. -/
theorem statementsOfLine_moved (move : Nat → Nat) (line : SourceStatement) :
    statementsOfLine (line.moved move) = (statementsOfLine line).map (·.moved move) := by
  unfold statementsOfLine
  rw [List.map_filterMap]
  congr 1
  funext text
  split <;> rfl

theorem flatMap_statementsOfLine_moved (move : Nat → Nat) (lines : List SourceStatement) :
    (lines.map (·.moved move)).flatMap statementsOfLine =
      (lines.flatMap statementsOfLine).map (·.moved move) := by
  rw [List.flatMap_map, List.map_flatMap]
  exact congrArg (List.flatMap · _) (funext fun line => statementsOfLine_moved move line)

end Layout

/-! ### Blocks -/

namespace Statement

/-- The open block whose opener is moved. -/
def OpenBlock.moved (move : Nat → Nat) (opened : OpenBlock) : OpenBlock :=
  { opened with line := move opened.line }

namespace Building

/-- What was read so far, with the openers moved. -/
def moved (move : Nat → Nat) (building : Building) : Building :=
  { building with openBlocks := building.openBlocks.map (·.moved move) }

theorem enter_moved (move : Nat → Nat) (building : Building) (line : Nat)
    (opener : Except CompileCause Opener) :
    (building.moved move).enter (move line) opener =
      (building.enter line opener).map (·.moved move) := by
  unfold enter moved
  rw [List.length_map]
  split
  · rfl
  · cases opener <;> rfl

theorem follow_moved (move : Nat → Nat) (building : Building) (line : Nat)
    (directive : Directive) :
    (building.moved move).follow (move line) directive =
      (building.follow line directive).map (·.moved move) := by
  obtain ⟨current, openBlocks⟩ := building
  cases directive with
  | plain statement => rfl
  | openIf condition => exact enter_moved move _ line _
  | openWhile condition => exact enter_moved move _ line _
  | openFor name first last => exact enter_moved move _ line _
  | elseIf condition =>
    rcases openBlocks with _ | ⟨⟨opened, opener, around⟩, outer⟩
    · rfl
    cases opener with
    | branch branches earlier =>
      show (expressionOf "if" condition >>= _) = (expressionOf "if" condition >>= _).map _
      cases expressionOf "if" condition <;> rfl
    | otherwise | whileLoop | forLoop => rfl
  | otherwise | endIf | endLoop =>
    rcases openBlocks with _ | ⟨⟨opened, opener, around⟩, outer⟩
    · rfl
    · cases opener <;> rfl

theorem step_moved (move : Nat → Nat) (building : Building) (statement : SourceStatement) :
    (building.moved move).step (statement.moved move) =
      ((building.step statement).map (·.moved move)).mapError (·.moved move) := by
  unfold step
  cases read : directive statement.text with
  | error cause =>
    rw [SourceStatement.moved, read]
    rfl
  | ok directive =>
    have followed := building.follow_moved move statement.line directive
    rw [SourceStatement.moved, read]
    show ((building.moved move).follow (move statement.line) directive).mapError _ =
      (((building.follow statement.line directive).mapError _).map _).mapError _
    rw [followed]
    cases building.follow statement.line directive <;> rfl

theorem foldlM_moved (move : Nat → Nat) (building : Building) (statements : List SourceStatement) :
    (statements.map (·.moved move)).foldlM step (building.moved move) =
      ((statements.foldlM step building).map (·.moved move)).mapError (·.moved move) := by
  induction statements generalizing building with
  | nil => rfl
  | cons statement statements inductionHypothesis =>
    rw [List.map_cons, List.foldlM_cons, List.foldlM_cons, step_moved]
    cases building.step statement with
    | error reason => rfl
    | ok building => exact inductionHypothesis building

theorem finish_moved (move : Nat → Nat) (building : Building) :
    (building.moved move).finish = building.finish.mapError (·.moved move) := by
  obtain ⟨current, openBlocks⟩ := building
  cases openBlocks <;> rfl

end Building

/-- Statements are read alike wherever they stand, and refused on the line of the same
statement. -/
theorem ofSource_moved (move : Nat → Nat) (statements : List SourceStatement) :
    ofSource (statements.map (·.moved move)) = (ofSource statements).mapError (·.moved move) := by
  have followed := Building.foldlM_moved move Building.start statements
  unfold ofSource
  show (List.foldlM Building.step (Building.start.moved move) _ >>= _) = _
  rw [followed]
  cases statements.foldlM Building.step Building.start with
  | error reason => rfl
  | ok building => exact building.finish_moved move

end Statement

end SlashScript
