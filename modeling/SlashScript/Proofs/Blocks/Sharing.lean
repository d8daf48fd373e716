/-
This file compares two statements that share a line, with a separator between them, with the same
two statements on lines of their own. What statements are read as does not depend on their lines,
refusals apart, so only their texts matter. The separator divides the line where it stands if every
bracket before it is closed, whether a dollar sign stands before the bracket or not. Otherwise it
belongs to the text of the last statement before it, and the two layouts are different scripts.
-/

import SlashScript.Proofs.Embedding.Commands

namespace SlashScript

/-! ### Statements wherever they stand -/

/-- The statement without its line. -/
def SourceStatement.unplaced (statement : SourceStatement) : SourceStatement :=
  { statement with line := 0 }

/-- The refusal without its line. -/
def CompileError.unplaced (error : CompileError) : CompileError :=
  { error with line := 0 }

namespace Statement

/-- Statements are read alike wherever they stand. -/
theorem ofSource_unplaced (statements : List SourceStatement) :
    ofSource (statements.map SourceStatement.unplaced) =
      (ofSource statements).mapError CompileError.unplaced :=
  ofSource_moved (fun _ => 0) statements

/-- Only the texts of statements say what they are read as, or why they are refused. -/
theorem ofSource_congr {statements statements' : List SourceStatement}
    (same : statements.map SourceStatement.text = statements'.map SourceStatement.text) :
    (ofSource statements).mapError CompileError.message =
      (ofSource statements').mapError CompileError.message := by
  have unplaced : ∀ statements : List SourceStatement,
      statements.map SourceStatement.unplaced =
        (statements.map SourceStatement.text).map fun text => ⟨0, text⟩ := fun statements =>
    (List.map_map ..).symm
  have message : ∀ read : Except CompileError Block,
      read.mapError CompileError.message =
        (read.mapError CompileError.unplaced).mapError CompileError.message := by
    rintro (_ | _) <;> rfl
  rw [message, ← ofSource_unplaced, message (ofSource statements'), ← ofSource_unplaced, unplaced,
    unplaced, same]

end Statement

/-! ### Statements of one line -/

namespace Text

theorem lines_of_oneLine {text : List Char} (oneLine : '\n' ∉ text) :
    lines text = if text = [] then [] else [text] := by
  split
  · next empty => rw [empty]; rfl
  · next nonempty => exact linesFrom_of_not_mem oneLine (.inr nonempty)

/-- Trimming takes blanks only. -/
theorem count_trim {char : Char} (visible : isBlank char = false) (text : List Char) :
    (trim text).count char = text.count char := by
  have dropped : ∀ text : List Char, (text.dropWhile isBlank).count char = text.count char := by
    intro text
    have blanks : (text.takeWhile isBlank).count char = 0 :=
      List.count_eq_zero.mpr fun member =>
        ne_true_of_eq_false visible (List.mem_takeWhile_imp member)
    conv_rhs => rw [← @List.takeWhile_append_dropWhile _ isBlank text]
    rw [List.count_append, blanks, Nat.zero_add]
  unfold trim trimEnd trimStart
  rw [List.count_reverse, dropped, List.count_reverse, dropped]

end Text

namespace Layout

theorem isComment_append {char : Char} (visible : Text.isBlank char = false)
    (noComment : isComment [char] = false) (text rest : List Char) :
    isComment (text ++ ' ' :: char :: rest) = isComment text := by
  rw [isComment_append_ite]
  split
  · next blank =>
    have blankText : isComment text = false := @isComment_congr text [] (by rw [blank]; rfl)
    have blankFirst : Text.trimStart (' ' :: char :: rest) = Text.trimStart (char :: rest) := rfl
    rw [blankText, ← noComment]
    refine isComment_congr ?_
    rw [blankFirst, Text.trimStart_of_not_blank _ _ visible,
      Text.trimStart_of_not_blank _ _ visible]
    rfl
  · rfl

/-- The line without the backslash that lets it go on. -/
def body (line : List Char) : List Char :=
  if line.getLast? = some '\\' then line.dropLast else line

theorem body_of_closed {line : List Char} (closed : line.getLast? ≠ some '\\') :
    body line = line :=
  if_neg closed

theorem body_append {first : List Char} (closed : first.getLast? ≠ some '\\')
    (second : List Char) : body (first ++ second) = first ++ body second := by
  rcases eq_or_ne second [] with rfl | nonempty
  · rw [List.append_nil, body_of_closed closed]
    exact (List.append_nil first).symm
  unfold body
  rw [List.getLast?_append_of_ne_nil _ nonempty, apply_ite (first ++ ·),
    List.dropLast_append_of_ne_nil nonempty]

/-- A text of one line that is no comment is one logical line. -/
theorem statements_of_oneLine {text : List Char} (oneLine : '\n' ∉ text)
    (noComment : isComment text = false) : statements text = statementsOfLine ⟨1, body text⟩ := by
  unfold statements logicalLines
  rw [Text.lines_of_oneLine oneLine]
  split
  · next empty => rw [empty]; rfl
  · rw [logicalLinesFrom, noComment]
    unfold body
    by_cases goesOn : text.getLast? = some '\\'
    · simp only [Bool.false_eq_true, if_false, if_pos goesOn, logicalLinesFrom]
      exact List.append_nil _
    · simp only [Bool.false_eq_true, if_false, if_neg goesOn, logicalLinesFrom]
      exact List.append_nil _

theorem closes_of_oneLine {text : List Char} (oneLine : '\n' ∉ text)
    (closed : text.getLast? ≠ some '\\') : Closes (Text.lines text) := by
  intro line isLast
  have member := (List.mem_filter.mp (List.mem_of_getLast? isLast)).1
  rw [Text.lines_of_oneLine oneLine] at member
  split at member
  · cases member
  · rwa [List.mem_singleton.mp member]

/-- The pieces that are statements, without the blanks around them. -/
def visible (pieces : List (List Char)) : List (List Char) :=
  (pieces.map Text.trim).filter (!·.isEmpty)

theorem texts_statementsOfLine (line : SourceStatement) :
    (statementsOfLine line).map SourceStatement.text = visible (splitStatements line.text) := by
  unfold statementsOfLine visible
  rw [List.map_filterMap, ← List.filterMap_eq_filter]
  congr 1
  funext text
  cases text <;> rfl

theorem visible_append (pieces pieces' : List (List Char)) :
    visible (pieces ++ pieces') = visible pieces ++ visible pieces' := by
  unfold visible
  rw [List.map_append, List.filter_append]

theorem visible_cons {piece : List Char} (notBlank : Text.trim piece ≠ [])
    (pieces : List (List Char)) :
    visible (piece :: pieces) = Text.trim piece :: visible pieces := by
  simp [visible, notBlank]

theorem visible_congr {piece piece' : List Char} (same : Text.trim piece = Text.trim piece')
    (pieces : List (List Char)) : visible (piece :: pieces) = visible (piece' :: pieces) := by
  unfold visible
  rw [List.map_cons, List.map_cons, same]

/-! ### A separator after a text -/

/-- The number of open brackets after a text without double quotation marks. -/
def openAfter (depth : Nat) (text : List Char) : Nat :=
  text.foldl depthAfter depth

theorem openAfter_of_not_mem {text : List Char} (noBracket : '[' ∉ text) :
    openAfter 0 text = 0 := by
  induction text with
  | nil => rfl
  | cons char text inductionHypothesis =>
    rw [List.mem_cons, not_or] at noBracket
    have sameDepth : depthAfter 0 char = 0 := by
      rw [depthAfter, if_neg (Ne.symm noBracket.1), Nat.zero_sub, ite_self]
    rw [openAfter, List.foldl_cons, sameDepth]
    exact inductionHypothesis noBracket.2

/-- The last piece of a text without double quotation marks goes on in what comes after the text.
If it is not the whole text, it starts where no bracket is open. -/
theorem splitFrom_append_unquoted {rest : List Char} (goesOn : rest.head? ≠ some ';')
    {depth : Nat} {text : List Char} (noMark : '"' ∉ text) :
    ∃ before last, splitFrom false depth text = before ++ [last] ∧
      (if before = [] then last = text else openAfter depth text = openAfter 0 last) ∧
      ∀ first others, splitFrom false (openAfter depth text) rest = first :: others →
        splitFrom false depth (text ++ rest) = before ++ (last ++ first) :: others := by
  suffices ofUnquoted : ∀ quoted depth (text : List Char), quoted = false → '"' ∉ text →
      ∃ before last, splitFrom false depth text = before ++ [last] ∧
        (if before = [] then last = text else openAfter depth text = openAfter 0 last) ∧
        ∀ first others, splitFrom false (openAfter depth text) rest = first :: others →
          splitFrom false depth (text ++ rest) = before ++ (last ++ first) :: others from
    ofUnquoted false depth text rfl noMark
  intro quoted depth text
  induction quoted, depth, text using splitFrom_induction with
  | backslash | isProtected | isQuoted => nofun
  | nil quoted depth =>
    intro _ _
    exact ⟨[], [], rfl, rfl, fun first others split => split⟩
  | separator text ofText =>
    intro _ noMark
    obtain ⟨before, last, isSplit, start, joins⟩ :=
      ofText rfl fun member => noMark (.tail _ (.tail _ member))
    refine ⟨[] :: before, last, ?_, ?_, fun first others split => ?_⟩
    · rw [splitFrom_separator, isSplit]
      rfl
    · rw [if_neg (List.cons_ne_nil _ _)]
      split at start
      · rw [start]
        rfl
      · exact start
    · rw [List.cons_append, List.cons_append, splitFrom_separator, joins first others split]
      rfl
  | unquoted depth char text noSeparator ofText =>
    intro _ noMark
    rw [List.mem_cons, not_or] at noMark
    have unquoted : decide (char = '"') = false := decide_eq_false (Ne.symm noMark.1)
    have noSeparatorThen : ¬ (char = '%' ∧ depth = 0 ∧ (text ++ rest).head? = some ';') := by
      rcases text with _ | ⟨next, text⟩
      · exact fun separator => goesOn separator.2.2
      · exact noSeparator
    obtain ⟨before, last, isSplit, start, joins⟩ := ofText unquoted noMark.2
    rw [List.cons_append, splitFrom_unquoted noSeparator, splitFrom_unquoted noSeparatorThen,
      unquoted, isSplit]
    rcases before with _ | ⟨piece, before⟩
    · refine ⟨[], char :: last, rfl, congrArg (char :: ·) start, fun first others split => ?_⟩
      rw [joins first others split]
      rfl
    · refine ⟨(char :: piece) :: before, last, rfl, start, fun first others split => ?_⟩
      rw [joins first others split]
      rfl

end Layout

/-! ### Two statements on one line or on two -/

namespace Layout

section

variable {first second : List Char}

/-- The statements that two texts on lines of their own have. -/
theorem texts_on_two_lines (noReturn : '\r' ∉ first) (oneLine : '\n' ∉ first)
    (closed : first.getLast? ≠ some '\\') (noComment : isComment first = false)
    (secondOneLine : '\n' ∉ second) (secondNoComment : isComment second = false) :
    (statements (first ++ '\n' :: second)).map SourceStatement.text =
      visible (splitStatements first) ++ visible (splitStatements (body second)) := by
  have unmoved : ∀ statements : List SourceStatement,
      (statements.map (·.lowered (first.count '\n' + 1))).map SourceStatement.text =
        statements.map SourceStatement.text := fun statements => List.map_map ..
  rw [statements_join noReturn (closes_of_oneLine oneLine closed), List.map_append, unmoved,
    statements_of_oneLine oneLine noComment, statements_of_oneLine secondOneLine secondNoComment,
    texts_statementsOfLine, texts_statementsOfLine, body_of_closed closed]

/-- The statements that they have on one line. -/
theorem texts_on_one_line (oneLine : '\n' ∉ first) (noComment : isComment first = false)
    (secondOneLine : '\n' ∉ second) :
    (statements (first ++ " %; ".toList ++ second)).map SourceStatement.text =
      visible (splitStatements (first ++ " %; ".toList ++ body second)) := by
  have oneLineThen : '\n' ∉ first ++ " %; ".toList ++ second := by
    simp [oneLine, secondOneLine]
  have noCommentThen : isComment (first ++ " %; ".toList ++ second) = false := by
    rw [List.append_assoc, ← noComment]
    exact isComment_append rfl rfl first _
  have blankLast : (first ++ " %; ".toList).getLast? = some ' ' :=
    List.getLast?_append_of_ne_nil first (by decide)
  rw [statements_of_oneLine oneLineThen noCommentThen, texts_statementsOfLine,
    body_append (blankLast ▸ by decide)]

/-- Blanks before the first piece are not seen. -/
theorem visible_prependChar {pieces : List (List Char)} (nonempty : pieces ≠ []) :
    visible (prependChar ' ' pieces) = visible pieces := by
  rcases pieces with _ | ⟨piece, pieces⟩
  · exact absurd rfl nonempty
  · exact visible_congr rfl pieces

theorem splitFrom_blank (depth : Nat) (rest : List Char) :
    splitFrom false depth (' ' :: rest) = prependChar ' ' (splitFrom false depth rest) :=
  splitFrom_unquoted fun separator => absurd separator.1 (by decide)

/-- Where every bracket is closed, the separator ends the statement before it. -/
theorem visible_of_closed (noMark : '"' ∉ first) (allClosed : openAfter 0 first = 0) :
    visible (splitStatements (first ++ " %; ".toList ++ second)) =
      visible (splitStatements first) ++ visible (splitStatements second) := by
  have goesOn : (" %; ".toList ++ second).head? ≠ some ';' := nofun
  obtain ⟨before, last, isSplit, -, joins⟩ := splitFrom_append_unquoted goesOn noMark
  have separated : splitFrom false (openAfter 0 first) (" %; ".toList ++ second) =
      [' '] :: prependChar ' ' (splitFrom false 0 second) := by
    rw [allClosed]
    exact (splitFrom_blank 0 _).trans (congrArg ([' '] :: ·) (splitFrom_blank 0 second))
  have trimmed : Text.trim (last ++ [' ']) = Text.trim last :=
    Text.trim_append_blanks (List.forall_mem_singleton.mpr rfl) last
  unfold splitStatements
  rw [List.append_assoc, joins _ _ separated, isSplit, List.append_cons, visible_append,
    visible_prependChar (splitFrom_ne_nil _ _ _), visible_append, visible_append,
    visible_congr trimmed]

/-- Where one is open, this statement goes on after the separator. -/
theorem visible_of_open (noMark : '"' ∉ first) (isOpen : openAfter 0 first ≠ 0)
    (pieces : List (List Char)) :
    visible (splitStatements (first ++ " %; ".toList ++ second)) ≠
      visible (splitStatements first) ++ visible pieces := by
  have goesOn : (" %; ".toList ++ second).head? ≠ some ';' := nofun
  obtain ⟨before, last, isSplit, start, joins⟩ := splitFrom_append_unquoted goesOn noMark
  obtain ⟨more, others, separated⟩ : ∃ more others,
      splitFrom false (openAfter 0 first) (" %; ".toList ++ second) =
        (' ' :: '%' :: more) :: others := by
    have percent : splitFrom false (openAfter 0 first) ('%' :: ';' :: ' ' :: second) =
        prependChar '%' (splitFrom false (openAfter 0 first) (';' :: ' ' :: second)) :=
      splitFrom_unquoted fun separator => isOpen separator.2.1
    rcases after : splitFrom false (openAfter 0 first) (';' :: ' ' :: second) with
      _ | ⟨more, others⟩
    · exact absurd after (splitFrom_ne_nil _ _ _)
    · refine ⟨more, others, (splitFrom_blank _ _).trans ?_⟩
      show prependChar ' ' (splitFrom false (openAfter 0 first) ('%' :: ';' :: ' ' :: second)) = _
      rw [percent, after]
      rfl
  have bracket : '[' ∈ last := by
    by_contra noBracket
    refine isOpen ?_
    split at start
    · exact start ▸ openAfter_of_not_mem noBracket
    · exact start.trans (openAfter_of_not_mem noBracket)
  have notBlank : ∀ more, Text.trim (last ++ more) ≠ [] := fun more blank => by
    have noBracket : (last ++ more).count '[' = 0 := by
      rw [← Text.count_trim rfl, blank]
      rfl
    exact List.count_eq_zero.mp noBracket (List.mem_append_left more bracket)
  have notBlankAlone : Text.trim last ≠ [] := List.append_nil last ▸ notBlank []
  intro same
  unfold splitStatements at same
  rw [List.append_assoc, joins _ _ separated, isSplit, visible_append, visible_append,
    List.append_assoc, List.append_cancel_left_eq, visible_cons (notBlank _),
    visible_cons notBlankAlone] at same
  have longer := congrArg (List.count '%') (List.cons.inj same).1
  rw [Text.count_trim rfl, Text.count_trim rfl, List.count_append,
    List.count_cons_of_ne (by decide), List.count_cons_self] at longer
  omega

end

end Layout

/-- Two texts of one line, a separator between them, have the same statements as on two lines
exactly if every bracket of the first is closed. Then they are read as the same block, or refused
for the same reason. -/
theorem Statement.parse_on_one_line_iff {first second : List Char} (oneLine : '\n' ∉ first)
    (noReturn : '\r' ∉ first) (secondOneLine : '\n' ∉ second) (noMark : '"' ∉ first)
    (closed : first.getLast? ≠ some '\\') (noComment : Layout.isComment first = false)
    (secondNoComment : Layout.isComment second = false) :
    ((Layout.statements (first ++ " %; ".toList ++ second)).map SourceStatement.text =
        (Layout.statements (first ++ '\n' :: second)).map SourceStatement.text ↔
      Layout.openAfter 0 first = 0) ∧
    (Layout.openAfter 0 first = 0 →
      (parse (first ++ " %; ".toList ++ second)).mapError CompileError.message =
        (parse (first ++ '\n' :: second)).mapError CompileError.message) := by
  have texts : (Layout.statements (first ++ " %; ".toList ++ second)).map SourceStatement.text =
      (Layout.statements (first ++ '\n' :: second)).map SourceStatement.text ↔
        Layout.openAfter 0 first = 0 := by
    rw [Layout.texts_on_one_line oneLine noComment secondOneLine,
      Layout.texts_on_two_lines noReturn oneLine closed noComment secondOneLine secondNoComment]
    constructor
    · exact fun same => by_contra fun isOpen => Layout.visible_of_open noMark isOpen _ same
    · exact Layout.visible_of_closed noMark
  exact ⟨texts, fun allClosed => ofSource_congr (texts.mpr allClosed)⟩

/-- A block is opened on the shared line and closed on the same line. -/
theorem Statement.parse_on_one_line_block :
    (parse "/if (1) %; [%;] 5% %; \"b %; c\" %; /endif".toList).mapError CompileError.message =
      (parse "/if (1) %; [%;] 5%\n\"b %; c\" %; /endif".toList).mapError CompileError.message :=
  (@parse_on_one_line_iff "/if (1) %; [%;] 5%".toList "\"b %; c\" %; /endif".toList (by decide)
    (by decide) (by decide) (by decide) (by decide) (by decide) (by decide)).2 (by decide)

/-- A bracket that belongs to no expression keeps the separator from ending the statement. -/
theorem Statement.not_parse_on_one_line :
    ('\n' ∉ "a[".toList ∧ '\r' ∉ "a[".toList ∧ '\n' ∉ "b".toList ∧ '"' ∉ "a[".toList ∧
      ¬ ['$', '['] <:+: "a[".toList ∧ "a[".toList.getLast? ≠ some '\\' ∧
      Layout.isComment "a[".toList = false ∧ Layout.isComment "b".toList = false) ∧
    (parse ("a[".toList ++ " %; ".toList ++ "b".toList)).mapError CompileError.message ≠
      (parse ("a[".toList ++ '\n' :: "b".toList)).mapError CompileError.message := by
  refine ⟨by decide, ?_⟩
  have oneLine : parse ("a[".toList ++ " %; ".toList ++ "b".toList) =
      .ok [.echo ⟨[.literal "a[ %; b"]⟩] := by cbv
  have twoLines : parse ("a[".toList ++ '\n' :: "b".toList) =
      .ok [.echo ⟨[.literal "a["]⟩, .echo ⟨[.literal "b"]⟩] := by cbv
  rw [oneLine, twoLines]
  intro same
  cases (List.cons.inj (Except.ok.inj same)).2

end SlashScript
