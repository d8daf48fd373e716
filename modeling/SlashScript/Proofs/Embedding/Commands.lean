/-
This file says when the splitter of statements leaves an expression whole. The splitter knows only
of double quotation marks, but a text may also stand between single ones. Outside of literals no
separator can occur in an expression. So an expression is cut only within a literal, and then the
first part ends in a literal that is not closed: the command that should take the expression is
refused. An expression without single quotation marks is never cut.
-/

import SlashScript.Proofs.Embedding.Accepted
import SlashScript.Proofs.Literal.Escaped

namespace SlashScript

/-! ### Blanks at the end of a line -/

namespace Text

theorem trimEnd_append_blanks {blanks : List Char} (allBlank : ∀ char ∈ blanks, isBlank char = true)
    (text : List Char) : trimEnd (text ++ blanks) = trimEnd text := by
  induction blanks generalizing text with
  | nil => rw [List.append_nil]
  | cons blank blanks inductionHypothesis =>
    obtain ⟨ofFirst, ofOthers⟩ := List.forall_mem_cons.mp allBlank
    rw [List.append_cons, inductionHypothesis ofOthers]
    exact List.rdropWhile_concat_pos _ _ _ ofFirst

theorem trim_append_blanks {blanks : List Char} (allBlank : ∀ char ∈ blanks, isBlank char = true)
    (text : List Char) : trim (text ++ blanks) = trim text := by
  unfold trim trimStart
  rw [List.dropWhile_append]
  split
  · rename_i isEmpty
    rw [List.isEmpty_iff.mp isEmpty, List.dropWhile_eq_nil_iff.mpr allBlank]
  · exact trimEnd_append_blanks allBlank _

theorem trimEnd_cons {char : Char} (visible : isBlank char = false) (text : List Char) :
    trimEnd (char :: text) = char :: trimEnd text := by
  obtain ⟨blanks, whole, allBlank⟩ := exists_blanks text
  have divided : char :: text = (char :: trimEnd text) ++ blanks := congrArg (char :: ·) whole
  have kept : trimEnd (trimEnd text) = trimEnd text := List.rdropWhile_idempotent _ _
  rw [divided, trimEnd_append_blanks allBlank, trimEnd_eq_self_iff]
  intro last isLast
  rcases trimmed : trimEnd text with _ | ⟨first, rest⟩
  · rw [trimmed] at isLast
    cases isLast
    exact visible
  · rw [trimmed] at isLast kept
    exact trimEnd_eq_self_iff.mp kept last isLast

end Text

/-! ### The splitter on an accepted text -/

namespace Layout

open Token (Quotes Quoting isStray isQuotationMark)

/-- A text between double quotation marks is kept whole. -/
theorem splitFrom_quotes {body content : List Char} (quotes : Quotes '"' body content)
    {depth : Nat} {rest first : List Char} {others : List (List Char)}
    (split : splitFrom false depth rest = first :: others) :
    splitFrom true depth (body ++ '"' :: rest) = (body ++ '"' :: first) :: others := by
  induction quotes with
  | nil =>
    have closing : ('"' != '"') = false := rfl
    rw [List.nil_append, splitFrom_quoted (by decide), closing, split]
    rfl
  | escaped char _ ofBody =>
    rw [List.cons_append, List.cons_append, splitFrom_protected, ofBody]
    rfl
  | plain notBackslash notMark _ ofBody =>
    rw [List.cons_append, splitFrom_quoted notBackslash, bne_iff_ne.mpr notMark, ofBody]
    rfl

theorem head?_ne_semicolon {text content : List Char} (quoting : Quoting text content) :
    text.head? ≠ some ';' := by
  intro isFirst
  cases quoting with
  | nil => cases isFirst
  | outside notStray =>
    cases isFirst
    cases notStray
  | quoted isMark =>
    cases isFirst
    cases isMark

/-- An accepted text without single quotation marks is kept whole. -/
theorem splitFrom_quoting {text content : List Char} (quoting : Quoting text content)
    (noSingleMark : '\'' ∉ text) {depth : Nat} {rest first : List Char} {others : List (List Char)}
    (notSemicolon : rest.head? ≠ some ';') (split : splitFrom false depth rest = first :: others) :
    splitFrom false depth (text ++ rest) = (text ++ first) :: others := by
  induction quoting with
  | nil => exact split
  | @outside char text _ notStray notMark later ofText =>
    have ofText := ofText fun member => noSingleMark (List.mem_cons_of_mem _ member)
    have goesOn : (text ++ rest).head? ≠ some ';' := by
      rcases text with _ | ⟨next, text⟩
      · exact notSemicolon
      · exact (head?_ne_semicolon later :)
    have notBracket : char ≠ '[' ∧ char ≠ ']' := by
      constructor
      all_goals
        rintro rfl
        cases notStray
    have notDouble : char ≠ '"' := by
      rintro rfl
      cases notMark
    have sameDepth : depthAfter depth char = depth := by
      rw [depthAfter, if_neg notBracket.1, if_neg notBracket.2]
    rw [List.cons_append, splitFrom_unquoted fun separator => goesOn separator.2.2, sameDepth,
      decide_eq_false notDouble, ofText]
    rfl
  | @quoted mark body _ text _ isMark quotes later ofText =>
    have isDouble : mark = '"' := by
      rcases Token.isQuotationMark_iff.mp isMark with isDouble | isSingle
      · exact isDouble
      · exact absurd (isSingle ▸ List.mem_cons_self) noSingleMark
    subst isDouble
    have ofText := ofText fun member => noSingleMark (by simp [member])
    have opening : ∀ after, splitFrom false depth ('"' :: after) =
        prependChar '"' (splitFrom true depth after) := fun after =>
      splitFrom_unquoted fun separator => absurd separator.1 (by decide)
    rw [List.cons_append, List.append_assoc, List.cons_append, opening,
      splitFrom_quotes quotes ofText]
    simp [prependChar]

/-- Without single quotation marks, or without separators, nothing is cut. -/
theorem splitStatements_of_quoting {text content : List Char} (quoting : Quoting text content)
    (noCut : '\'' ∉ text ∨ ¬ ['%', ';'] <:+: text) : splitStatements text = [text] := by
  rcases noCut with noSingleMark | noSeparator
  · have noMore : ([] : List Char).head? ≠ some ';' := nofun
    have nothing : splitFrom false 0 [] = [[]] := rfl
    have whole := splitFrom_quoting quoting noSingleMark noMore nothing
    rwa [List.append_nil] at whole
  · rcases splitStatements_cases text with whole | ⟨first, _, rest, _, _, isFirst⟩
    · exact whole
    · exact absurd ⟨first, rest, by rw [isFirst, List.append_assoc]; rfl⟩ noSeparator

end Layout

theorem Expression.parse_nil : parse [] = .error .unexpectedEnd := by
  unfold parse
  rw [Token.readAll_nil]
  rfl

/-- Before a separator an accepted text ends in a literal that is not closed. -/
theorem Expression.parse_before_separator {first rest : List Char} {expression : Expression}
    (parsed : parse (first ++ '%' :: ';' :: rest) = .ok expression) :
    parse first = .error .unterminatedText := by
  refine (parse_cut (by decide) (fun tokens lexes => ⟨';', ?_⟩) parsed).1
  cases lexes with
  | blank isBlank => cases isBlank
  | token _ step later =>
    cases step
    exact List.mem_cons_of_mem _ (later.unknown_mem rfl)

/-! ### Commands on one line -/

namespace Statement

/-- A command and its argument on one line. -/
def commanding (name : String) (argument : List Char) : List Char :=
  '/' :: (name.toList ++ ' ' :: argument)

/-- The name has no blanks in it, and nothing that means something to the splitter. -/
structure IsCommand (name : String) : Prop where
  visible : name.toList.all (!Text.isBlank ·) = true
  meaningless : name.toList.all (· ∉ ['%', '[', ']', '"']) = true

section

variable {name : String}

theorem commanding_eq (argument : List Char) :
    commanding name argument = '/' :: (name.toList ++ [' ']) ++ argument := by
  simp [commanding]

theorem IsCommand.not_isBlank (isCommand : IsCommand name) :
    ∀ char ∈ '/' :: name.toList, Text.isBlank char = false := by
  refine List.forall_mem_cons.mpr ⟨rfl, fun char member => ?_⟩
  simpa using List.all_eq_true.mp isCommand.visible char member

/-- If the argument of a command is blank, nothing but its name is left. -/
theorem trimEnd_commanding_of_blank (isCommand : IsCommand name) {argument : List Char}
    (allBlank : ∀ char ∈ argument, Text.isBlank char = true) :
    Text.trimEnd (commanding name argument) = '/' :: name.toList := by
  have onlyBlanks : ∀ char ∈ ' ' :: argument, Text.isBlank char = true :=
    List.forall_mem_cons.mpr ⟨rfl, allBlank⟩
  rw [commanding, ← List.cons_append, Text.trimEnd_append_blanks onlyBlanks]
  exact Text.trimEnd_eq_self_iff.mpr fun char isLast =>
    isCommand.not_isBlank char (List.mem_of_getLast? isLast)

theorem getLast?_commanding {argument : List Char} (nonempty : argument ≠ []) :
    (commanding name argument).getLast? = argument.getLast? := by
  rw [commanding_eq, List.getLast?_append, List.getLast?_eq_some_getLast nonempty]
  rfl

/-- If it is not, the command ends where its argument does. -/
theorem trimEnd_commanding {argument : List Char} (nonempty : Text.trimEnd argument ≠ []) :
    Text.trimEnd (commanding name argument) = commanding name (Text.trimEnd argument) := by
  obtain ⟨blanks, whole, allBlank⟩ := Text.exists_blanks argument
  have divided : commanding name argument = commanding name (Text.trimEnd argument) ++ blanks := by
    conv_lhs => rw [whole]
    rw [commanding_eq, commanding_eq, List.append_assoc]
  rw [divided, Text.trimEnd_append_blanks allBlank, Text.trimEnd_eq_self_iff,
    getLast?_commanding nonempty, ← Text.trimEnd_eq_self_iff]
  exact List.rdropWhile_idempotent _ _

theorem splitCommand_of_name (isCommand : IsCommand name) :
    splitCommand ('/' :: name.toList) = some (name, []) := by
  have visible : ∀ char ∈ name.toList, (!Text.isBlank char) = true :=
    List.all_eq_true.mp isCommand.visible
  rw [splitCommand, List.takeWhile_eq_self_iff.mpr visible, List.dropWhile_eq_nil_iff.mpr visible,
    String.ofList_toList]
  rfl

/-- The argument of a command does not depend on the blanks at the end of its line. -/
theorem splitCommand_trim_commanding (isCommand : IsCommand name) (argument : List Char) :
    splitCommand (Text.trim (commanding name argument)) = some (name, Text.trim argument) := by
  have start : Text.trim (commanding name argument) = Text.trimEnd (commanding name argument) :=
    congrArg Text.trimEnd (Text.trimStart_of_not_blank _ _ rfl)
  obtain ⟨blanks, whole, allBlank⟩ := Text.exists_blanks argument
  have sameArgument : Text.trim argument = Text.trim (Text.trimEnd argument) := by
    conv_lhs => rw [whole, Text.trim_append_blanks allBlank]
  rw [start, sameArgument]
  by_cases kept : Text.trimEnd argument = []
  · rw [kept, List.nil_append] at whole
    rw [trimEnd_commanding_of_blank isCommand (whole ▸ allBlank), splitCommand_of_name isCommand,
      kept]
    rfl
  · rw [trimEnd_commanding kept, commanding, splitCommand_append isCommand.visible,
      String.ofList_toList]

theorem splitStatements_commanding (isCommand : IsCommand name)
    {argument first : List Char} {others : List (List Char)}
    (split : Layout.splitStatements argument = first :: others) :
    Layout.splitStatements (commanding name argument) = commanding name first :: others := by
  have meaningless : ('/' :: (name.toList ++ [' '])).all (· ∉ ['%', '[', ']', '"']) = true := by
    rw [List.all_cons, List.all_append, isCommand.meaningless]
    rfl
  rw [commanding_eq, commanding_eq]
  exact Layout.splitFrom_append _ meaningless split

/-- The first statement of a line with a command takes the first piece of its argument. -/
theorem statements_commanding (isCommand : IsCommand name) {argument first : List Char}
    {others : List (List Char)} (oneLine : '\n' ∉ argument) (nonempty : argument ≠ [])
    (closed : argument.getLast? ≠ some '\\')
    (split : Layout.splitStatements argument = first :: others) :
    Layout.statements (commanding name argument) =
      ⟨1, Text.trim (commanding name first)⟩ :: (others.map Text.trim).filterMap fun text =>
        if text.isEmpty then none else some ⟨1, text⟩ := by
  have oneLineCommand : '\n' ∉ commanding name argument := by
    intro member
    rw [commanding, ← List.cons_append] at member
    rcases List.mem_append.mp member with inName | member
    · exact absurd (isCommand.not_isBlank '\n' inName) (by decide)
    rcases List.mem_cons.mp member with never | member
    · exact absurd never (by decide)
    · exact oneLine member
  have notEmpty : ¬ (Text.trim (commanding name first)).isEmpty = true := by
    intro isEmpty
    have command := splitCommand_trim_commanding isCommand first
    rw [List.isEmpty_iff.mp isEmpty] at command
    cases command
  rw [← getLast?_commanding nonempty] at closed
  rw [commanding, Layout.statements_of_line oneLineCommand closed, Layout.statementsOfLine]
  rw [← commanding, splitStatements_commanding isCommand split, List.map_cons, List.filterMap_cons,
    if_neg notEmpty]

theorem parse_of_failed {source : List Char} {line : SourceStatement}
    {lines : List SourceStatement} {cause : CompileCause}
    (statements : Layout.statements source = line :: lines)
    (failed : directive line.text = .error cause) : parse source = .error ⟨line.line, cause⟩ := by
  unfold parse ofSource
  rw [statements, List.foldlM_cons, Building.step, failed]
  rfl

end

/-! ### Commands that take an expression -/

/-- The command makes a statement of one expression. -/
structure TakesExpression (name : String) (make : Expression → Statement) : Prop
    extends IsCommand name where
  directive : ∀ rest, directiveOfCommand name rest =
    (expressionOf name rest).map fun expression => .plain (make expression)

theorem emit_takesExpression : TakesExpression "emit" fun expression => .emit expression.items where
  visible := rfl
  meaningless := rfl
  directive rest := by
    show (expressionOf "emit" rest >>= _) = _
    cases expressionOf "emit" rest <;> rfl

theorem expr_takesExpression : TakesExpression "expr" .evaluate where
  visible := rfl
  meaningless := rfl
  directive rest := by
    show (expressionOf "expr" rest >>= _) = _
    cases expressionOf "expr" rest <;> rfl

section

variable {name : String} {make : Expression → Statement}

/-- What the command makes of its argument. -/
theorem directive_commanding (takes : TakesExpression name make) {argument : List Char}
    (notEmpty : Expression.parse argument ≠ .error .unexpectedEnd) :
    directive (Text.trim (commanding name argument)) =
      ((Expression.parse argument).mapError (.expression name)).map fun expression =>
        .plain (make expression) := by
  have trimmed : ∀ text, Expression.parse (Text.trim text) = Expression.parse text := fun text =>
    congrArg (· >>= Expression.ofTokens) (Token.readAll_trim text)
  have nonempty : ¬ (Text.trim (Text.trim argument)).isEmpty = true := by
    intro isEmpty
    rw [← trimmed argument, ← trimmed, List.isEmpty_iff.mp isEmpty] at notEmpty
    exact notEmpty Expression.parse_nil
  unfold directive
  rw [splitCommand_trim_commanding takes.toIsCommand]
  refine (takes.directive _).trans ?_
  rw [expressionOf, if_neg nonempty, trimmed]

/-- A command takes an accepted expression if the splitter leaves it whole, and is refused if the
splitter cuts it. -/
theorem parse_commanding (takes : TakesExpression name make) {source : List Char}
    {expression : Expression} (oneLine : '\n' ∉ source)
    (accepted : Expression.parse source = .ok expression) :
    (Layout.splitStatements source = [source] →
        parse (commanding name source) = .ok [make expression]) ∧
      (Layout.splitStatements source ≠ [source] →
        parse (commanding name source) = .error ⟨1, .expression name .unterminatedText⟩) := by
  have nonempty : source ≠ [] := by
    rintro rfl
    cases Expression.parse_nil.symm.trans accepted
  have closed := Expression.getLast?_ne_backslash accepted
  constructor
  · intro whole
    have notEmpty : Expression.parse source ≠ .error .unexpectedEnd := by
      rw [accepted]
      exact nofun
    have read := directive_commanding takes notEmpty
    rw [accepted] at read
    have statements := statements_commanding takes.toIsCommand oneLine nonempty closed whole
    exact parse_of_plain statements read
  · intro cut
    rcases Layout.splitStatements_cases source with whole | ⟨first, more, rest, split, _, isFirst⟩
    · exact absurd whole cut
    have failed := Expression.parse_before_separator (isFirst ▸ accepted)
    have notEmpty : Expression.parse first ≠ .error .unexpectedEnd := by
      rw [failed]
      exact nofun
    have refused := directive_commanding takes notEmpty
    rw [failed] at refused
    have statements := statements_commanding takes.toIsCommand oneLine nonempty closed split
    exact parse_of_failed statements refused

end

/-- If the splitter leaves an accepted expression of one line whole, the commands that emit and that
evaluate it are statements of just this expression. If the splitter cuts it, both are refused for a
literal that is not closed. It leaves every expression whole that has no single quotation mark, and
every one without a separator. -/
theorem parse_of_accepted {source : List Char} {expression : Expression} (oneLine : '\n' ∉ source)
    (accepted : Expression.parse source = .ok expression) :
    (Layout.splitStatements source = [source] →
        parse (commanding "emit" source) = .ok [.emit expression.items] ∧
          parse (commanding "expr" source) = .ok [.evaluate expression]) ∧
      (Layout.splitStatements source ≠ [source] →
        parse (commanding "emit" source) = .error ⟨1, .expression "emit" .unterminatedText⟩ ∧
          parse (commanding "expr" source) = .error ⟨1, .expression "expr" .unterminatedText⟩) ∧
        ('\'' ∉ source ∨ ¬ ['%', ';'] <:+: source → Layout.splitStatements source = [source]) := by
  obtain ⟨emitted, emitRefused⟩ := parse_commanding emit_takesExpression oneLine accepted
  obtain ⟨evaluated, exprRefused⟩ := parse_commanding expr_takesExpression oneLine accepted
  refine ⟨fun whole => ⟨emitted whole, evaluated whole⟩,
    fun cut => ⟨emitRefused cut, exprRefused cut⟩, fun noCut => ?_⟩
  exact Layout.splitStatements_of_quoting (Expression.quoting_of_parse accepted) noCut

/-- A separator between double quotation marks is kept, brackets and remainders included. -/
theorem parse_of_accepted_list :
    parse (commanding "emit" "\"a%;]\" + x%2, y".toList) =
        .ok [.emit [.binary .add (.literal (.text "a%;]"))
          (.binary .rem (.named "x") (.literal (.integer 2))), .named "y"]] ∧
      parse (commanding "expr" "\"a%;]\" + x%2, y".toList) =
        .ok [.evaluate (.sequence [.binary .add (.literal (.text "a%;]"))
          (.binary .rem (.named "x") (.literal (.integer 2))), .named "y"])] := by
  have oneLine : '\n' ∉ "\"a%;]\" + x%2, y".toList := by decide
  have read : Token.readAll "\"a%;]\" + x%2, y".toList =
      .ok [.text "a%;]", .operator .add, .name "x", .operator .rem, .integer 2, .comma,
        .name "y"] :=
    Token.readAll_eq_ok_iff.mpr <| .token rfl rfl <| .blank rfl <| .token rfl rfl <|
      .blank rfl <| .token rfl rfl <| .token rfl rfl <| .token rfl rfl <| .token rfl rfl <|
        .blank rfl <| .token rfl rfl .nil
  have accepted : Expression.parse "\"a%;]\" + x%2, y".toList =
      .ok (.sequence [.binary .add (.literal (.text "a%;]"))
        (.binary .rem (.named "x") (.literal (.integer 2))), .named "y"]) :=
    bind_eq_ok.mpr ⟨_, read, rfl⟩
  obtain ⟨taken, _, whole⟩ := parse_of_accepted oneLine accepted
  exact taken (whole (.inl (by decide)))

/-- Between single quotation marks it is not. -/
theorem not_parse_of_accepted :
    '\n' ∉ "'a%;b'".toList ∧
      Expression.parse "'a%;b'".toList = .ok (.literal (.text "a%;b")) ∧
        ¬ parse (commanding "emit" "'a%;b'".toList) = .ok [.emit [.literal (.text "a%;b")]] := by
  refine ⟨by decide, by cbv, fun parsed => ?_⟩
  have refused : parse (commanding "emit" "'a%;b'".toList) =
      .error ⟨1, .expression "emit" .unterminatedText⟩ := by cbv
  cases refused.symm.trans parsed

end Statement

end SlashScript
