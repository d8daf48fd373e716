/-
This file says when an expression can be embedded in text. The reader of templates looks for the
bracket that closes the embedding before the expression is read, and it counts every bracket on its
way. An expression has brackets only in its literals. So the embedding ends where it should exactly
if the brackets in the literals are in pairs. Otherwise it ends too early, within a literal, or it
does not end at all.
-/

import Mathlib.Data.List.Infix
import SlashScript.Proofs.Embedding.Commands

namespace SlashScript

namespace Template

/-! ### Brackets in pairs -/

/-- The text closes all brackets that it opens, and so many that were opened before it. -/
def ClosesAll (depth : Nat) (text : List Char) : Prop :=
  (∀ start ∈ text.inits, start.count ']' ≤ depth + start.count '[') ∧
    text.count ']' = depth + text.count '['

/-- The brackets of the text are in pairs: each closing one closes one that was opened before it,
and none is left open. -/
def Paired (text : List Char) : Prop :=
  ClosesAll 0 text

instance (depth : Nat) : DecidablePred (ClosesAll depth) := fun _ =>
  inferInstanceAs (Decidable (_ ∧ _))

instance : DecidablePred Paired :=
  inferInstanceAs (DecidablePred (ClosesAll 0))

theorem closesAll_nil {depth : Nat} : ClosesAll depth [] ↔ depth = 0 := by
  simp [ClosesAll, eq_comm]

theorem closesAll_opening {depth : Nat} {text : List Char} :
    ClosesAll depth ('[' :: text) ↔ ClosesAll (depth + 1) text := by
  simp [ClosesAll, Nat.add_assoc, Nat.add_comm 1]

theorem not_closesAll_zero_closing (text : List Char) : ¬ ClosesAll 0 (']' :: text) := by
  intro closesAll
  have first : [']'] ∈ (']' :: text).inits := (List.mem_inits _ _).mpr ⟨text, rfl⟩
  exact absurd (closesAll.1 _ first) (by decide)

theorem closesAll_closing {depth : Nat} {text : List Char} :
    ClosesAll (depth + 1) (']' :: text) ↔ ClosesAll depth text := by
  simp [ClosesAll, Nat.add_right_comm depth 1]

theorem closesAll_other {char : Char} (notOpening : char ≠ '[') (notClosing : char ≠ ']')
    {depth : Nat} {text : List Char} : ClosesAll depth (char :: text) ↔ ClosesAll depth text := by
  simp [ClosesAll, notOpening, notClosing]

/-- What a character does to the brackets does not depend on what comes after it. -/
theorem closesAll_cons_congr {text text' : List Char}
    (same : ∀ depth, ClosesAll depth text ↔ ClosesAll depth text') (char : Char) (depth : Nat) :
    ClosesAll depth (char :: text) ↔ ClosesAll depth (char :: text') := by
  by_cases isOpening : char = '['
  · rw [isOpening, closesAll_opening, closesAll_opening, same]
  by_cases isClosing : char = ']'
  · subst isClosing
    cases depth with
    | zero => exact iff_of_false (not_closesAll_zero_closing _) (not_closesAll_zero_closing _)
    | succ depth => rw [closesAll_closing, closesAll_closing, same]
  · rw [closesAll_other isOpening isClosing, closesAll_other isOpening isClosing, same]

/-! ### The end of an embedding -/

theorem untilClosed_nil (depth : Nat) : untilClosed '[' ']' depth [] = none := rfl

theorem untilClosed_closing_zero (rest : List Char) :
    untilClosed '[' ']' 0 (']' :: rest) = some ([], rest) := rfl

theorem untilClosed_closing (depth : Nat) (rest : List Char) :
    untilClosed '[' ']' (depth + 1) (']' :: rest) =
      (untilClosed '[' ']' depth rest).map fun (inside, after) => (']' :: inside, after) := rfl

theorem untilClosed_opening (depth : Nat) (rest : List Char) :
    untilClosed '[' ']' depth ('[' :: rest) =
      (untilClosed '[' ']' (depth + 1) rest).map fun (inside, after) => ('[' :: inside, after) :=
  rfl

theorem untilClosed_other {char : Char} (notOpening : char ≠ '[') (notClosing : char ≠ ']')
    (depth : Nat) (rest : List Char) :
    untilClosed '[' ']' depth (char :: rest) =
      (untilClosed '[' ']' depth rest).map fun (inside, after) => (char :: inside, after) := by
  simp [untilClosed, notOpening, notClosing]

/-- A character that does not end the embedding belongs to it. -/
theorem untilClosed_step {depth depth' : Nat} {char : Char} {rest after : List Char}
    (step : untilClosed '[' ']' depth (char :: rest) =
      (untilClosed '[' ']' depth' rest).map fun (inside, after) => (char :: inside, after))
    (sameBrackets : ∀ text, ClosesAll depth (char :: text) ↔ ClosesAll depth' text)
    (goesOn : char = ']' → depth ≠ 0)
    (ofRest : ∀ inside, untilClosed '[' ']' depth' rest = some (inside, after) ↔
      rest = inside ++ ']' :: after ∧ ClosesAll depth' inside) (inside : List Char) :
    untilClosed '[' ']' depth (char :: rest) = some (inside, after) ↔
      char :: rest = inside ++ ']' :: after ∧ ClosesAll depth inside := by
  rw [step]
  rcases inside with _ | ⟨first, inside⟩
  · refine iff_of_false (fun found => ?_) fun ⟨isEnd, closesAll⟩ => ?_
    · obtain ⟨_, _, never⟩ := Option.map_eq_some_iff.mp found
      cases never
    · exact goesOn (List.cons.inj isEnd).1 (closesAll_nil.mp closesAll)
  · constructor
    · intro found
      obtain ⟨_, foundLater, ⟨⟩⟩ := Option.map_eq_some_iff.mp found
      obtain ⟨isRest, closesAll⟩ := (ofRest _).mp foundLater
      exact ⟨congrArg (List.cons _) isRest, (sameBrackets _).mpr closesAll⟩
    · rintro ⟨isEnd, closesAll⟩
      obtain ⟨rfl, isRest⟩ := List.cons.inj isEnd
      have found := (ofRest inside).mpr ⟨isRest, (sameBrackets inside).mp closesAll⟩
      rw [found]
      rfl

/-- The embedding ends at the first bracket before which all brackets are closed. -/
theorem untilClosed_eq_some_iff {depth : Nat} {chars inside after : List Char} :
    untilClosed '[' ']' depth chars = some (inside, after) ↔
      chars = inside ++ ']' :: after ∧ ClosesAll depth inside := by
  induction chars generalizing depth inside with
  | nil => simp [untilClosed_nil]
  | cons char rest inductionHypothesis =>
    by_cases isOpening : char = '['
    · subst isOpening
      exact untilClosed_step (untilClosed_opening depth rest) (fun _ => closesAll_opening)
        (fun never => absurd never (by decide)) (fun _ => inductionHypothesis) inside
    by_cases isClosing : char = ']'
    · subst isClosing
      cases depth with
      | zero =>
        rw [untilClosed_closing_zero]
        constructor
        · rintro ⟨⟩
          exact ⟨rfl, closesAll_nil.mpr rfl⟩
        · rintro ⟨isEnd, closesAll⟩
          rcases inside with _ | ⟨first, inside⟩
          · cases isEnd
            rfl
          · cases isEnd
            exact absurd closesAll (not_closesAll_zero_closing inside)
      | succ depth =>
        exact untilClosed_step (untilClosed_closing depth rest) (fun _ => closesAll_closing)
          (fun _ => Nat.succ_ne_zero depth) (fun _ => inductionHypothesis) inside
    · exact untilClosed_step (untilClosed_other isOpening isClosing depth rest)
        (fun _ => closesAll_other isOpening isClosing) (fun never => absurd never isClosing)
        (fun _ => inductionHypothesis) inside

/-! ### The brackets of an expression -/

open Token (Quotes Quoting)

/-- An escape changes no brackets. -/
theorem closesAll_unescape (char : Char) (depth : Nat) (text : List Char) :
    ClosesAll depth (char :: text) ↔ ClosesAll depth (Token.unescape char :: text) := by
  unfold Token.unescape
  split
  · rename_i isLetter
    subst isLetter
    rw [closesAll_other (by decide) (by decide), closesAll_other (by decide) (by decide)]
  split
  · rename_i isLetter
    subst isLetter
    rw [closesAll_other (by decide) (by decide), closesAll_other (by decide) (by decide)]
  · rfl

theorem closesAll_quotes {mark : Char} {body content text text' : List Char}
    (quotes : Quotes mark body content)
    (same : ∀ depth, ClosesAll depth text ↔ ClosesAll depth text') (depth : Nat) :
    ClosesAll depth (body ++ text) ↔ ClosesAll depth (content ++ text') := by
  induction quotes generalizing depth with
  | nil => exact same depth
  | escaped char _ ofBody =>
    rw [List.cons_append, List.cons_append, List.cons_append,
      closesAll_other (by decide) (by decide), closesAll_unescape]
    exact closesAll_cons_congr ofBody _ depth
  | plain _ _ _ ofBody => exact closesAll_cons_congr ofBody _ depth

/-- The brackets of an accepted text are those of its literals. -/
theorem closesAll_quoting {text content : List Char} (quoting : Quoting text content)
    (depth : Nat) : ClosesAll depth text ↔ ClosesAll depth content := by
  have notBracket : ∀ char, Token.isStray char = false → char ≠ '[' ∧ char ≠ ']' := by
    intro char notStray
    refine ⟨?_, ?_⟩
    all_goals
      rintro rfl
      cases notStray
  induction quoting generalizing depth with
  | nil => rfl
  | outside notStray _ _ ofText =>
    rw [closesAll_other (notBracket _ notStray).1 (notBracket _ notStray).2]
    exact ofText depth
  | @quoted mark _ _ _ _ isMark quotes _ ofText =>
    have markMeaningless : mark ≠ '[' ∧ mark ≠ ']' := by
      rcases Token.isQuotationMark_iff.mp isMark with rfl | rfl
      · decide
      · decide
    rw [closesAll_other markMeaningless.1 markMeaningless.2]
    refine closesAll_quotes quotes (fun depth => ?_) depth
    rw [closesAll_other markMeaningless.1 markMeaningless.2]
    exact ofText depth

/-! ### Embedded expressions -/

/-- An expression as it is written within a text. -/
def embedding (source : List Char) : List Char :=
  '$' :: '[' :: (source ++ [']'])

/-- The complaints about an embedded expression: its embedding does not end, or it ends at a bracket
within a literal, so that the literal is not closed. -/
inductive Misreads (source : List Char) : TemplateError → Prop where
  | unclosed : Misreads source .unclosedBracket
  | early {inside rest : List Char} (isBracket : source = inside ++ ']' :: rest) :
    Misreads source (.expression (String.ofList inside) .unterminatedText)

theorem pieces_of_failed {first : Char} {rest : List Char} {reason : TemplateError}
    (failed : readPiece first rest = .error reason) : pieces (first :: rest) = .error reason := by
  rw [pieces]
  split
  · rename_i failed'
    cases failed'.symm.trans failed
    rfl
  · rename_i step
    cases failed.symm.trans step

theorem compile_of_unclosed {text : List Char} (unclosed : untilClosed '[' ']' 0 text = none) :
    compile ('$' :: '[' :: text) = .error .unclosedBracket := by
  have failed : readPiece '$' ('[' :: text) = .error .unclosedBracket := by
    show readDollar ('[' :: text) = _
    rw [readDollar, unclosed]
    rfl
  unfold compile
  rw [pieces_of_failed failed]
  rfl

theorem readPiece_of_closed {text inside after : List Char}
    (closed : untilClosed '[' ']' 0 text = some (inside, after)) :
    readPiece '$' ('[' :: text) =
      (expressionPart inside).map fun part => (.part part, after) := by
  show readDollar ('[' :: text) = _
  rw [readDollar, closed]
  rfl

section

variable {source : List Char} {expression : Expression}
  (accepted : Expression.parse source = .ok expression)

include accepted

/-- An embedding that ends where it should is just its expression. -/
theorem compile_embedding (paired : Paired source) :
    compile (embedding source) = .ok ⟨[.expression expression]⟩ := by
  have closed : untilClosed '[' ']' 0 (source ++ [']']) = some (source, []) :=
    untilClosed_eq_some_iff.mpr ⟨rfl, paired⟩
  have step := readPiece_of_closed closed
  rw [expressionPart, accepted] at step
  exact compile_of_part step

/-- What is read of an embedding before its end is no expression. -/
theorem compile_start {text : List Char} (isStart : text <+: source ++ [']'])
    (noEnd : text ≠ source ++ [']'] ∨ ¬ Paired source) :
    ∃ reason, Misreads source reason ∧ compile ('$' :: '[' :: text) = .error reason := by
  rcases found : untilClosed '[' ']' 0 text with _ | ⟨inside, after⟩
  · exact ⟨_, .unclosed, compile_of_unclosed found⟩
  obtain ⟨rfl, closesAll⟩ := untilClosed_eq_some_iff.mp found
  obtain ⟨more, whole⟩ := isStart
  rw [List.append_assoc, List.cons_append] at whole
  rcases List.eq_nil_or_concat (after ++ more) with isEnd | ⟨rest, last, isEnd⟩
  · rw [isEnd] at whole
    obtain ⟨rfl, _⟩ := List.append_inj' whole rfl
    obtain ⟨rfl, rfl⟩ := List.append_eq_nil_iff.mp isEnd
    exact absurd closesAll (noEnd.resolve_left (absurd rfl))
  · rw [isEnd, List.concat_eq_append, ← List.cons_append, ← List.append_assoc] at whole
    obtain ⟨isSource, _⟩ := List.append_inj' whole rfl
    have cut := (Expression.parse_cut (by decide) (fun _ lexes => ⟨_, lexes.unknown_mem rfl⟩)
      (isSource ▸ accepted)).1
    have failed := readPiece_of_closed found
    rw [expressionPart, cut] at failed
    refine ⟨_, .early isSource.symm, ?_⟩
    unfold compile
    rw [pieces_of_failed failed]
    rfl

end

theorem getLast?_embedding (source : List Char) : (embedding source).getLast? = some ']' :=
  List.getLast?_concat (l := '$' :: '[' :: source)

theorem trim_embedding (source : List Char) : Text.trim (embedding source) = embedding source := by
  refine Text.trim_cons rfl fun char isLast => ?_
  rw [← embedding, getLast?_embedding] at isLast
  cases isLast
  rfl

end Template

/-! ### Embedded expressions in the splitter -/

namespace Layout

open Template (embedding)

/-- Where an embedding is cut, its expression is. -/
theorem exists_of_cut {source first rest : List Char}
    (cut : embedding source = first ++ '%' :: ';' :: rest) :
    ∃ start more, first = '$' :: '[' :: start ∧ source = start ++ '%' :: ';' :: more := by
  rcases first with _ | ⟨dollar, _ | ⟨bracket, start⟩⟩
  · exact absurd (List.cons.inj cut).1 (by decide)
  · exact absurd (List.cons.inj (List.cons.inj cut).2).1 (by decide)
  obtain ⟨rfl, cutBracket⟩ := List.cons.inj cut
  obtain ⟨rfl, cutSource⟩ := List.cons.inj cutBracket
  rcases List.eq_nil_or_concat rest with rfl | ⟨more, last, rfl⟩
  · have isLast := (List.append_inj' (cutSource.trans (List.append_cons start '%' [';'])) rfl).2
    exact absurd isLast (by decide)
  · have whole : source ++ [']'] = (start ++ '%' :: ';' :: more) ++ [last] := by
      rw [cutSource, List.concat_eq_append, List.append_assoc]
      rfl
    exact ⟨start, more, rfl, (List.append_inj' whole rfl).1⟩

/-- The splitter leaves an embedding whole if it leaves its expression whole for what it is. -/
theorem splitStatements_embedding {source content : List Char}
    (quoting : Token.Quoting source content)
    (noCut : '\'' ∉ source ∨ ¬ ['%', ';'] <:+: source) :
    splitStatements (embedding source) = [embedding source] := by
  rcases noCut with noSingleMark | noSeparator
  · have closing : splitFrom false 1 [']'] = [[']']] := rfl
    have inside := splitFrom_quoting quoting noSingleMark (by decide) closing
    have dollar : ∀ rest, splitFrom false 0 ('$' :: rest) =
        prependChar '$' (splitFrom false 0 rest) :=
      fun rest => splitFrom_unquoted fun separator => absurd separator.1 (by decide)
    have bracket : ∀ rest, splitFrom false 0 ('[' :: rest) =
        prependChar '[' (splitFrom false 1 rest) :=
      fun rest => splitFrom_unquoted fun separator => absurd separator.1 (by decide)
    unfold splitStatements embedding
    rw [dollar, bracket, inside]
    rfl
  · rcases splitStatements_cases (embedding source) with whole | ⟨first, _, rest, _, _, cut⟩
    · exact whole
    · obtain ⟨start, more, _, rfl⟩ := exists_of_cut cut
      exact absurd ⟨start, more, by rw [List.append_assoc]; rfl⟩ noSeparator

end Layout

/-! ### The command that echoes an expression -/

namespace Statement

open Template (embedding Misreads Paired)

theorem echo_isCommand : IsCommand "echo" :=
  ⟨rfl, rfl⟩

theorem directive_echo (argument : List Char) :
    directive (Text.trim (commanding "echo" argument)) =
      (templateOf (Text.trim argument)).map fun text => .plain (.echo text) := by
  unfold directive
  rw [splitCommand_trim_commanding echo_isCommand]
  show (templateOf _ >>= _) = _
  cases templateOf (Text.trim argument) <;> rfl

/-- The first statement of a line that echoes an embedding. -/
theorem statements_echo {source first : List Char} {others : List (List Char)}
    (oneLine : '\n' ∉ source)
    (split : Layout.splitStatements (embedding source) = first :: others) :
    Layout.statements (commanding "echo" (embedding source)) =
      ⟨1, Text.trim (commanding "echo" first)⟩ :: (others.map Text.trim).filterMap fun text =>
        if text.isEmpty then none else some ⟨1, text⟩ := by
  refine statements_commanding echo_isCommand ?_ (List.cons_ne_nil _ _) ?_ split
  · simp [embedding, oneLine]
  · rw [Template.getLast?_embedding]
    decide

theorem parse_echo_of_misread {source first : List Char} {others : List (List Char)}
    {reason : TemplateError} (oneLine : '\n' ∉ source)
    (split : Layout.splitStatements (embedding source) = first :: others)
    (failed : Template.compile (Text.trim first) = .error reason) :
    parse (commanding "echo" (embedding source)) = .error ⟨1, .template reason⟩ := by
  refine parse_of_failed (statements_echo oneLine split) ?_
  rw [directive_echo, templateOf, failed]
  rfl

section

variable {source : List Char} {expression : Expression}
  (accepted : Expression.parse source = .ok expression) (oneLine : '\n' ∉ source)

include accepted oneLine

theorem parse_echo (paired : Paired source)
    (whole : Layout.splitStatements (embedding source) = [embedding source]) :
    parse (commanding "echo" (embedding source)) = .ok [.echo ⟨[.expression expression]⟩] := by
  refine parse_of_plain (statements_echo oneLine whole) ?_
  rw [directive_echo, Template.trim_embedding, templateOf,
    Template.compile_embedding accepted paired]
  rfl

/-- The command is refused if the splitter or the reader of templates finds another end. -/
theorem exists_misread (noEnd : ¬ (Paired source ∧
      Layout.splitStatements (embedding source) = [embedding source])) :
    ∃ reason, Misreads source reason ∧
      parse (commanding "echo" (embedding source)) = .error ⟨1, .template reason⟩ := by
  rcases Layout.splitStatements_cases (embedding source) with
    whole | ⟨_, others, rest, split, _, cut⟩
  · obtain ⟨reason, misreads, failed⟩ := Template.compile_start accepted (List.prefix_refl _)
      (.inr fun paired => noEnd ⟨paired, whole⟩)
    refine ⟨reason, misreads, parse_echo_of_misread oneLine whole ?_⟩
    rw [Template.trim_embedding]
    exact failed
  · obtain ⟨start, more, rfl, isSource⟩ := Layout.exists_of_cut cut
    have isStart : Text.trimEnd start <+: start := List.rdropWhile_prefix _ _
    have shorter : Text.trimEnd start ≠ source ++ [']'] := by
      intro same
      have length := isStart.length_le
      rw [same, isSource] at length
      simp only [List.length_append, List.length_cons] at length
      omega
    have isPrefix : Text.trimEnd start <+: source ++ [']'] :=
      isStart.trans (isSource ▸ List.append_assoc start _ _ ▸ List.prefix_append _ _)
    obtain ⟨reason, misreads, failed⟩ :=
      Template.compile_start accepted isPrefix (.inl shorter)
    refine ⟨reason, misreads, parse_echo_of_misread oneLine split ?_⟩
    have trimmed : Text.trim ('$' :: '[' :: start) = '$' :: '[' :: Text.trimEnd start := by
      rw [← Text.trimEnd_cons rfl, ← Text.trimEnd_cons rfl]
      rfl
    rw [trimmed]
    exact failed

end

/-- An accepted expression is embedded in text as itself exactly if the brackets in its literals are
in pairs; otherwise its embedding has no end, or ends within a literal. On one line the command that
echoes the embedding echoes just the expression if, in addition, the splitter leaves the embedding
whole, which it does if there is no single quotation mark or no separator in it. Otherwise the
command is refused for one of the same reasons. -/
theorem embedding_of_accepted {source : List Char} {expression : Expression}
    (accepted : Expression.parse source = .ok expression) :
    (Paired expression.texts →
        Template.compile (embedding source) = .ok ⟨[.expression expression]⟩) ∧
      (¬ Paired expression.texts →
        ∃ reason, Misreads source reason ∧ Template.compile (embedding source) = .error reason) ∧
        ('\n' ∉ source →
          (Paired expression.texts ∧
              Layout.splitStatements (embedding source) = [embedding source] →
            parse (commanding "echo" (embedding source)) =
              .ok [.echo ⟨[.expression expression]⟩]) ∧
            (¬ (Paired expression.texts ∧
                Layout.splitStatements (embedding source) = [embedding source]) →
              ∃ reason, Misreads source reason ∧
                parse (commanding "echo" (embedding source)) = .error ⟨1, .template reason⟩) ∧
              ('\'' ∉ source ∨ ¬ ['%', ';'] <:+: source →
                Layout.splitStatements (embedding source) = [embedding source])) := by
  have quoting := Expression.quoting_of_parse accepted
  have sameBrackets : Paired expression.texts ↔ Paired source :=
    (Template.closesAll_quoting quoting 0).symm
  rw [sameBrackets]
  refine ⟨Template.compile_embedding accepted, fun unpaired => ?_, fun oneLine => ⟨?_, ?_, ?_⟩⟩
  · exact Template.compile_start accepted (List.prefix_refl _) (.inr unpaired)
  · exact fun ⟨paired, whole⟩ => parse_echo accepted oneLine paired whole
  · exact exists_misread accepted oneLine
  · exact Layout.splitStatements_embedding quoting

/-- The two brackets of a pair may be in different literals. -/
theorem embedding_of_accepted_pair :
    Template.compile (embedding "'[' + x + \"]\"".toList) =
        .ok ⟨[.expression (.binary .add (.binary .add (.literal (.text "[")) (.named "x"))
          (.literal (.text "]")))]⟩ ∧
      parse (commanding "echo" (embedding "'[' + x + \"]\"".toList)) =
        .ok [.echo ⟨[.expression (.binary .add (.binary .add (.literal (.text "[")) (.named "x"))
          (.literal (.text "]")))]⟩] := by
  have read : Token.readAll "'[' + x + \"]\"".toList =
      .ok [.text "[", .operator .add, .name "x", .operator .add, .text "]"] :=
    Token.readAll_eq_ok_iff.mpr <| .token rfl rfl <| .blank rfl <| .token rfl rfl <|
      .blank rfl <| .token rfl rfl <| .blank rfl <| .token rfl rfl <| .blank rfl <|
        .token rfl rfl .nil
  have accepted : Expression.parse "'[' + x + \"]\"".toList =
      .ok (.binary .add (.binary .add (.literal (.text "[")) (.named "x"))
        (.literal (.text "]"))) := bind_eq_ok.mpr ⟨_, read, rfl⟩
  have paired : Paired (Expression.binary .add (.binary .add (.literal (.text "[")) (.named "x"))
      (.literal (.text "]"))).texts := by decide
  obtain ⟨compiled, _, onOneLine⟩ := embedding_of_accepted accepted
  obtain ⟨echoed, _, whole⟩ := onOneLine (by decide)
  exact ⟨compiled paired, echoed ⟨paired, whole (.inr (by decide))⟩⟩

/-- A closing bracket alone in a literal ends the embedding. -/
theorem not_embedding_of_accepted :
    Expression.parse "\"]\"".toList = .ok (.literal (.text "]")) ∧
      ¬ Template.compile (embedding "\"]\"".toList) =
        .ok ⟨[.expression (.literal (.text "]"))]⟩ := by
  refine ⟨by cbv, fun compiled => ?_⟩
  have unterminated : Expression.parse ['"'] = .error .unterminatedText := by cbv
  have failed : Template.readPiece '$' ['[', '"', ']', '"', ']'] =
      .error (.expression "\"" .unterminatedText) := by
    rw [Template.readPiece_of_closed rfl, Template.expressionPart, unterminated]
    rfl
  have refused : Template.compile (embedding "\"]\"".toList) =
      .error (.expression "\"" .unterminatedText) :=
    congrArg (Except.map _) (Template.pieces_of_failed failed)
  cases refused.symm.trans compiled

end Statement

end SlashScript
