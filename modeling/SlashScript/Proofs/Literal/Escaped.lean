/-
This file shows when escaped text is literal. In a template a percent sign and a dollar sign stand
for themselves if they are written twice, so the template of an escaped text is the text. But the
splitter looks at the line first, and it does not know of this: the second of two percent signs
still ends the statement if a semicolon follows. Escaping therefore does not protect a text from
being split. What the splitter makes of the escaped text is what it makes of the text itself, except
that each piece but the last keeps one of its two percent signs.

So an escaped text is emitted as it was exactly if the splitter would leave it whole.
-/

import SlashScript.Proofs.Literal.Basic

namespace SlashScript

/-! ### Escaped text in templates -/

namespace Template

/-- A character as it is written to stand for itself. -/
def escapeChar (char : Char) : List Char :=
  if char = '%' ∨ char = '$' then [char, char] else [char]

/-- A text as it is written to stand for itself. -/
def escape (text : List Char) : List Char :=
  text.flatMap escapeChar

@[simp] theorem escape_nil : escape [] = [] := rfl

@[simp] theorem escape_cons (char : Char) (text : List Char) :
    escape (char :: text) = escapeChar char ++ escape text := rfl

theorem escapeChar_of_sign {char : Char} (isSign : char = '%' ∨ char = '$') :
    escapeChar char = [char, char] :=
  if_pos isSign

theorem escapeChar_of_ne {char : Char} (notSign : ¬ (char = '%' ∨ char = '$')) :
    escapeChar char = [char] :=
  if_neg notSign

/-- A text without signs is written as it is. -/
theorem escape_eq_self {text : List Char} (noSign : ∀ char ∈ text, ¬ (char = '%' ∨ char = '$')) :
    escape text = text := by
  induction text with
  | nil => rfl
  | cons char text inductionHypothesis =>
    obtain ⟨ofChar, ofText⟩ := List.forall_mem_cons.mp noSign
    rw [escape_cons, escapeChar_of_ne ofChar, inductionHypothesis ofText]
    rfl

theorem head?_escape (text : List Char) : (escape text).head? = text.head? := by
  cases text with
  | nil => rfl
  | cons char text =>
    rw [escape_cons, escapeChar]
    split <;> rfl

theorem reverse_escape (text : List Char) : (escape text).reverse = escape text.reverse := by
  have palindrome : List.reverse ∘ escapeChar = escapeChar := by
    funext char
    show (escapeChar char).reverse = escapeChar char
    unfold escapeChar
    split <;> rfl
  unfold escape
  rw [List.reverse_flatMap, palindrome]

theorem getLast?_escape (text : List Char) : (escape text).getLast? = text.getLast? := by
  rw [← List.head?_reverse, reverse_escape, head?_escape, List.head?_reverse]

theorem mem_escape {char : Char} {text : List Char} : char ∈ escape text ↔ char ∈ text := by
  have single : ∀ written, char ∈ escapeChar written ↔ char = written := by
    intro written
    unfold escapeChar
    split <;> simp
  simp [escape, List.mem_flatMap, single]

/-! ### What an escaped text stands for -/

theorem pieces_cons {first : Char} {rest after : List Char} {piece : Piece}
    (step : readPiece first rest = .ok (piece, after)) :
    pieces (first :: rest) = (pieces after).map (piece :: ·) := by
  rw [pieces]
  split
  · rename_i failed
    cases failed.symm.trans step
  · rename_i stepped
    cases stepped.symm.trans step
    rfl

theorem pieces_nil : pieces [] = .ok [] := by
  rw [pieces]

theorem pieces_of_read {first : Char} {rest after : List Char} {piece : Piece} {list : List Piece}
    (step : readPiece first rest = .ok (piece, after)) (later : pieces after = .ok list) :
    pieces (first :: rest) = .ok (piece :: list) := by
  rw [pieces_cons step, later]
  rfl

theorem pieces_escapeChar (char : Char) (after : List Char) :
    pieces (escapeChar char ++ after) = (pieces after).map (.char char :: ·) := by
  by_cases isSign : char = '%' ∨ char = '$'
  · rw [escapeChar_of_sign isSign]
    rcases isSign with rfl | rfl
    · exact pieces_cons rfl
    · exact pieces_cons rfl
  · rw [escapeChar_of_ne isSign]
    obtain ⟨notPercent, notDollar⟩ := not_or.mp isSign
    exact pieces_cons ((if_neg notPercent).trans (if_neg notDollar))

/-- An escaped text is read as its characters, whatever follows it. -/
theorem pieces_escape (text after : List Char) :
    pieces (escape text ++ after) = (pieces after).map (text.map .char ++ ·) := by
  induction text with
  | nil => cases read : pieces after <;> exact read
  | cons char text inductionHypothesis =>
    rw [escape_cons, List.append_assoc, pieces_escapeChar, inductionHypothesis]
    cases pieces after <;> rfl

theorem gather_chars (reversed text : List Char) :
    (⟨gather reversed (text.map .char)⟩ : Template) =
      literal (String.ofList (reversed.reverse ++ text)) := by
  induction text generalizing reversed with
  | nil =>
    rw [List.append_nil]
    cases reversed with
    | nil => rfl
    | cons char reversed => simp [gather, literal]
  | cons char text inductionHypothesis =>
    refine (inductionHypothesis (char :: reversed)).trans ?_
    rw [List.reverse_cons, List.append_assoc]
    rfl

theorem compile_escape_append (text : List Char) {after rest : List Char}
    (read : pieces after = .ok (rest.map .char)) :
    compile (escape text ++ after) = .ok (literal (String.ofList (text ++ rest))) := by
  unfold compile
  rw [pieces_escape, read]
  show Except.ok (⟨gather [] (text.map .char ++ rest.map .char)⟩ : Template) = _
  rw [← List.map_append]
  exact congrArg Except.ok (gather_chars [] (text ++ rest))

/-- A text that is one substitution. -/
theorem compile_of_part {first : Char} {rest : List Char} {part : TemplatePart}
    (step : readPiece first rest = .ok (.part part, [])) :
    compile (first :: rest) = .ok ⟨[part]⟩ := by
  unfold compile
  rw [pieces_cons step, pieces_nil]
  rfl

/-- An escaped text is a template for the text. -/
theorem compile_escape (text : List Char) :
    compile (escape text) = .ok (literal (String.ofList text)) := by
  have nothing : pieces [] = .ok (([] : List Char).map .char) := pieces_nil
  have compiled := compile_escape_append text nothing
  rwa [List.append_nil, List.append_nil] at compiled

/-- A text without signs is a template for itself. -/
theorem compile_of_no_sign {text : List Char} (noPercent : '%' ∉ text) (noDollar : '$' ∉ text) :
    compile text = .ok (literal (String.ofList text)) := by
  have plain : ∀ char ∈ text, ¬ (char = '%' ∨ char = '$') := by
    rintro char member (rfl | rfl)
    · exact noPercent member
    · exact noDollar member
  have compiled := compile_escape text
  rwa [escape_eq_self plain] at compiled

/-- A single percent sign at the end stands for itself too. -/
theorem compile_escape_percent (text : List Char) :
    compile (escape text ++ ['%']) = .ok (literal (String.ofList (text ++ ['%']))) := by
  have step : readPiece '%' [] = .ok (.char '%', []) := rfl
  have percent : pieces ['%'] = .ok (['%'].map .char) := by
    rw [pieces_cons step, pieces_nil]
    rfl
  exact compile_escape_append text percent

theorem expand_literal (text : String) (workspace : Workspace) :
    (literal text).expand workspace = (.ok text, workspace) := by
  unfold literal
  split
  · rename_i isEmpty
    rw [String.isEmpty_iff.mp isEmpty]
    rfl
  · show (Except.ok (text ++ ""), workspace) = _
    rw [String.append_empty]

end Template

/-- The statement that emits a text. -/
theorem Interpreter.runStatement_echo (text : String) (limit : Nat) (workspace : Workspace) :
    runStatement limit (.echo (.literal text)) workspace =
      .emit (.text text) workspace fun _ => .done .normal workspace := by
  rw [runStatement, evaluating, Template.expand_literal]
  rfl

/-! ### Escaped text in the splitter -/

namespace Layout

open Template (escape escapeChar)

/-- The pieces of an escaped text, from those of the text. The separator after a piece takes one of
two percent signs with it and leaves the other. -/
def escapePieces : List (List Char) → List (List Char)
  | [] => []
  | [last] => [escape last]
  | piece :: next :: more => (escape piece ++ ['%']) :: escapePieces (next :: more)

theorem prependChar_ne_nil (char : Char) (pieces : List (List Char)) :
    prependChar char pieces ≠ [] := by
  cases pieces <;> exact List.cons_ne_nil _ _

theorem splitFrom_ne_nil (quoted : Bool) (depth : Nat) (text : List Char) :
    splitFrom quoted depth text ≠ [] := by
  unfold splitFrom
  split
  · exact List.cons_ne_nil _ _
  · split
    · split
      · split
        · exact List.cons_ne_nil _ _
        · exact prependChar_ne_nil _ _
      · exact prependChar_ne_nil _ _
    · split
      · split <;> exact List.cons_ne_nil _ _
      · exact prependChar_ne_nil _ _

theorem escapePieces_prependChar (char : Char) (pieces : List (List Char)) :
    escapePieces (prependChar char pieces) =
      (escapeChar char).foldr prependChar (escapePieces pieces) := by
  have written : escapeChar char = [char] ∨ escapeChar char = [char, char] := by
    unfold escapeChar
    split
    · exact .inr rfl
    · exact .inl rfl
  match pieces with
  | [] | [_] | _ :: _ :: _ =>
    rcases written with once | twice
    · simp [prependChar, escapePieces, once]
    · simp [prependChar, escapePieces, twice]

/-- A sign means nothing to the splitter in a quotation. -/
theorem splitFrom_sign_quoted {char : Char} (isSign : char = '%' ∨ char = '$') (depth : Nat)
    (rest : List Char) :
    splitFrom true depth (char :: rest) = prependChar char (splitFrom true depth rest) := by
  rcases isSign with rfl | rfl
  · exact splitFrom_quoted (by decide) depth rest
  · exact splitFrom_quoted (by decide) depth rest

/-- Outside of quotations it means nothing where it does not begin a separator. -/
theorem splitFrom_sign_unquoted {char : Char} (isSign : char = '%' ∨ char = '$') {depth : Nat}
    {rest : List Char} (noSeparator : ¬ (char = '%' ∧ depth = 0 ∧ rest.head? = some ';')) :
    splitFrom false depth (char :: rest) = prependChar char (splitFrom false depth rest) := by
  rcases isSign with rfl | rfl
  · exact splitFrom_unquoted noSeparator
  · exact splitFrom_unquoted noSeparator

/-- A character that no backslash protects, in a quotation. -/
theorem splitFrom_escapeChar_quoted {char : Char} (notBackslash : char ≠ '\\') (depth : Nat)
    (rest : List Char) :
    splitFrom true depth (escapeChar char ++ rest) =
      (escapeChar char).foldr prependChar (splitFrom (char != '"') depth rest) := by
  by_cases isSign : char = '%' ∨ char = '$'
  · rw [Template.escapeChar_of_sign isSign, List.cons_append, List.singleton_append,
      splitFrom_sign_quoted isSign, splitFrom_quoted notBackslash]
    rfl
  · rw [Template.escapeChar_of_ne isSign, List.singleton_append, splitFrom_quoted notBackslash]
    rfl

/-- A character after a backslash, in a quotation. If it is written twice, the second one is
protected no more, but means nothing either. -/
theorem splitFrom_escapeChar_protected (depth : Nat) (char : Char) (rest : List Char) :
    splitFrom true depth ('\\' :: (escapeChar char ++ rest)) =
      prependChar '\\' ((escapeChar char).foldr prependChar (splitFrom true depth rest)) := by
  by_cases isSign : char = '%' ∨ char = '$'
  · rw [Template.escapeChar_of_sign isSign, List.cons_append, splitFrom_protected,
      List.singleton_append, splitFrom_sign_quoted isSign]
    rfl
  · rw [Template.escapeChar_of_ne isSign, List.singleton_append, splitFrom_protected]
    rfl

/-- A character outside of quotations that does not belong to a separator. -/
theorem splitFrom_escapeChar_unquoted {char : Char} {depth : Nat} {rest : List Char}
    (noSeparator : ¬ (char = '%' ∧ depth = 0 ∧ rest.head? = some ';')) :
    splitFrom false depth (escapeChar char ++ rest) =
      (escapeChar char).foldr prependChar
        (splitFrom (char = '"') (depthAfter depth char) rest) := by
  by_cases isSign : char = '%' ∨ char = '$'
  · -- The first of the two signs is followed by the second, and not by a semicolon.
    have noneYet : ¬ (char = '%' ∧ depth = 0 ∧ (char :: rest).head? = some ';') := by
      rintro ⟨rfl, _, never⟩
      exact absurd (Option.some.inj never) (by decide)
    rw [Template.escapeChar_of_sign isSign, List.cons_append, List.singleton_append,
      splitFrom_sign_unquoted isSign noneYet, splitFrom_unquoted noSeparator]
    rfl
  · rw [Template.escapeChar_of_ne isSign, List.singleton_append, splitFrom_unquoted noSeparator]
    rfl

/-- An escaped text is split where the text is. -/
theorem splitFrom_escape (quoted : Bool) (depth : Nat) (text : List Char) :
    splitFrom quoted depth (escape text) = escapePieces (splitFrom quoted depth text) := by
  induction quoted, depth, text using splitFrom_induction with
  | nil quoted depth => rfl
  | backslash depth => rfl
  | isProtected depth next rest ofRest =>
    have written : escape ('\\' :: next :: rest) = '\\' :: (escapeChar next ++ escape rest) := rfl
    rw [written, splitFrom_escapeChar_protected, ofRest, splitFrom_protected,
      escapePieces_prependChar, escapePieces_prependChar]
    rfl
  | isQuoted depth char rest notBackslash ofRest =>
    rw [Template.escape_cons, splitFrom_escapeChar_quoted notBackslash, ofRest,
      splitFrom_quoted notBackslash, escapePieces_prependChar]
  | separator rest ofRest =>
    have written : escape ('%' :: ';' :: rest) = '%' :: '%' :: ';' :: escape rest := rfl
    have step : splitFrom false 0 ('%' :: '%' :: ';' :: escape rest) =
        ['%'] :: splitFrom false 0 (escape rest) := rfl
    obtain ⟨first, others, split⟩ := List.exists_cons_of_ne_nil (splitFrom_ne_nil false 0 rest)
    rw [written, step, splitFrom_separator, ofRest, split]
    rfl
  | unquoted depth char rest noSeparator ofRest =>
    have noneEscaped : ¬ (char = '%' ∧ depth = 0 ∧ (escape rest).head? = some ';') := by
      rwa [Template.head?_escape]
    rw [Template.escape_cons, splitFrom_escapeChar_unquoted noneEscaped,
      splitFrom_unquoted noSeparator, escapePieces_prependChar, ofRest]

theorem intercalate_prependChar (separator : List Char) (char : Char)
    (pieces : List (List Char)) :
    separator.intercalate (prependChar char pieces) = char :: separator.intercalate pieces := by
  match pieces with
  | [] => rw [prependChar, List.intercalate_singleton, List.intercalate_nil]
  | [_] => rw [prependChar, List.intercalate_singleton, List.intercalate_singleton]
  | _ :: _ :: _ =>
    rw [prependChar, List.intercalate_cons_cons, List.intercalate_cons_cons]
    rfl

/-- With the separators between them, the pieces of a text are the text. -/
theorem intercalate_splitFrom (quoted : Bool) (depth : Nat) (text : List Char) :
    ['%', ';'].intercalate (splitFrom quoted depth text) = text := by
  induction quoted, depth, text using splitFrom_induction with
  | nil quoted depth => rfl
  | backslash depth => rfl
  | isProtected depth next rest ofRest =>
    rw [splitFrom_protected, intercalate_prependChar, intercalate_prependChar, ofRest]
  | isQuoted depth char rest notBackslash ofRest =>
    rw [splitFrom_quoted notBackslash, intercalate_prependChar, ofRest]
  | separator rest ofRest =>
    rw [splitFrom_separator, List.intercalate_cons_of_ne_nil (splitFrom_ne_nil _ _ _), ofRest]
    rfl
  | unquoted depth char rest noSeparator ofRest =>
    rw [splitFrom_unquoted noSeparator, intercalate_prependChar, ofRest]

/-- A text is a piece by itself, or its first piece ends before a separator. -/
theorem splitStatements_cases (text : List Char) :
    splitStatements text = [text] ∨
      ∃ first more rest, splitStatements text = first :: more ∧ more ≠ [] ∧
        text = first ++ '%' :: ';' :: rest := by
  have whole := intercalate_splitFrom false 0 text
  rcases split : splitFrom false 0 text with _ | ⟨first, _ | ⟨next, more⟩⟩
  · exact absurd split (splitFrom_ne_nil false 0 text)
  · rw [split, List.intercalate_singleton] at whole
    exact .inl (split.trans (congrArg (fun piece => [piece]) whole))
  · rw [split, List.intercalate_cons_cons, List.append_assoc] at whole
    exact .inr ⟨first, next :: more, _, split, List.cons_ne_nil _ _, whole.symm⟩

end Layout

/-! ### The script of an escaped text -/

namespace Statement

open Template (escape)

/-- Nothing is substituted in a text without the signs for it. -/
theorem templateOf_of_not_mem {text : List Char} (noPercent : '%' ∉ text) (noDollar : '$' ∉ text) :
    templateOf text = .ok (.literal (String.ofList text)) :=
  congrArg (Except.mapError _) (Template.compile_of_no_sign noPercent noDollar)

/-- The command that emits what a template stands for. -/
def echoing (template : List Char) : List Char :=
  '/' :: ("echo".toList ++ ' ' :: template)

theorem directive_echoing {template : List Char} {compiled : Template}
    (trimmed : Text.Trimmed template) (isCompiled : Template.compile template = .ok compiled) :
    directive (echoing template) = .ok (.plain (.echo compiled)) := by
  unfold directive echoing
  rw [splitCommand_append rfl, Text.trim_eq_self_iff.mpr trimmed]
  show (templateOf template >>= _) = _
  rw [templateOf, isCompiled]
  rfl

theorem getLast?_echoing {template : List Char} (nonempty : template ≠ []) :
    (echoing template).getLast? = template.getLast? := by
  have written : echoing template = "/echo ".toList ++ template := by
    simp [echoing]
  rw [written, List.getLast?_append, List.getLast?_eq_some_getLast nonempty]
  rfl

theorem splitStatements_echoing {template piece : List Char} {others : List (List Char)}
    (split : Layout.splitStatements template = piece :: others) :
    Layout.splitStatements (echoing template) = echoing piece :: others :=
  Layout.splitFrom_append ('/' :: ("echo".toList ++ [' '])) rfl split

variable {text : List Char}

theorem escape_ne_nil (nonempty : text ≠ []) : escape text ≠ [] := by
  intro empty
  have head := Template.head?_escape text
  rw [empty] at head
  exact nonempty (List.head?_eq_none_iff.mp head.symm)

theorem newline_not_mem_echoing (oneLine : '\n' ∉ text) : '\n' ∉ echoing (escape text) := by
  simp [echoing, Template.mem_escape, oneLine]

/-- Where the splitter leaves the text whole, the escaped text is a statement of its own. -/
theorem parse_echoing_of_unsplit (oneLine : '\n' ∉ text) (trimmed : Text.Trimmed text)
    (closed : text.getLast? ≠ some '\\') (unsplit : Layout.splitStatements text = [text]) :
    parse (echoing (escape text)) = .ok [.echo (.literal (String.ofList text))] := by
  rcases eq_or_ne text [] with rfl | nonempty
  · have nothing : Template.literal (String.ofList []) = ⟨[]⟩ := rfl
    rw [nothing]
    cbv
  · have trimmedEscape : Text.Trimmed (escape text) := by
      unfold Text.Trimmed
      rwa [Template.head?_escape, Template.getLast?_escape]
    have unsplitEscape : Layout.splitStatements (escape text) = [escape text] :=
      (Layout.splitFrom_escape false 0 text).trans (congrArg Layout.escapePieces unsplit)
    refine parse_of_plain (Layout.statements_of_command (newline_not_mem_echoing oneLine) ?_ ?_)
      (directive_echoing trimmedEscape (Template.compile_escape text))
    · rw [← echoing, getLast?_echoing (escape_ne_nil nonempty), Template.getLast?_escape]
      intro char isLast
      exact ⟨trimmed.2 char isLast, fun isBackslash => closed (isBackslash ▸ isLast)⟩
    · exact splitStatements_echoing unsplitEscape

/-- Where the splitter cuts the text, what comes before the cut is a statement with one more percent
sign. -/
theorem statements_echoing_of_split (oneLine : '\n' ∉ text) (closed : text.getLast? ≠ some '\\')
    {first : List Char} {more : List (List Char)} (nonempty : more ≠ [])
    (split : Layout.splitStatements text = first :: more) :
    ∃ lines, Layout.statements (echoing (escape text)) =
      ⟨1, echoing (escape first ++ ['%'])⟩ :: lines := by
  obtain ⟨next, later, rfl⟩ := List.exists_cons_of_ne_nil nonempty
  have notEmpty : text ≠ [] := by
    rintro rfl
    cases split
  have closedLine : (echoing (escape text)).getLast? ≠ some '\\' := by
    rwa [getLast?_echoing (escape_ne_nil notEmpty), Template.getLast?_escape]
  have splitEscape : Layout.splitStatements (escape text) =
      (escape first ++ ['%']) :: Layout.escapePieces (next :: later) :=
    (Layout.splitFrom_escape false 0 text).trans (congrArg Layout.escapePieces split)
  have trimmed : Text.trim (echoing (escape first ++ ['%'])) = echoing (escape first ++ ['%']) := by
    refine Text.trim_cons rfl fun char isLast => ?_
    rw [← echoing, getLast?_echoing (List.append_ne_nil_of_right_ne_nil _ (List.cons_ne_nil _ _)),
      List.getLast?_concat] at isLast
    cases isLast
    rfl
  have line : Layout.statements (echoing (escape text)) =
      Layout.statementsOfLine ⟨1, echoing (escape text)⟩ :=
    Layout.statements_of_line (newline_not_mem_echoing oneLine) closedLine
  rw [line, Layout.statementsOfLine, splitStatements_echoing splitEscape, List.map_cons, trimmed]
  exact ⟨_, rfl⟩

/-- The first statement of a text that is cut emits only what comes before the cut, and a percent
sign. -/
theorem head_of_parse_echoing (oneLine : '\n' ∉ text) (trimmed : Text.Trimmed text)
    (closed : text.getLast? ≠ some '\\') {first rest : List Char} {more : List (List Char)}
    (nonempty : more ≠ []) (split : Layout.splitStatements text = first :: more)
    (isFirst : text = first ++ '%' :: ';' :: rest) {block : Block}
    (parsed : parse (echoing (escape text)) = .ok block) :
    ∃ others, block = .echo (.literal (String.ofList (first ++ ['%']))) :: others := by
  have trimmedFirst : Text.Trimmed (escape first ++ ['%']) := by
    have head : (escape first ++ ['%']).head? = text.head? := by
      rw [isFirst, List.head?_append, List.head?_append, Template.head?_escape]
      rfl
    refine ⟨head ▸ trimmed.1, fun char isLast => ?_⟩
    rw [List.getLast?_concat] at isLast
    cases isLast
    rfl
  obtain ⟨lines, statements⟩ := statements_echoing_of_split oneLine closed nonempty split
  unfold parse at parsed
  rw [statements] at parsed
  exact (ofSource_eq_ok_iff.mp parsed).head_of_plain
    (directive_echoing trimmedFirst (Template.compile_escape_percent first))

end Statement

namespace Script

/-- The script that echoes a text, each percent sign and each dollar sign in it written twice. -/
def echoEscaped (text : String) : Except CompileError Script :=
  compile ("/echo " ++ String.ofList (Template.escape text.toList))

theorem echoEscaped_eq_ok_iff {text : String} {script : Script} :
    echoEscaped text = .ok script ↔
      ∃ block, Statement.parse (Statement.echoing (Template.escape text.toList)) = .ok block ∧
        (⟨"/echo " ++ String.ofList (Template.escape text.toList), block⟩ : Script) = script := by
  have source : ("/echo " ++ String.ofList (Template.escape text.toList)).toList =
      Statement.echoing (Template.escape text.toList) := by
    simp [Statement.echoing]
  unfold echoEscaped compile
  rw [map_eq_ok, source]

/-- A script that begins with a text emits it first. -/
theorem calls_of_echo {script : Script} {text : String} {others : Block}
    (statements : script.statements = .echo (.literal text) :: others) {Outside : Type}
    (sink : Sink Outside) (session : Session Outside) (request : Request)
    (isScript : request.script = script) (live : sink.isCancelled session.outside = false) :
    ∃ later, session.calls sink request =
      .output ⟨session.engine.next, 0, .text text⟩ :: later := by
  rw [← isScript] at statements
  rw [Session.calls_of_live live,
    Session.served_of_emits live (Interpreter.runStatement_echo text) statements]
  obtain ⟨later, calls⟩ := Run.serve_recorded_extends sink request.action session.engine.next
    (Interpreter.runScript session.engine.roundLimit others
      (session.workspace.enter request.mode request.arguments))
    (sink.recorded.push session.engine.next (.text text) ⟨(session.outside, []), 0, 0⟩)
  exact ⟨later, calls.symm⟩

/-- A text is escaped by writing each percent sign and each dollar sign in it twice. If the splitter
leaves the text whole, the script that echoes the escaped text emits just the text. Otherwise the
script is cut at the separator in it, although the percent sign was escaped, and the first value is
what comes before the separator, with a percent sign after it. -/
theorem echoEscaped_emits {text : String} (oneLine : '\n' ∉ text.toList)
    (trimmed : Text.trim text.toList = text.toList) (closed : text.toList.getLast? ≠ some '\\') :
    (Layout.splitStatements text.toList = [text.toList] →
        ∃ script, echoEscaped text = .ok script ∧ script.statements = [.echo (.literal text)] ∧
          script.OnlyEmits (.text text)) ∧
      (Layout.splitStatements text.toList ≠ [text.toList] →
        ∀ script, echoEscaped text = .ok script →
          ∃ first rest, text.toList = first ++ '%' :: ';' :: rest ∧
            ∀ {Outside : Type} (sink : Sink Outside) (session : Session Outside)
              (request : Request), request.script = script →
              sink.isCancelled session.outside = false →
                ∃ later, session.calls sink request =
                  .output ⟨session.engine.next, 0, .text (String.ofList (first ++ ['%']))⟩ ::
                    later) := by
  have trimmed := Text.trim_eq_self_iff.mp trimmed
  constructor
  · intro unsplit
    have parsed := Statement.parse_echoing_of_unsplit oneLine trimmed closed unsplit
    rw [String.ofList_toList] at parsed
    refine ⟨_, echoEscaped_eq_ok_iff.mpr ⟨_, parsed, rfl⟩, rfl, ?_⟩
    exact onlyEmits_of_emits rfl (Interpreter.runStatement_echo text)
  · intro split script compiled
    obtain ⟨block, parsed, rfl⟩ := echoEscaped_eq_ok_iff.mp compiled
    rcases Layout.splitStatements_cases text.toList with
      unsplit | ⟨first, more, rest, cut, nonempty, isFirst⟩
    · exact absurd unsplit split
    · obtain ⟨others, rfl⟩ :=
        Statement.head_of_parse_echoing oneLine trimmed closed nonempty cut isFirst parsed
      exact ⟨first, rest, isFirst, calls_of_echo rfl⟩

/-- Between quotation marks a separator does not count. -/
theorem echoEscaped_emits_quotation :
    ∃ script, echoEscaped "\"50%;\" $[x]" = .ok script ∧
      script.statements = [.echo (.literal "\"50%;\" $[x]")] ∧
        script.OnlyEmits (.text "\"50%;\" $[x]") :=
  (echoEscaped_emits (by decide) (by cbv) (by decide)).1 (by cbv)

/-- Escaped text need not be literal: this one becomes two statements. -/
theorem not_echoEscaped_emits :
    ('\n' ∉ "a%;b".toList ∧ Text.trim "a%;b".toList = "a%;b".toList ∧
      "a%;b".toList.getLast? ≠ some '\\') ∧
    ¬ ∃ script, echoEscaped "a%;b" = .ok script ∧
      (∃ template, script.statements = [.echo template]) ∧
        ∀ {Outside : Type} (sink : Sink Outside) (session : Session Outside) (request : Request),
          request.script = script → sink.isCancelled session.outside = false →
            session.calls sink request =
              [.output ⟨session.engine.next, 0, .text "a%;b"⟩] := by
  refine ⟨⟨by decide, by cbv, by decide⟩, ?_⟩
  rintro ⟨script, compiled, ⟨template, single⟩, _⟩
  have two : Statement.parse (Statement.echoing (Template.escape "a%;b".toList)) =
      .ok [.echo ⟨[.literal "a%"]⟩, .echo ⟨[.literal "b"]⟩] := by cbv
  obtain ⟨block, parsed, rfl⟩ := echoEscaped_eq_ok_iff.mp compiled
  cases two.symm.trans parsed
  cases single

end Script

end SlashScript
