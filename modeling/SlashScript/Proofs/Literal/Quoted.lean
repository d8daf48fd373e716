/-
This file shows that every text can be written as a literal. Between quotation marks a backslash
stands before every backslash and every quotation mark, and a newline is written as an escape, so
the quoted text is one line. The stages of reading agree on where it ends: the splitter keeps it
whole, whatever separators, brackets and blanks are in it, and the token that is read is the text.
-/

import SlashScript.Proofs.Grammar.Spelling
import SlashScript.Proofs.Literal.Basic

namespace SlashScript

/-! ### Quoted text -/

namespace Token

/-- A character as it is written between double quotation marks. -/
def quoteChar (char : Char) : List Char :=
  if char = '\\' ∨ char = '"' then ['\\', char]
  else if char = '\n' then ['\\', 'n']
  else [char]

/-- A text as it is written between double quotation marks. -/
def quote (text : List Char) : List Char :=
  text.flatMap quoteChar

theorem quote_cons (char : Char) (text : List Char) :
    quote (char :: text) = quoteChar char ++ quote text := rfl

/-- A character is written as itself, if it is none of those that end or change something, or else
as an escape that is read as the character. -/
theorem quoteChar_cases (char : Char) :
    (quoteChar char = [char] ∧ char ≠ '\\' ∧ char ≠ '"' ∧ char ≠ '\n') ∨
      ∃ escaped, quoteChar char = ['\\', escaped] ∧ unescape escaped = char ∧ escaped ≠ '\n' := by
  unfold quoteChar
  by_cases isMark : char = '\\' ∨ char = '"'
  · refine .inr ⟨char, if_pos isMark, ?_, ?_⟩
    · rcases isMark with rfl | rfl <;> rfl
    · rcases isMark with rfl | rfl <;> decide
  · rw [if_neg isMark]
    obtain ⟨notBackslash, notMark⟩ := not_or.mp isMark
    by_cases isNewline : char = '\n'
    · exact .inr ⟨'n', if_pos isNewline, isNewline.symm, by decide⟩
    · exact .inl ⟨if_neg isNewline, notBackslash, notMark, isNewline⟩

theorem readQuoted_of_ne {mark char : Char} (notBackslash : char ≠ '\\') (notMark : char ≠ mark)
    (rest : List Char) :
    readQuoted mark (char :: rest) =
      (readQuoted mark rest).map fun (content, after) => (char :: content, after) := by
  rw [readQuoted, if_neg notMark]
  · exact fun isBackslash _ => notBackslash isBackslash
  · exact fun _ _ isBackslash _ => notBackslash isBackslash

/-- What is read between quotation marks is what was written there. -/
theorem readQuoted_quote (text after : List Char) :
    readQuoted '"' (quote text ++ '"' :: after) = .ok (text, after) := by
  induction text with
  | nil => rfl
  | cons char text inductionHypothesis =>
    rw [quote_cons, List.append_assoc]
    rcases quoteChar_cases char with ⟨plain, notBackslash, notMark, _⟩ | ⟨escaped, escape, back, _⟩
    · rw [plain, List.singleton_append, readQuoted_of_ne notBackslash notMark, inductionHypothesis]
      rfl
    · rw [escape]
      show (readQuoted '"' (quote text ++ '"' :: after)).map _ = _
      rw [inductionHypothesis, ← back]
      rfl

theorem newline_not_mem_quote (text : List Char) : '\n' ∉ quote text := by
  intro member
  obtain ⟨char, _, written⟩ := List.mem_flatMap.mp member
  rcases quoteChar_cases char with ⟨plain, _, _, notNewline⟩ | ⟨escaped, escape, _, notNewline⟩
  · rw [plain] at written
    exact notNewline (List.mem_singleton.mp written).symm
  · rw [escape] at written
    rcases List.mem_cons.mp written with never | written
    · exact absurd never (by decide)
    · exact notNewline (List.mem_singleton.mp written).symm

/-- A text between quotation marks is one token. -/
theorem readAll_quote (text : List Char) :
    readAll ('"' :: (quote text ++ ['"'])) = .ok [.text (String.ofList text)] := by
  have step : read '"' (quote text ++ ['"']) = .ok (.text (String.ofList text), []) := by
    show (readQuoted '"' (quote text ++ ['"'])).map _ = _
    rw [readQuoted_quote]
    rfl
  rw [readAll_cons (by decide) step, readAll_eq]
  rfl

end Token

namespace Layout

/-- The splitter keeps a quoted text whole. -/
theorem splitFrom_quote (depth : Nat) (text : List Char) :
    splitFrom true depth (Token.quote text ++ ['"']) = [Token.quote text ++ ['"']] := by
  induction text with
  | nil => rfl
  | cons char text inductionHypothesis =>
    rw [Token.quote_cons, List.append_assoc]
    rcases Token.quoteChar_cases char with
      ⟨plain, notBackslash, notMark, _⟩ | ⟨escaped, escape, _, _⟩
    · rw [plain, List.singleton_append, splitFrom_quoted notBackslash, bne_iff_ne.mpr notMark,
        inductionHypothesis]
      rfl
    · rw [escape, List.cons_append, List.singleton_append, splitFrom_protected,
        inductionHypothesis]
      rfl

end Layout

/-! ### The script of a quoted text -/

namespace Statement

/-- A quoted text with its quotation marks. -/
def quotation (text : List Char) : List Char :=
  '"' :: (Token.quote text ++ ['"'])

theorem trim_quotation (text : List Char) : Text.trim (quotation text) = quotation text := by
  refine Text.trim_cons rfl fun char isLast => ?_
  rw [← List.cons_append, List.getLast?_concat] at isLast
  cases isLast
  rfl

theorem splitStatements_quotation (text : List Char) :
    Layout.splitStatements (quotation text) = [quotation text] := by
  unfold Layout.splitStatements quotation
  rw [Layout.splitFrom_unquoted fun separator => absurd separator.1 (by decide)]
  exact congrArg (Layout.prependChar '"') (Layout.splitFrom_quote 0 text)

theorem expressionOf_quotation (command : String) (text : List Char) :
    expressionOf command (quotation text) = .ok (.literal (.text (String.ofList text))) := by
  have parsed : Expression.parse (quotation text) =
      .ok (.literal (.text (String.ofList text))) := by
    unfold Expression.parse quotation
    rw [Token.readAll_quote]
    rfl
  rw [expressionOf, trim_quotation, parsed]
  rfl

/-- The command that emits a quoted text. -/
def emitQuotation (text : List Char) : List Char :=
  '/' :: ("emit".toList ++ ' ' :: quotation text)

theorem directive_emitQuotation (text : List Char) :
    directive (emitQuotation text) =
      .ok (.plain (.emit [.literal (.text (String.ofList text))])) := by
  unfold directive emitQuotation
  rw [splitCommand_append rfl, trim_quotation]
  show (expressionOf _ _ >>= _) = _
  rw [expressionOf_quotation]
  rfl

/-- The command is a statement as it stands. -/
theorem statements_emitQuotation (text : List Char) :
    Layout.statements (emitQuotation text) = [⟨1, emitQuotation text⟩] := by
  refine Layout.statements_of_command ?_ (fun char isLast => ?_) ?_
  · simp [quotation, Token.newline_not_mem_quote]
  · have closes : emitQuotation text = ("/emit \"".toList ++ Token.quote text) ++ ['"'] := by
      simp [emitQuotation, quotation]
    rw [← emitQuotation, closes, List.getLast?_concat] at isLast
    cases isLast
    decide
  · exact Layout.splitFrom_append ('/' :: ("emit".toList ++ [' '])) rfl
      (splitStatements_quotation text)

end Statement

namespace Script

/-- Any text can be written between quotation marks on one line, and the script that emits it so
emits just that text. -/
theorem compile_quoted (text : String) :
    ∃ script, compile ("/emit \"" ++ String.ofList (Token.quote text.toList) ++ "\"") = .ok script ∧
      script.statements = [.emit [.literal (.text text)]] ∧ script.OnlyEmits (.text text) := by
  have source : ("/emit \"" ++ String.ofList (Token.quote text.toList) ++ "\"").toList =
      Statement.emitQuotation text.toList := by
    simp [Statement.emitQuotation, Statement.quotation]
  have parsed := Statement.parse_of_plain (Statement.statements_emitQuotation text.toList)
    (Statement.directive_emitQuotation text.toList)
  rw [← source, String.ofList_toList] at parsed
  refine ⟨_, map_eq_ok.mpr ⟨_, parsed, rfl⟩, rfl, ?_⟩
  exact onlyEmits_of_emits rfl fun _ _ => rfl

end Script

end SlashScript
