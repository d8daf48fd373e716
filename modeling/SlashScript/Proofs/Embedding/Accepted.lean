/-
This file says what can be told of a text from the fact that it is accepted as an expression. It
consists of quoted texts and of characters that mean nothing outside of them, to the splitter of
statements or to the reader of templates; so brackets, semicolons and backslashes occur only in its
literals. Where it is cut before such a character, the part before the cut ends in a literal that
is not closed. Blanks at its ends do not count.
-/

import SlashScript.Proofs.Embedding.Lexing

namespace SlashScript

/-! ### The texts of the literals -/

/-- The text that a token carries. -/
def Token.carried : Token → List Char
  | text content => content.toList
  | _ => []

namespace Expression

mutual

/-- The texts of all literals, one after the other. -/
def texts : Expression → List Char
  | literal (.text content) => content.toList
  | literal _ => []
  | named _ => []
  | unary _ operand => operand.texts
  | binary _ left right => left.texts ++ right.texts
  | conditional condition whenTrue whenFalse =>
    condition.texts ++ whenTrue.texts ++ whenFalse.texts
  | assign _ _ operand => operand.texts
  | call _ arguments => allTexts arguments
  | sequence items => allTexts items

/-- The texts of all literals in a list of expressions, one after the other. -/
def allTexts : List Expression → List Char
  | [] => []
  | first :: others => first.texts ++ allTexts others

end

end Expression

namespace Written

/-- What the tokens carry is what the literals of the expression say. -/
def Carries (written : Written) : Prop :=
  written.tokens.flatMap Token.carried = written.expression.texts

theorem carried_afterCommas {items : List Written} (each : ∀ item ∈ items, item.Carries) :
    (afterCommas items).flatMap Token.carried =
      Expression.allTexts (items.map Written.expression) := by
  induction items with
  | nil => rfl
  | cons first others inductionHypothesis =>
    obtain ⟨ofFirst, ofOthers⟩ := List.forall_mem_cons.mp each
    have step : afterCommas (first :: others) = .comma :: first.tokens ++ afterCommas others := rfl
    rw [step, List.flatMap_append, inductionHypothesis ofOthers]
    exact congrArg (· ++ _) ofFirst

theorem texts_join {first : Expression} {links : List (BinaryOperator × Written)}
    (each : ∀ link ∈ links, link.2.Carries) :
    (join first links).texts = first.texts ++ (afterOperators links).flatMap Token.carried := by
  induction links generalizing first with
  | nil => exact (List.append_nil _).symm
  | cons link links inductionHypothesis =>
    obtain ⟨ofLink, ofLinks⟩ := List.forall_mem_cons.mp each
    have step : afterOperators (link :: links) =
        .operator link.1 :: link.2.tokens ++ afterOperators links := rfl
    have joined : join first (link :: links) =
        join (.binary link.1 first link.2.expression) links := rfl
    rw [joined, inductionHypothesis ofLinks, step, List.flatMap_append, ← List.append_assoc,
      Expression.texts, ← ofLink]
    rfl

end Written

/-- The tokens of an expression carry the texts of its literals. -/
theorem Derives.carries {phrase : Phrase} {tokens : List Token} {expression : Expression}
    (derives : Derives phrase tokens expression) : (⟨tokens, expression⟩ : Written).Carries := by
  unfold Written.Carries
  induction derives with
  | integer | real | named | callOfNothing => rfl
  | text content => exact List.append_nil _
  | call identifier first others _ _ ofFirst ofOthers =>
    have ofItems := Written.carried_afterCommas ofOthers
    simp only [List.flatMap_cons, List.flatMap_append, Token.carried, Expression.texts,
      Expression.allTexts, ofItems, ofFirst, List.nil_append, List.flatMap_nil, List.append_nil]
  | parentheses _ inside =>
    simp only [List.flatMap_cons, List.flatMap_append, Token.carried, inside, List.nil_append,
      List.flatMap_nil, List.append_nil]
  | negated _ operand | denied _ operand | assignment _ _ _ operand => exact operand
  | operand _ same | unconditional _ same | unassigned _ same | single _ same => exact same
  | chain first links _ own _ ofFirst ofLinks =>
    rw [List.flatMap_append, Written.texts_join ofLinks, ofFirst]
  | choice condition whenTrue whenFalse _ _ _ ofCondition ofTrue ofFalse =>
    simp only [List.flatMap_cons, List.flatMap_append, Token.carried, Expression.texts,
      ofCondition, ofTrue, ofFalse, List.nil_append, List.append_assoc]
  | sequence first second others _ _ _ ofFirst ofSecond ofOthers =>
    have ofItems := Written.carried_afterCommas (List.forall_mem_cons.mpr ⟨ofSecond, ofOthers⟩)
    rw [List.flatMap_append, ofItems, ofFirst]
    rfl

/-! ### Characters without a meaning -/

/-- Every token of an expression has a meaning. -/
theorem Derives.unknown_not_mem {phrase : Phrase} {tokens : List Token} {expression : Expression}
    (derives : Derives phrase tokens expression) (char : Char) : .unknown char ∉ tokens := by
  have afterCommas : ∀ items : List Written, (∀ item ∈ items, .unknown char ∉ item.tokens) →
      .unknown char ∉ Written.afterCommas items := by
    intro items each member
    obtain ⟨item, isItem, member⟩ := List.mem_flatMap.mp member
    rcases List.mem_cons.mp member with never | member
    · cases never
    · exact each item isItem member
  induction derives with
  | integer | real | text | named | callOfNothing => simp
  | call identifier first others _ _ ofFirst ofOthers => simp [ofFirst, afterCommas others ofOthers]
  | parentheses _ inside => simp [inside]
  | negated _ operand | denied _ operand | assignment _ _ _ operand => simp [operand]
  | operand _ same | unconditional _ same | unassigned _ same | single _ same => exact same
  | chain first links _ own _ ofFirst ofLinks =>
    intro member
    rcases List.mem_append.mp member with member | member
    · exact ofFirst member
    obtain ⟨link, isLink, member⟩ := List.mem_flatMap.mp member
    rcases List.mem_cons.mp member with never | member
    · cases never
    · exact ofLinks link isLink member
  | choice condition whenTrue whenFalse _ _ _ ofCondition ofTrue ofFalse =>
    simp [ofCondition, ofTrue, ofFalse]
  | sequence first second others _ _ _ ofFirst ofSecond ofOthers =>
    simp [ofFirst, afterCommas (second :: others) (List.forall_mem_cons.mpr ⟨ofSecond, ofOthers⟩)]

namespace Token

/-- The characters that begin no token of an expression and go on none, quoted texts apart. -/
def isStray (char : Char) : Bool :=
  char ∈ ['[', ']', ';', '\\']

theorem eq_of_isStray {char : Char} (isStray : isStray char = true) :
    char = '[' ∨ char = ']' ∨ char = ';' ∨ char = '\\' := by
  simpa [Token.isStray] using isStray

theorem closes_of_isStray {char : Char} (isStray : isStray char = true) : closes char = true := by
  rcases eq_of_isStray isStray with rfl | rfl | rfl | rfl <;> decide

theorem closes_of_isQuotationMark {char : Char} (isMark : isQuotationMark char = true) :
    closes char = true := by
  rcases isQuotationMark_iff.mp isMark with rfl | rfl <;> decide

theorem not_isBlank_of_isStray {char : Char} (isStray : isStray char = true) :
    Text.isBlank char = false := by
  rcases eq_of_isStray isStray with rfl | rfl | rfl | rfl <;> decide

theorem read_stray {char : Char} (isStray : isStray char = true) (rest : List Char) :
    read char rest = .ok (.unknown char, rest) := by
  rcases eq_of_isStray isStray with rfl | rfl | rfl | rfl <;> rfl

/-- A stray character stands for itself. -/
theorem Lexes.unknown_mem {char : Char} {rest : List Char} {tokens : List Token}
    (lexes : Lexes (char :: rest) tokens) (isStray : isStray char = true) :
    .unknown char ∈ tokens := by
  cases lexes with
  | blank isBlank => cases (not_isBlank_of_isStray isStray).symm.trans isBlank
  | token _ step =>
    cases (read_stray isStray rest).symm.trans step
    exact List.mem_cons_self

/-- The text consists of quoted texts, which carry this content, and of characters outside of them
that are neither stray nor quotation marks. -/
inductive Quoting : List Char → List Char → Prop where
  | nil : Quoting [] []
  | outside {char : Char} {text content : List Char} (notStray : isStray char = false)
    (notMark : isQuotationMark char = false) (later : Quoting text content) :
    Quoting (char :: text) content
  | quoted {mark : Char} {body content text contents : List Char}
    (isMark : isQuotationMark mark = true) (quotes : Quotes mark body content)
    (later : Quoting text contents) :
    Quoting (mark :: (body ++ mark :: text)) (content ++ contents)

theorem Quoting.append {used text content : List Char}
    (continues : ∀ char ∈ used, closes char = false) (quoting : Quoting text content) :
    Quoting (used ++ text) content := by
  induction used with
  | nil => exact quoting
  | cons char used inductionHypothesis =>
    obtain ⟨ofFirst, ofOthers⟩ := List.forall_mem_cons.mp continues
    have notStray : isStray char = false :=
      eq_false_of_ne_true fun isStray => ne_true_of_eq_false ofFirst (closes_of_isStray isStray)
    have notMark : isQuotationMark char = false :=
      eq_false_of_ne_true fun isMark =>
        ne_true_of_eq_false ofFirst (closes_of_isQuotationMark isMark)
    exact .outside notStray notMark (inductionHypothesis ofOthers)

theorem Numeral.carried_of_token {numeral : Numeral} {token : Token}
    (isToken : numeral.token = .ok token) : token.carried = [] := by
  rcases numeral with digits | ⟨whole, _ | places⟩
  · dsimp only [Numeral.token] at isToken
    split at isToken
    · cases isToken
      rfl
    · cases isToken
  · dsimp only [Numeral.token] at isToken
    split at isToken
    · cases isToken
      rfl
    · cases isToken
  · cases isToken
    rfl

theorem carried_of_read {first : Char} (notMark : isQuotationMark first = false)
    {rest after : List Char} {token : Token} (step : read first rest = .ok (token, after)) :
    token.carried = [] := by
  by_cases isDigit : first.isDigit = true
  · rw [read_of_isDigit _ isDigit] at step
    obtain ⟨token, isToken, ⟨⟩⟩ := map_eq_ok.mp step
    exact Numeral.carried_of_token isToken
  by_cases isName : startsName first = true
  · rw [read_of_startsName _ notMark isDigit isName] at step
    cases step
    rfl
  · rw [read_of_symbol _ notMark isDigit isName] at step
    have symbol : (readSymbol first rest).1.carried = [] := by
      unfold readSymbol
      split <;> rfl
    rwa [Except.ok.inj step] at symbol

/-- The quoted texts carry what the tokens carry. -/
theorem Lexes.quoting {text : List Char} {tokens : List Token} (lexes : Lexes text tokens)
    (known : ∀ char, .unknown char ∉ tokens) :
    Quoting text (tokens.flatMap Token.carried) := by
  induction lexes with
  | nil => exact .nil
  | blank isBlank later ofRest =>
    refine .outside (eq_false_of_ne_true fun isStray => ?_)
      (eq_false_of_ne_true fun isMark => ?_) (ofRest known)
    · cases (not_isBlank_of_isStray isStray).symm.trans isBlank
    · cases (not_isBlank_of_isQuotationMark isMark).symm.trans isBlank
  | @token first rest after token tokens notBlank step later ofRest =>
    have ofRest := ofRest fun char member => known char (List.mem_cons_of_mem _ member)
    rcases Bool.eq_false_or_eq_true (isQuotationMark first) with isMark | notMark
    · rw [read_of_isQuotationMark _ isMark] at step
      obtain ⟨⟨content, after⟩, quoted, ⟨⟩⟩ := map_eq_ok.mp step
      obtain ⟨body, rfl, quotes⟩ := exists_of_readQuoted quoted
      have carried : (Token.text (String.ofList content)).carried = content :=
        String.toList_ofList
      rw [List.flatMap_cons, carried]
      exact .quoted isMark quotes ofRest
    · have notStray : isStray first = false := eq_false_of_ne_true fun isStray =>
        known first (Lexes.unknown_mem (.token notBlank step later) isStray)
      obtain ⟨used, rfl, continues⟩ := read_goesOn notMark step
      rw [List.flatMap_cons, carried_of_read notMark step]
      exact .outside notStray notMark (ofRest.append continues)

end Token

/-! ### Accepted texts -/

namespace Expression

/-- The tokens of an accepted text. -/
theorem exists_tokens_of_parse {source : List Char} {expression : Expression}
    (parsed : parse source = .ok expression) :
    ∃ tokens, Token.Lexes source tokens ∧ Derives .sequence tokens expression := by
  obtain ⟨tokens, read, isExpression⟩ := bind_eq_ok.mp parsed
  exact ⟨tokens, Token.readAll_eq_ok_iff.mp read, (ofTokens_eq_ok_iff.mp isExpression).derives⟩

theorem parse_of_failed {source : List Char} {reason : SyntaxError}
    (failed : Token.readAll source = .error reason) : parse source = .error reason := by
  unfold parse
  rw [failed]
  rfl

/-- An accepted text consists of the literals and of characters with a meaning. -/
theorem quoting_of_parse {source : List Char} {expression : Expression}
    (parsed : parse source = .ok expression) : Token.Quoting source expression.texts := by
  obtain ⟨tokens, lexes, derives⟩ := exists_tokens_of_parse parsed
  rw [← derives.carries]
  exact lexes.quoting derives.unknown_not_mem

/-- Where an accepted text is cut and what comes after the cut makes no sense as it stands, a
literal is cut, and its closing mark comes later. -/
theorem parse_cut {before after : List Char} {stop : Char} {expression : Expression}
    (closing : Token.closes stop = true)
    (senseless : ∀ tokens, Token.Lexes (stop :: after) tokens → ∃ char, .unknown char ∈ tokens)
    (parsed : parse (before ++ stop :: after) = .ok expression) :
    parse before = .error .unterminatedText ∧
      ∃ mark ∈ stop :: after, Token.isQuotationMark mark = true := by
  obtain ⟨tokens, lexes, derives⟩ := exists_tokens_of_parse parsed
  cases lexes.cut closing with
  | quoted failed later isMark => exact ⟨parse_of_failed failed, _, later, isMark⟩
  | divided _ ofAfter =>
    obtain ⟨char, isUnknown⟩ := senseless _ ofAfter
    exact absurd (List.mem_append_right _ isUnknown) (derives.unknown_not_mem char)

/-- An accepted text does not end in a backslash. -/
theorem getLast?_ne_backslash {source : List Char} {expression : Expression}
    (parsed : parse source = .ok expression) : source.getLast? ≠ some '\\' := by
  intro isLast
  obtain ⟨before, rfl⟩ := List.getLast?_eq_some_iff.mp isLast
  obtain ⟨_, mark, isBackslash, isMark⟩ := parse_cut (by decide)
    (fun tokens lexes => ⟨_, lexes.unknown_mem rfl⟩) parsed
  exact Token.ne_backslash_of_isQuotationMark isMark (List.mem_singleton.mp isBackslash)

end Expression

end SlashScript
