/-
This file gives the course of reading an expression into tokens as a relation, and says what happens
where the text is cut. A cut before a character that can go on no token falls into a quoted text,
and then what comes before it ends too early, or else it falls between two tokens, and then both
parts are read as before. So blanks at the ends of an expression do not matter, and characters that
only a quoted text can hold are no place to cut at.
-/

import SlashScript.Proofs.Grammar.Spelling
import SlashScript.Proofs.Grammar.Completeness
import SlashScript.Proofs.Literal.Quoted

namespace SlashScript

/-- What is taken from the end of a text are blanks. -/
theorem Text.exists_blanks (text : List Char) :
    ∃ blanks, text = trimEnd text ++ blanks ∧ ∀ char ∈ blanks, isBlank char = true :=
  ⟨text.rtakeWhile isBlank, List.rdropWhile_append_rtakeWhile.symm,
    fun _ => List.mem_rtakeWhile_imp⟩

namespace Token

/-! ### The course of reading -/

/-- The text is read as these tokens. -/
inductive Lexes : List Char → List Token → Prop where
  | nil : Lexes [] []
  | blank {char : Char} {rest : List Char} {tokens : List Token}
    (isBlank : Text.isBlank char = true) (later : Lexes rest tokens) : Lexes (char :: rest) tokens
  | token {first : Char} {rest after : List Char} {token : Token} {tokens : List Token}
    (notBlank : Text.isBlank first = false) (step : read first rest = .ok (token, after))
    (later : Lexes after tokens) : Lexes (first :: rest) (token :: tokens)

theorem readAll_nil : readAll [] = .ok [] := by
  rw [readAll_eq]
  rfl

theorem readAll_blank {char : Char} (isBlank : Text.isBlank char = true) (rest : List Char) :
    readAll (char :: rest) = readAll rest := by
  have start : Text.trimStart (char :: rest) = Text.trimStart rest :=
    List.dropWhile_cons_of_pos isBlank
  rw [readAll_eq, readAll_eq rest, start]

theorem readAll_eq_ok_iff {chars : List Char} {tokens : List Token} :
    readAll chars = .ok tokens ↔ Lexes chars tokens := by
  constructor
  · induction length : chars.length using Nat.strong_induction_on generalizing chars tokens with
    | _ _ inductionHypothesis =>
      subst length
      intro result
      rcases chars with _ | ⟨first, rest⟩
      · cases readAll_nil.symm.trans result
        exact .nil
      rcases Bool.eq_false_or_eq_true (Text.isBlank first) with isBlank | notBlank
      · rw [readAll_blank isBlank] at result
        exact .blank isBlank (inductionHypothesis _ (Nat.lt_succ_self _) rfl result)
      · rw [readAll_eq, Text.trimStart_of_not_blank first rest notBlank] at result
        obtain ⟨⟨token, after⟩, step, result⟩ := bind_eq_ok.mp result
        obtain ⟨tokens, ofRest, rfl⟩ := map_eq_ok.mp result
        have shorter : after.length < (first :: rest).length :=
          Nat.lt_succ_of_le (read_length first rest token after step)
        exact .token notBlank step (inductionHypothesis _ shorter rfl ofRest)
  · intro lexes
    induction lexes with
    | nil => exact readAll_nil
    | blank isBlank _ ofRest => rw [readAll_blank isBlank, ofRest]
    | token notBlank step _ ofRest =>
      rw [readAll_cons notBlank step, ofRest]
      rfl

/-! ### Quoted text as it is written -/

/-- What stands between two quotation marks, as it is written and as it is meant. -/
inductive Quotes (mark : Char) : List Char → List Char → Prop where
  | nil : Quotes mark [] []
  | escaped (char : Char) {body content : List Char} (later : Quotes mark body content) :
    Quotes mark ('\\' :: char :: body) (unescape char :: content)
  | plain {char : Char} {body content : List Char} (notBackslash : char ≠ '\\')
    (notMark : char ≠ mark) (later : Quotes mark body content) :
    Quotes mark (char :: body) (char :: content)

theorem readQuoted_escaped (mark char : Char) (rest : List Char) :
    readQuoted mark ('\\' :: char :: rest) =
      (readQuoted mark rest).map fun (content, after) => (unescape char :: content, after) := rfl

theorem readQuoted_mark {mark : Char} (notBackslash : mark ≠ '\\') (rest : List Char) :
    readQuoted mark (mark :: rest) = .ok ([], rest) := by
  rw [readQuoted, if_pos rfl]
  · exact fun isBackslash _ => notBackslash isBackslash
  · exact fun _ _ isBackslash _ => notBackslash isBackslash

theorem exists_of_readQuoted {mark : Char} {chars content after : List Char}
    (result : readQuoted mark chars = .ok (content, after)) :
    ∃ body, chars = body ++ mark :: after ∧ Quotes mark body content := by
  fun_induction readQuoted mark chars generalizing content with
  | case1 => cases result
  | case2 => cases result
  | case3 escaped rest inductionHypothesis =>
    obtain ⟨⟨content, after⟩, result, ⟨⟩⟩ := map_eq_ok.mp result
    obtain ⟨body, rfl, quotes⟩ := inductionHypothesis result
    exact ⟨'\\' :: escaped :: body, rfl, .escaped escaped quotes⟩
  | case4 rest =>
    cases result
    exact ⟨[], rfl, .nil⟩
  | case5 char rest notLast notEscape notMark inductionHypothesis =>
    have notBackslash : char ≠ '\\' := by
      intro isBackslash
      rcases rest with _ | ⟨next, rest⟩
      · exact notLast isBackslash rfl
      · exact notEscape next rest isBackslash rfl
    obtain ⟨⟨content, after⟩, result, ⟨⟩⟩ := map_eq_ok.mp result
    obtain ⟨body, rfl, quotes⟩ := inductionHypothesis result
    exact ⟨char :: body, rfl, .plain notBackslash notMark quotes⟩

/-- A quoted text is read up to its closing mark. -/
theorem Quotes.readQuoted_append {mark : Char} (notBackslash : mark ≠ '\\')
    {body content : List Char} (quotes : Quotes mark body content) (after : List Char) :
    readQuoted mark (body ++ mark :: after) = .ok (content, after) := by
  induction quotes with
  | nil => exact readQuoted_mark notBackslash after
  | escaped char _ ofRest =>
    rw [List.cons_append, List.cons_append, readQuoted_escaped, ofRest]
    rfl
  | plain isPlain notMark _ ofRest =>
    rw [List.cons_append, readQuoted_of_ne isPlain notMark, ofRest]
    rfl

/-- A quoted text that is cut before its closing mark ends too early. -/
theorem Quotes.readQuoted_cut {mark : Char} {body content : List Char}
    (quotes : Quotes mark body content) {start rest : List Char} (cut : body = start ++ rest) :
    readQuoted mark start = .error .unterminatedText := by
  induction quotes generalizing start with
  | nil =>
    rw [(List.append_eq_nil_iff.mp cut.symm).1]
    rfl
  | escaped char _ ofRest =>
    rcases start with _ | ⟨first, _ | ⟨second, start⟩⟩
    · rfl
    · obtain ⟨rfl, _⟩ := List.cons.inj cut
      rfl
    · obtain ⟨rfl, cutRest⟩ := List.cons.inj cut
      obtain ⟨rfl, cutBody⟩ := List.cons.inj cutRest
      rw [readQuoted_escaped, ofRest cutBody]
      rfl
  | plain isPlain notMark _ ofRest =>
    rcases start with _ | ⟨first, start⟩
    · rfl
    · obtain ⟨rfl, cutBody⟩ := List.cons.inj cut
      rw [readQuoted_of_ne isPlain notMark, ofRest cutBody]
      rfl

/-! ### Characters that end a token -/

/-- The marks that open and close quoted texts. -/
def isQuotationMark (char : Char) : Bool :=
  char = '"' || char = '\''

theorem isQuotationMark_iff {char : Char} :
    isQuotationMark char = true ↔ char = '"' ∨ char = '\'' := by
  simp [isQuotationMark]

theorem not_isBlank_of_isQuotationMark {char : Char} (isMark : isQuotationMark char = true) :
    Text.isBlank char = false := by
  rcases isQuotationMark_iff.mp isMark with rfl | rfl <;> rfl

theorem ne_backslash_of_isQuotationMark {char : Char} (isMark : isQuotationMark char = true) :
    char ≠ '\\' := by
  rcases isQuotationMark_iff.mp isMark with rfl | rfl <;> decide

/-- The characters that go on no token that has begun before them, quoted texts apart. -/
def closes (char : Char) : Bool :=
  !continuesName char && !isHexDigit char && char ∉ ['x', 'X', '.', '=', '~', '/', '&', '|']

theorem closes_iff {char : Char} :
    closes char = true ↔ continuesName char = false ∧ isHexDigit char = false ∧
      char ∉ ['x', 'X', '.', '=', '~', '/', '&', '|'] := by
  simp [closes, and_assoc]

theorem isHexDigit_of_isDigit {char : Char} (isDigit : char.isDigit = true) :
    isHexDigit char = true := by
  rw [isHexDigit, isDigit, Bool.true_or]

theorem closes_of_isBlank {char : Char} (isBlank : Text.isBlank char = true) :
    closes char = true := by
  have blanks : ∀ code ∈ [0x09, 0x0A, 0x0B, 0x0C, 0x0D, 0x20, 0x85, 0xA0, 0x1680, 0x2000, 0x2001,
      0x2002, 0x2003, 0x2004, 0x2005, 0x2006, 0x2007, 0x2008, 0x2009, 0x200A, 0x2028, 0x2029,
      0x202F, 0x205F, 0x3000], closes (Char.ofNat code) = true := by
    decide +kernel
  rw [← Char.ofNat_toNat char]
  refine blanks _ ?_
  simp [Text.isBlank] at isBlank ⊢
  omega

/-- A stretch of characters ends where it would end without what follows. -/
theorem takeWhile_append_stop {test : Char → Bool} {stop : Char} (stops : test stop = false)
    (text after : List Char) :
    (text ++ stop :: after).takeWhile test = text.takeWhile test ∧
      (text ++ stop :: after).dropWhile test = text.dropWhile test ++ stop :: after := by
  induction text with
  | nil => simp [stops]
  | cons char text inductionHypothesis =>
    obtain ⟨taken, dropped⟩ := inductionHypothesis
    rw [List.cons_append]
    by_cases continues : test char = true
    · simp [continues, taken, dropped]
    · simp [continues]

section

variable {stop : Char} (closing : closes stop = true)

include closing

theorem cutDecimal_append (first : Char) (text after : List Char) :
    cutDecimal first (text ++ stop :: after) =
      ((cutDecimal first text).1, (cutDecimal first text).2 ++ stop :: after) := by
  obtain ⟨_, notHex, noMark⟩ := closes_iff.mp closing
  have notDigit : stop.isDigit = false :=
    eq_false_of_ne_true fun isDigit =>
      absurd (isHexDigit_of_isDigit isDigit) (ne_true_of_eq_false notHex)
  have notPoint : stop ≠ '.' := by
    rintro rfl
    exact noMark (by decide)
  obtain ⟨taken, dropped⟩ := takeWhile_append_stop notDigit text after
  unfold cutDecimal
  rw [taken, dropped]
  rcases rest : text.dropWhile Char.isDigit with _ | ⟨point, _ | ⟨digit, places⟩⟩
  · simp [notPoint]
  · by_cases isPoint : point = '.'
    · simp [isPoint, notDigit]
    · simp [isPoint]
  · by_cases isPoint : point = '.'
    · obtain ⟨taken, dropped⟩ := takeWhile_append_stop notDigit places after
      subst isPoint
      simp only [List.cons_append]
      split
      · rw [taken, dropped]
      · rfl
    · simp [isPoint]

theorem cutNumeral_append (first : Char) (text after : List Char) :
    cutNumeral first (text ++ stop :: after) =
      ((cutNumeral first text).1, (cutNumeral first text).2 ++ stop :: after) := by
  obtain ⟨_, notHex, noMark⟩ := closes_iff.mp closing
  rcases text with _ | ⟨mark, digits⟩
  · have notHexMark : ¬ (first = '0' && (stop = 'x' || stop = 'X')) = true := by
      simp only [List.mem_cons, not_or] at noMark
      simp [noMark]
    exact (if_neg notHexMark).trans (cutDecimal_append closing first [] after)
  · obtain ⟨taken, dropped⟩ := takeWhile_append_stop notHex digits after
    rw [List.cons_append, cutNumeral, cutNumeral]
    split
    · rw [taken, dropped]
    · exact cutDecimal_append closing first (mark :: digits) after

theorem readSymbol_append (first : Char) (text after : List Char) :
    readSymbol first (text ++ stop :: after) =
      ((readSymbol first text).1, (readSymbol first text).2 ++ stop :: after) := by
  obtain ⟨_, _, noMark⟩ := closes_iff.mp closing
  rcases text with _ | ⟨second, text⟩
  · simp only [List.mem_cons, not_or] at noMark
    unfold readSymbol
    split <;> simp_all
  · unfold readSymbol
    split <;> simp_all

end

/-! ### What one step of reading takes -/

section

variable {first : Char} (rest : List Char)

theorem read_of_isQuotationMark (isMark : isQuotationMark first = true) :
    read first rest =
      (readQuoted first rest).map fun (content, after) =>
        (.text (String.ofList content), after) := by
  rcases isQuotationMark_iff.mp isMark with rfl | rfl <;> rfl

theorem read_of_isDigit (isDigit : first.isDigit = true) :
    read first rest =
      (cutNumeral first rest).1.token.map fun token => (token, (cutNumeral first rest).2) :=
  if_pos isDigit

variable (notMark : isQuotationMark first = false) (notDigit : ¬ first.isDigit = true)

include notMark notDigit

theorem read_of_startsName (isName : startsName first = true) :
    read first rest =
      .ok (.name (String.ofList (first :: rest.takeWhile continuesName)),
        rest.dropWhile continuesName) :=
  (if_neg notDigit).trans ((if_neg (ne_true_of_eq_false notMark)).trans (if_pos isName))

theorem read_of_symbol (notName : ¬ startsName first = true) :
    read first rest = .ok (readSymbol first rest) :=
  (if_neg notDigit).trans ((if_neg (ne_true_of_eq_false notMark)).trans (if_neg notName))

end

/-- What is read at the front of a text, quoted texts apart, does not change if more text follows
that begins with a character by which every token ends. -/
theorem read_append {first : Char} (notMark : isQuotationMark first = false) {stop : Char}
    (closing : closes stop = true) (text after : List Char) :
    read first (text ++ stop :: after) =
      (read first text).map fun (token, rest) => (token, rest ++ stop :: after) := by
  by_cases isDigit : first.isDigit = true
  · rw [read_of_isDigit _ isDigit, read_of_isDigit _ isDigit, cutNumeral_append closing]
    cases (cutNumeral first text).1.token <;> rfl
  by_cases isName : startsName first = true
  · obtain ⟨taken, dropped⟩ := takeWhile_append_stop (closes_iff.mp closing).1 text after
    rw [read_of_startsName _ notMark isDigit isName, read_of_startsName _ notMark isDigit isName,
      taken, dropped]
    rfl
  · rw [read_of_symbol _ notMark isDigit isName, read_of_symbol _ notMark isDigit isName,
      readSymbol_append closing]
    rfl

/-- The token has gone on with characters that do not end it, up to what is left of the text. -/
def GoesOn (rest after : List Char) : Prop :=
  ∃ used, rest = used ++ after ∧ ∀ char ∈ used, closes char = false

theorem goesOn_refl (rest : List Char) : GoesOn rest rest :=
  ⟨[], rfl, nofun⟩

theorem GoesOn.cons {char : Char} {rest after : List Char} (goesOn : GoesOn rest after)
    (continues : closes char = false) : GoesOn (char :: rest) after := by
  obtain ⟨used, rfl, each⟩ := goesOn
  exact ⟨char :: used, rfl, List.forall_mem_cons.mpr ⟨continues, each⟩⟩

theorem goesOn_dropWhile {test : Char → Bool} {rest after : List Char}
    (continues : ∀ char, test char = true → closes char = false)
    (goesOn : GoesOn (rest.dropWhile test) after) : GoesOn rest after := by
  obtain ⟨used, dropped, each⟩ := goesOn
  refine ⟨rest.takeWhile test ++ used, ?_, ?_⟩
  · rw [List.append_assoc, ← dropped, List.takeWhile_append_dropWhile]
  · intro char member
    rcases List.mem_append.mp member with taken | member
    · exact continues char (List.mem_takeWhile_imp taken)
    · exact each char member

theorem not_closes_of_isHexDigit {char : Char} (isHex : isHexDigit char = true) :
    closes char = false := by
  rw [closes, isHex, Bool.not_true, Bool.and_false, Bool.false_and]

theorem not_closes_of_isDigit {char : Char} (isDigit : char.isDigit = true) :
    closes char = false :=
  not_closes_of_isHexDigit (isHexDigit_of_isDigit isDigit)

theorem not_closes_of_continuesName {char : Char} (continues : continuesName char = true) :
    closes char = false := by
  rw [closes, continues, Bool.not_true, Bool.false_and, Bool.false_and]

theorem cutDecimal_goesOn (first : Char) (rest : List Char) :
    GoesOn rest (cutDecimal first rest).2 := by
  refine goesOn_dropWhile (fun _ => not_closes_of_isDigit) ?_
  unfold cutDecimal
  split
  · rename_i digit after places
    rw [places]
    split
    · rename_i isDigit
      exact ((goesOn_dropWhile (fun _ => not_closes_of_isDigit) (goesOn_refl _)).cons
        (not_closes_of_isDigit isDigit)).cons (by decide)
    · exact goesOn_refl _
  · exact goesOn_refl _

theorem cutNumeral_goesOn (first : Char) (rest : List Char) :
    GoesOn rest (cutNumeral first rest).2 := by
  rcases rest with _ | ⟨mark, digits⟩
  · exact cutDecimal_goesOn first []
  · rw [cutNumeral]
    split
    · rename_i isHex
      have markContinues : closes mark = false := by
        simp only [Bool.and_eq_true, Bool.or_eq_true, decide_eq_true_eq] at isHex
        rcases isHex.2 with rfl | rfl
        · decide
        · decide
      exact (goesOn_dropWhile (fun _ => not_closes_of_isHexDigit) (goesOn_refl _)).cons
        markContinues
    · exact cutDecimal_goesOn first (mark :: digits)

theorem readSymbol_goesOn (first : Char) (rest : List Char) :
    GoesOn rest (readSymbol first rest).2 := by
  unfold readSymbol
  split <;> first | exact goesOn_refl _ | exact (goesOn_refl _).cons (by decide)

/-- Each token goes on with characters that do not end it, quoted texts apart. -/
theorem read_goesOn {first : Char} (notMark : isQuotationMark first = false)
    {rest after : List Char} {token : Token} (step : read first rest = .ok (token, after)) :
    GoesOn rest after := by
  by_cases isDigit : first.isDigit = true
  · rw [read_of_isDigit _ isDigit] at step
    obtain ⟨_, _, ⟨⟩⟩ := map_eq_ok.mp step
    exact cutNumeral_goesOn first rest
  by_cases isName : startsName first = true
  · rw [read_of_startsName _ notMark isDigit isName] at step
    cases step
    exact goesOn_dropWhile (fun _ => not_closes_of_continuesName) (goesOn_refl _)
  · rw [read_of_symbol _ notMark isDigit isName] at step
    have symbol := readSymbol_goesOn first rest
    rwa [Except.ok.inj step] at symbol

/-! ### Cutting a text -/

/-- How a text that is read as these tokens may be cut in two: within a quoted text, whose closing
mark then comes after the cut, or between two tokens. -/
inductive Cut : List Char → List Char → List Token → Prop where
  | quoted {before after : List Char} {tokens : List Token}
    (failed : readAll before = .error .unterminatedText) {mark : Char} (later : mark ∈ after)
    (isMark : isQuotationMark mark = true) : Cut before after tokens
  | divided {before after : List Char} {first second : List Token} (ofBefore : Lexes before first)
    (ofAfter : Lexes after second) : Cut before after (first ++ second)

theorem Cut.blank {before after : List Char} {tokens : List Token} (cut : Cut before after tokens)
    {char : Char} (isBlank : Text.isBlank char = true) : Cut (char :: before) after tokens := by
  cases cut with
  | quoted failed later isMark =>
    exact .quoted ((readAll_blank isBlank before).trans failed) later isMark
  | divided ofBefore ofAfter => exact .divided (.blank isBlank ofBefore) ofAfter

theorem Cut.token {between after : List Char} {tokens : List Token}
    (cut : Cut between after tokens) {first : Char} {before : List Char} {token : Token}
    (notBlank : Text.isBlank first = false) (step : read first before = .ok (token, between)) :
    Cut (first :: before) after (token :: tokens) := by
  cases cut with
  | quoted failed later isMark =>
    refine .quoted ?_ later isMark
    rw [readAll_cons notBlank step, failed]
    rfl
  | divided ofBefore ofAfter => exact .divided (.token notBlank step ofBefore) ofAfter

/-- A quoted text is cut before its closing mark, or the cut comes after the token. -/
theorem cut_of_isQuotationMark {first : Char} (isMark : isQuotationMark first = true)
    {before after rest : List Char} {token : Token} {tokens : List Token}
    (step : read first (before ++ after) = .ok (token, rest))
    (further : ∀ between, between ++ after = rest → Cut between after tokens) :
    Cut (first :: before) after (token :: tokens) := by
  have notBlank : Text.isBlank first = false := not_isBlank_of_isQuotationMark isMark
  rw [read_of_isQuotationMark _ isMark] at step
  obtain ⟨⟨content, rest⟩, quoted, ⟨⟩⟩ := map_eq_ok.mp step
  obtain ⟨body, whole, quotes⟩ := exists_of_readQuoted quoted
  have unterminated : ∀ more, body = before ++ more → after = more ++ first :: rest →
      Cut (first :: before) after (.text (String.ofList content) :: tokens) := by
    rintro more isBody rfl
    refine .quoted ?_ (List.mem_append_right _ List.mem_cons_self) isMark
    rw [readAll_eq, Text.trimStart_of_not_blank first before notBlank]
    dsimp only
    rw [read_of_isQuotationMark _ isMark, quotes.readQuoted_cut isBody]
    rfl
  rcases List.append_eq_append_iff.mp whole with ⟨more, isBody, ofAfter⟩ | ⟨more, isBefore, ofAfter⟩
  · exact unterminated more isBody ofAfter
  rcases more with _ | ⟨_, between⟩
  · exact unterminated [] (by simpa using isBefore.symm) ofAfter.symm
  · obtain ⟨rfl, isRest⟩ := List.cons.inj ofAfter
    refine (further between isRest.symm).token notBlank ?_
    rw [isBefore, read_of_isQuotationMark _ isMark,
      quotes.readQuoted_append (ne_backslash_of_isQuotationMark isMark)]
    rfl

/-- A text can be cut before each character by which every token ends. -/
theorem Lexes.cut {before after : List Char} {stop : Char} {tokens : List Token}
    (closing : closes stop = true) (lexes : Lexes (before ++ stop :: after) tokens) :
    Cut before (stop :: after) tokens := by
  generalize whole : before ++ stop :: after = text at lexes
  induction lexes generalizing before with
  | nil => exact absurd whole (List.append_ne_nil_of_right_ne_nil _ (List.cons_ne_nil _ _))
  | blank isBlank later ofRest =>
    rcases before with _ | ⟨_, before⟩
    · cases whole
      exact .divided .nil (.blank isBlank later)
    · obtain ⟨rfl, wholeRest⟩ := List.cons.inj whole
      exact (ofRest wholeRest).blank isBlank
  | token notBlank step later ofRest =>
    rcases before with _ | ⟨first, before⟩
    · cases whole
      exact .divided .nil (.token notBlank step later)
    obtain ⟨rfl, rfl⟩ := List.cons.inj whole
    rcases Bool.eq_false_or_eq_true (isQuotationMark first) with isMark | notMark
    · exact cut_of_isQuotationMark isMark step fun _ => ofRest
    · have stepBefore := (read_append notMark closing before after).symm.trans step
      obtain ⟨⟨token, between⟩, ofBefore, ⟨⟩⟩ := map_eq_ok.mp stepBefore
      exact (ofRest rfl).token notBlank ofBefore

/-! ### Blanks at the ends -/

theorem readAll_trimStart (text : List Char) : readAll (Text.trimStart text) = readAll text := by
  induction text with
  | nil => rfl
  | cons char text inductionHypothesis =>
    rcases Bool.eq_false_or_eq_true (Text.isBlank char) with isBlank | notBlank
    · have step : Text.trimStart (char :: text) = Text.trimStart text :=
        List.dropWhile_cons_of_pos isBlank
      rw [step, inductionHypothesis, readAll_blank isBlank]
    · rw [Text.trimStart_of_not_blank char text notBlank]

/-- A character that closes no quoted text changes nothing at the end. -/
theorem readQuoted_concat {mark stop : Char} (notMark : stop ≠ mark) (text : List Char) :
    readQuoted mark (text ++ [stop]) =
      (readQuoted mark text).map fun (content, after) => (content, after ++ [stop]) := by
  induction length : text.length using Nat.strong_induction_on generalizing text with
  | _ _ inductionHypothesis =>
    subst length
    rcases text with _ | ⟨char, rest⟩
    · by_cases isBackslash : stop = '\\'
      · rw [isBackslash]
        rfl
      · rw [List.nil_append, readQuoted_of_ne isBackslash notMark]
        rfl
    by_cases isBackslash : char = '\\'
    · subst isBackslash
      rcases rest with _ | ⟨escaped, rest⟩
      · rfl
      · rw [List.cons_append, List.cons_append, readQuoted_escaped, readQuoted_escaped,
          inductionHypothesis _ (Nat.lt_succ_of_lt (Nat.lt_succ_self _)) rest rfl]
        cases readQuoted mark rest <;> rfl
    by_cases isMark : char = mark
    · subst isMark
      rw [List.cons_append, readQuoted_mark isBackslash, readQuoted_mark isBackslash]
      rfl
    · rw [List.cons_append, readQuoted_of_ne isBackslash isMark,
        readQuoted_of_ne isBackslash isMark, inductionHypothesis _ (Nat.lt_succ_self _) rest rfl]
      cases readQuoted mark rest <;> rfl

/-- Reading does not change if a blank comes at the end. -/
theorem readAll_concat {blank : Char} (isBlank : Text.isBlank blank = true) (text : List Char) :
    readAll (text ++ [blank]) = readAll text := by
  induction length : text.length using Nat.strong_induction_on generalizing text with
  | _ _ inductionHypothesis =>
    subst length
    rcases text with _ | ⟨first, rest⟩
    · exact readAll_blank isBlank []
    rcases Bool.eq_false_or_eq_true (Text.isBlank first) with firstBlank | notBlank
    · rw [List.cons_append, readAll_blank firstBlank, readAll_blank firstBlank]
      exact inductionHypothesis _ (Nat.lt_succ_self _) rest rfl
    have step : read first (rest ++ [blank]) =
        (read first rest).map fun (token, after) => (token, after ++ [blank]) := by
      rcases Bool.eq_false_or_eq_true (isQuotationMark first) with isMark | notMark
      · have notClosed : blank ≠ first := by
          rintro rfl
          cases (not_isBlank_of_isQuotationMark isMark).symm.trans isBlank
        rw [read_of_isQuotationMark _ isMark, read_of_isQuotationMark _ isMark,
          readQuoted_concat notClosed]
        cases readQuoted first rest <;> rfl
      · exact read_append notMark (closes_of_isBlank isBlank) rest []
    rw [readAll_eq, readAll_eq (first :: rest), List.cons_append,
      Text.trimStart_of_not_blank _ _ notBlank, Text.trimStart_of_not_blank _ _ notBlank]
    dsimp only
    rw [step]
    rcases result : read first rest with reason | ⟨token, after⟩
    · rfl
    · have shorter : after.length < (first :: rest).length :=
        Nat.lt_succ_of_le (read_length first rest token after result)
      exact congrArg (Except.map (token :: ·)) (inductionHypothesis _ shorter after rfl)

theorem readAll_append_blanks {blanks : List Char}
    (allBlank : ∀ char ∈ blanks, Text.isBlank char = true) (text : List Char) :
    readAll (text ++ blanks) = readAll text := by
  induction blanks generalizing text with
  | nil => rw [List.append_nil]
  | cons blank blanks inductionHypothesis =>
    obtain ⟨ofFirst, ofOthers⟩ := List.forall_mem_cons.mp allBlank
    rw [List.append_cons, inductionHypothesis ofOthers, readAll_concat ofFirst]

/-- Blanks at the ends of an expression do not count. -/
theorem readAll_trim (text : List Char) : readAll (Text.trim text) = readAll text := by
  obtain ⟨blanks, whole, allBlank⟩ := Text.exists_blanks (Text.trimStart text)
  rw [← readAll_trimStart text]
  conv_rhs => rw [whole, readAll_append_blanks allBlank]
  rfl

end Token

end SlashScript
