/-
This file follows the name of a variable through the places where a script may write it: alone in
an expression, after a percent sign with or without braces, and in the command that gives names to
the arguments. The same characters make up a name in all of these places, so a name that the
command takes is read back whole in each of the others.
-/

import SlashScript.Proofs.Blocks.Joining
import SlashScript.Proofs.Embedding.Listing
import SlashScript.Proofs.Literal.Integer

namespace SlashScript

open Token (startsName continuesName)

/-! ### Names -/

/-- A text that may be the name of a variable. -/
def IsName (name : String) : Prop :=
  Statement.checkName name.toList = .ok name

theorem Token.continuesName_of_startsName {char : Char} (starts : startsName char = true) :
    continuesName char = true := by
  unfold startsName at starts
  unfold continuesName Text.isLetterOrNumber
  rcases Bool.or_eq_true_iff.mp starts with isLetter | isLowLine
  · rw [isLetter, Bool.true_or, Bool.true_or]
  · rw [isLowLine, Bool.or_true]

theorem Token.not_isDigit_of_startsName {char : Char} (starts : startsName char = true) :
    ¬ char.isDigit = true := by
  intro isDigit
  have bounds := Decimal.toNat_bounds_of_isDigit isDigit
  have none : ∀ code ∈ List.range' 48 10, startsName (Char.ofNat code) = false := by decide
  have never := none char.toNat (List.mem_range'_1.mpr ⟨bounds.1, by omega⟩)
  rw [Char.ofNat_toNat, starts] at never
  cases never

namespace IsName

variable {name : String}

theorem exists_first (isName : IsName name) : ∃ first rest, name.toList = first :: rest ∧
    startsName first = true ∧ ∀ char ∈ rest, continuesName char = true := by
  unfold IsName at isName
  cases chars : name.toList with
  | nil =>
    rw [chars] at isName
    cases isName
  | cons first rest =>
    rw [chars, Statement.checkName] at isName
    split at isName
    · rename_i valid
      obtain ⟨starts, continues⟩ := Bool.and_eq_true_iff.mp valid
      exact ⟨first, rest, rfl, starts, List.all_eq_true.mp continues⟩
    · cases isName

theorem continues (isName : IsName name) : ∀ char ∈ name.toList, continuesName char = true := by
  obtain ⟨first, rest, chars, starts, continues⟩ := isName.exists_first
  rw [chars]
  exact List.forall_mem_cons.mpr ⟨Token.continuesName_of_startsName starts, continues⟩

/-- What cannot stand in a name does not stand in it. -/
theorem not_mem (isName : IsName name) {char : Char} (stops : continuesName char = false) :
    char ∉ name.toList := by
  intro member
  rw [isName.continues char member] at stops
  cases stops

theorem ne_nil (isName : IsName name) : name.toList ≠ [] := by
  obtain ⟨first, rest, chars, -⟩ := isName.exists_first
  rw [chars]
  exact List.cons_ne_nil first rest

theorem not_isBlank (isName : IsName name) : ∀ char ∈ name.toList, Text.isBlank char = false := by
  intro char member
  by_contra isBlank
  have stops := Token.closes_of_isBlank (Bool.eq_true_of_not_eq_false isBlank)
  exact isName.not_mem (Token.closes_iff.mp stops).1 member

/-! ### Names in expressions -/

/-- A name is a token. -/
theorem lexes (isName : IsName name) : Token.Lexes name.toList [.name name] := by
  obtain ⟨first, rest, chars, starts, continues⟩ := isName.exists_first
  have visible : Text.isBlank first = false := isName.not_isBlank first (chars ▸ .head _)
  have notMark : Token.isQuotationMark first = false := by
    by_contra isMark
    rcases Token.isQuotationMark_iff.mp (Bool.eq_true_of_not_eq_false isMark) with rfl | rfl
    · cases starts
    · cases starts
  have step : Token.read first rest = .ok (.name name, []) := by
    rw [Token.read_of_startsName rest notMark (Token.not_isDigit_of_startsName starts) starts,
      List.takeWhile_eq_self_iff.mpr continues, List.dropWhile_eq_nil_iff.mpr continues, ← chars,
      String.ofList_toList]
  rw [chars]
  exact .token visible step .nil

/-- A name alone is an expression for its variable. -/
theorem parse (isName : IsName name) : Expression.parse name.toList = .ok (.named name) := by
  unfold Expression.parse
  rw [Token.readAll_eq_ok_iff.mpr isName.lexes]
  rfl

/-- The tokens of a call are the name, the tokens between its parentheses and these. -/
theorem lexes_call (isName : IsName name) {inside : List Char} {tokens : List Token}
    (ofInside : Token.Lexes inside tokens) :
    Token.Lexes (name.toList ++ '(' :: (inside ++ [')']))
      (.name name :: .openParen :: (tokens ++ [.closeParen])) := by
  have closing : Token.Lexes [')'] [.closeParen] := .token rfl rfl .nil
  exact isName.lexes.append (by decide) (.token rfl rfl (ofInside.append (by decide) closing))

end IsName

/-! ### Names in templates -/

namespace Template

/-- A mark closes what has no marks inside. -/
theorem untilClosed_of_not_mem {openMark closeMark : Char} {inside : List Char}
    (noOpening : openMark ∉ inside) (noClosing : closeMark ∉ inside) (after : List Char) :
    untilClosed openMark closeMark 0 (inside ++ closeMark :: after) = some (inside, after) := by
  induction inside with
  | nil => simp [untilClosed]
  | cons char inside inductionHypothesis =>
    simp only [List.mem_cons, not_or] at noOpening noClosing
    have later := inductionHypothesis noOpening.2 noClosing.2
    rw [List.cons_append, untilClosed, if_neg (by simp [Ne.symm noClosing.1]),
      if_neg (Ne.symm noClosing.1), if_neg (Ne.symm noOpening.1)]
    dsimp only
    rw [later]
    rfl

end Template

namespace IsName

variable {name : String}

/-- A name after a percent sign stands for its variable. -/
theorem compile_percent (isName : IsName name) :
    Template.compile ('%' :: name.toList) = .ok ⟨[.named name none]⟩ := by
  refine Template.compile_of_part ?_
  show Template.readPercent name.toList = _
  obtain ⟨first, rest, chars, starts, continues⟩ := isName.exists_first
  have notMark : ∀ {mark : Char}, continuesName mark = false → first ≠ mark := by
    rintro mark stops rfl
    exact isName.not_mem stops (chars ▸ .head _)
  have notDigit : first.isDigit = false := by
    simpa using Token.not_isDigit_of_startsName starts
  rw [chars, Template.readPercent, if_neg (notMark rfl), if_neg (notMark rfl),
    if_neg (notMark rfl), if_neg (notMark rfl), notDigit, if_neg (by simp), if_pos starts]
  dsimp only
  rw [List.takeWhile_eq_self_iff.mpr continues, List.dropWhile_eq_nil_iff.mpr continues, ← chars,
    String.ofList_toList]

/-- So does a name between braces after it. -/
theorem compile_braced (isName : IsName name) :
    Template.compile ('%' :: '\x7b' :: (name.toList ++ ['\x7d'])) =
      .ok ⟨[.named name none]⟩ := by
  refine Template.compile_of_part ?_
  show Template.readPercent ('\x7b' :: (name.toList ++ ['\x7d'])) = _
  have noMinus : ∀ char ∈ name.toList, (char != '-') = true := by
    intro char member
    rw [bne_iff_ne]
    rintro rfl
    exact isName.not_mem (by decide) member
  have closed : Template.untilClosed '\x7b' '\x7d' 0 (name.toList ++ ['\x7d']) =
      some (name.toList, []) :=
    Template.untilClosed_of_not_mem (isName.not_mem (by decide)) (isName.not_mem (by decide)) []
  have part : Template.bracedPart name.toList = .ok (.named name none) := by
    unfold Template.bracedPart
    rw [List.takeWhile_eq_self_iff.mpr noMinus, List.dropWhile_eq_nil_iff.mpr noMinus]
    dsimp only
    rw [String.ofList_toList, if_neg (by simpa using isName.ne_nil)]
  rw [Template.readPercent, if_neg (by decide), if_neg (by decide), if_neg (by decide),
    if_pos rfl, closed]
  dsimp only
  rw [part]
  rfl

end IsName

/-! ### The command that gives names -/

/-- A text that is not empty and has no blanks in it. -/
def IsWord (text : List Char) : Prop :=
  text ≠ [] ∧ ∀ char ∈ text, Text.isBlank char = false

theorem IsName.isWord {name : String} (isName : IsName name) : IsWord name.toList :=
  ⟨isName.ne_nil, isName.not_isBlank⟩

/-- Words with single spaces between them. -/
def spaced (texts : List (List Char)) : List Char :=
  [' '].intercalate texts

theorem spaced_singleton (text : List Char) : spaced [text] = text :=
  List.intercalate_singleton

theorem spaced_cons_cons (first second : List Char) (others : List (List Char)) :
    spaced (first :: second :: others) = first ++ ' ' :: spaced (second :: others) := by
  unfold spaced
  rw [List.intercalate_cons_cons, List.append_assoc]
  rfl

theorem mem_spaced {texts : List (List Char)} {char : Char} (member : char ∈ spaced texts) :
    char = ' ' ∨ ∃ text ∈ texts, char ∈ text := by
  induction texts with
  | nil => cases member
  | cons first texts inductionHypothesis =>
    cases texts with
    | nil => exact .inr ⟨first, .head _, spaced_singleton first ▸ member⟩
    | cons second texts =>
      rw [spaced_cons_cons, List.mem_append, List.mem_cons] at member
      rcases member with inFirst | isSpace | later
      · exact .inr ⟨first, .head _, inFirst⟩
      · exact .inl isSpace
      · rcases inductionHypothesis later with isSpace | ⟨text, isText, inText⟩
        · exact .inl isSpace
        · exact .inr ⟨text, .tail _ isText, inText⟩

theorem spaced_ne_nil {first : List Char} (nonempty : first ≠ []) (others : List (List Char)) :
    spaced (first :: others) ≠ [] := by
  cases others with
  | nil => rwa [spaced_singleton]
  | cons second others =>
    rw [spaced_cons_cons]
    exact List.append_ne_nil_of_left_ne_nil nonempty _

/-- Words that are joined by single spaces begin and end with words. -/
theorem trimmed_spaced {texts : List (List Char)} (areWords : ∀ text ∈ texts, IsWord text) :
    Text.Trimmed (spaced texts) := by
  induction texts with
  | nil => exact ⟨nofun, nofun⟩
  | cons first texts inductionHypothesis =>
    obtain ⟨⟨nonempty, visible⟩, later⟩ := List.forall_mem_cons.mp areWords
    cases texts with
    | nil =>
      rw [spaced_singleton]
      exact ⟨fun char isFirst => visible char (List.mem_of_head? isFirst),
        fun char isLast => visible char (List.mem_of_getLast? isLast)⟩
    | cons second texts =>
      have rest := inductionHypothesis later
      rw [spaced_cons_cons]
      refine ⟨fun char isFirst => ?_, fun char isLast => ?_⟩
      · rw [List.head?_append_of_ne_nil _ nonempty] at isFirst
        exact visible char (List.mem_of_head? isFirst)
      · have lastWord := spaced_ne_nil (later second List.mem_cons_self).1 texts
        rw [← List.singleton_append, ← List.append_assoc,
          List.getLast?_append_of_ne_nil _ lastWord] at isLast
        exact rest.2 char isLast

namespace Statement

theorem wordsFrom_append (reversed : List Char) {word : List Char}
    (visible : ∀ char ∈ word, Text.isBlank char = false) (rest : List Char) :
    wordsFrom reversed (word ++ rest) = wordsFrom (word.reverse ++ reversed) rest := by
  induction word generalizing reversed with
  | nil => rfl
  | cons char word inductionHypothesis =>
    obtain ⟨here, later⟩ := List.forall_mem_cons.mp visible
    rw [List.cons_append, wordsFrom, here, if_neg Bool.false_ne_true,
      inductionHypothesis (char :: reversed) later, List.reverse_cons, List.append_assoc]
    rfl

/-- Words that are joined by single spaces are found again. -/
theorem words_spaced {texts : List (List Char)} (areWords : ∀ text ∈ texts, IsWord text) :
    words (spaced texts) = texts := by
  induction texts with
  | nil => rfl
  | cons first texts inductionHypothesis =>
    obtain ⟨⟨nonempty, visible⟩, later⟩ := List.forall_mem_cons.mp areWords
    have kept : (first.reverse ++ []).isEmpty = false := by simpa using nonempty
    cases texts with
    | nil =>
      rw [spaced_singleton, words, ← List.append_nil first, wordsFrom_append [] visible,
        wordsFrom, kept]
      simp
    | cons second texts =>
      have others : wordsFrom [] (spaced (second :: texts)) = second :: texts :=
        inductionHypothesis later
      rw [spaced_cons_cons, words, wordsFrom_append [] visible, wordsFrom,
        if_pos (show Text.isBlank ' ' = true from rfl), kept, if_neg Bool.false_ne_true, others]
      simp

/-- The command that gives these names to the arguments. -/
def naming (names : List String) : List Char :=
  commanding "param" (spaced (names.map String.toList))

theorem param_isCommand : IsCommand "param" :=
  ⟨by decide, by decide⟩

section

variable {names : List String} (areNames : ∀ name ∈ names, IsName name)

include areNames

theorem areWords : ∀ text ∈ names.map String.toList, IsWord text := by
  intro text isText
  obtain ⟨name, isName, rfl⟩ := List.mem_map.mp isText
  exact (areNames name isName).isWord

/-- Nothing but a space stands between the names that cannot stand in them. -/
theorem not_mem_spaced {char : Char} (stops : continuesName char = false) (notSpace : char ≠ ' ') :
    char ∉ spaced (names.map String.toList) := by
  intro member
  rcases mem_spaced member with isSpace | ⟨text, isText, inText⟩
  · exact notSpace isSpace
  · obtain ⟨name, isName, rfl⟩ := List.mem_map.mp isText
    exact (areNames name isName).not_mem stops inText

theorem mapM_nameOf (command : String) :
    (names.map String.toList).mapM (nameOf command) = .ok names := by
  induction names with
  | nil => rfl
  | cons name names inductionHypothesis =>
    obtain ⟨isName, later⟩ := List.forall_mem_cons.mp areNames
    have here : nameOf command name.toList = .ok name := congrArg (Except.mapError _) isName
    rw [List.map_cons, List.mapM_cons, here, inductionHypothesis later]
    rfl

theorem spaced_names_ne_nil (nonempty : names ≠ []) : spaced (names.map String.toList) ≠ [] := by
  obtain ⟨first, others, rfl⟩ := List.exists_cons_of_ne_nil nonempty
  exact spaced_ne_nil (areNames first List.mem_cons_self).ne_nil _

theorem getLast?_spaced_names : (spaced (names.map String.toList)).getLast? ≠ some '\\' :=
  fun isLast => not_mem_spaced areNames (by decide) (by decide) (List.mem_of_getLast? isLast)

/-- No statement ends between the names. -/
theorem splitStatements_spaced_names : Layout.splitStatements (spaced (names.map String.toList)) =
    [spaced (names.map String.toList)] := by
  have meaningless : (spaced (names.map String.toList)).all (· ∉ ['%', '[', ']', '"']) = true := by
    refine List.all_eq_true.mpr fun char member => decide_eq_true fun isMark => ?_
    simp only [List.mem_cons, List.not_mem_nil, or_false] at isMark
    rcases isMark with rfl | rfl | rfl | rfl <;>
      exact not_mem_spaced areNames (by decide) (by decide) member
  have split : Layout.splitFrom false 0 (spaced (names.map String.toList) ++ []) =
      [spaced (names.map String.toList) ++ []] := Layout.splitFrom_append _ meaningless rfl
  rwa [List.append_nil] at split

/-- The command is read as the statement that gives the names. -/
theorem parse_naming (nonempty : names ≠ []) : parse (naming names) = .ok [.param names] := by
  have trimmed := Text.trim_eq_self_iff.mpr (trimmed_spaced (areWords areNames))
  have statements := statements_commanding param_isCommand
    (not_mem_spaced areNames (by decide) (by decide)) (spaced_names_ne_nil areNames nonempty)
    (getLast?_spaced_names areNames) (splitStatements_spaced_names areNames)
  have someNames : (names.map String.toList).isEmpty = false := by simpa using nonempty
  refine parse_of_plain statements ?_
  show directive (Text.trim (naming names)) = _
  unfold directive naming
  rw [splitCommand_trim_commanding param_isCommand, trimmed]
  show directiveOfCommand "param" (spaced (names.map String.toList)) = _
  unfold directiveOfCommand
  rw [words_spaced (areWords areNames)]
  dsimp only
  rw [someNames, mapM_nameOf areNames]
  rfl

theorem not_mem_naming {char : Char} (stops : continuesName char = false)
    (elsewhere : char ∉ "/param ".toList) : char ∉ naming names := by
  have notSpace : char ≠ ' ' := fun isSpace => elsewhere (isSpace ▸ by decide)
  intro member
  rw [naming, commanding_eq] at member
  rcases List.mem_append.mp member with isCommand | inNames
  · exact elsewhere isCommand
  · exact not_mem_spaced areNames stops notSpace inNames

/-- Before other text it gives the names first. -/
theorem parse_naming_append (nonempty : names ≠ []) {rest : List Char} {block : Block}
    (parsed : parse rest = .ok block) :
    parse (naming names ++ '\n' :: rest) = .ok (.param names :: block) := by
  have oneLine : Text.lines (naming names) = [naming names] :=
    Text.linesFrom_of_not_mem (not_mem_naming areNames (by decide) (by decide))
      (.inr (List.cons_ne_nil _ _))
  have closed : (naming names).getLast? ≠ some '\\' := by
    rw [naming, getLast?_commanding (spaced_names_ne_nil areNames nonempty)]
    exact getLast?_spaced_names areNames
  refine parse_join (not_mem_naming areNames (by decide) (by decide)) ?_
    (parse_naming areNames nonempty) parsed
  rw [oneLine]
  exact Layout.closes_nil.cons (.inr (.inl closed))

end

end Statement

end SlashScript
