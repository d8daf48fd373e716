/-
This file quotes the value of a variable in a settings file. Between double quotation marks a
backslash stands before every backslash and every quotation mark, and then the reader of words gives
back the characters that were quoted, whatever they are: blanks, equals signs and the marks of
comments too. Behind an equals sign every value can be written so. Behind a blank the quotation is a
word of its own, and a word without characters does not count. So the empty value is lost there, and
the directive is refused for want of a value.
-/

import SlashScript.Proofs.Arguments.Names
import SlashScript.Proofs.Settings.Loading

namespace SlashScript.Settings

/-! ### The argument of a directive -/

theorem set_isCommand : Statement.IsCommand "set" :=
  ⟨by decide, by decide⟩

/-- A line without blanks around it is divided after the name of its command. -/
theorem directive?_of_trim {line : List Char} (argument : List Char)
    (trimmed : Text.trim line = '/' :: ("set".toList ++ argument))
    (starts : ∀ char ∈ argument.head?, isSeparator char = true) :
    directive? line = some (Text.trim (argument.drop 1)) := by
  have inName : ∀ char ∈ "set".toList, (!isSeparator char) = true := by
    simp only [← List.all_eq_true]
    rfl
  have stops : argument.takeWhile (!isSeparator ·) = [] ∧
      argument.dropWhile (!isSeparator ·) = argument := by
    cases argument with
    | nil => exact ⟨rfl, rfl⟩
    | cons char rest =>
      have isBlank := starts char rfl
      constructor <;> simp [isBlank]
  have name : ("set".toList ++ argument).takeWhile (!isSeparator ·) = "set".toList := by
    rw [List.takeWhile_append_of_pos inName, stops.1, List.append_nil]
  have rest : ("set".toList ++ argument).dropWhile (!isSeparator ·) = argument := by
    rw [List.dropWhile_append_of_pos inName, stops.2]
  unfold directive?
  rw [trimmed]
  exact (if_pos name).trans (by rw [rest])

/-- The argument of a directive is what stands behind its name, without the blanks around it. -/
theorem directive?_commanding (argument : List Char) :
    directive? (Statement.commanding "set" argument) = some (Text.trim argument) := by
  have start : Text.trim (Statement.commanding "set" argument) =
      Text.trimEnd (Statement.commanding "set" argument) :=
    congrArg Text.trimEnd (Text.trimStart_of_not_blank _ _ rfl)
  obtain ⟨blanks, whole, allBlank⟩ := Text.exists_blanks argument
  have sameArgument : Text.trim argument = Text.trim (Text.trimEnd argument) := by
    conv_lhs => rw [whole, Text.trim_append_blanks allBlank]
  rw [sameArgument]
  by_cases kept : Text.trimEnd argument = []
  · rw [kept, List.nil_append] at whole
    have trimmed := start.trans
      (Statement.trimEnd_commanding_of_blank set_isCommand (whole ▸ allBlank))
    rw [directive?_of_trim [] trimmed nofun, kept]
    rfl
  · have trimmed := start.trans (Statement.trimEnd_commanding kept)
    rw [directive?_of_trim (' ' :: Text.trimEnd argument) trimmed]
    · rfl
    · rintro char ⟨⟩
      rfl

theorem followLine_of_divided {line argument name value : List Char}
    (directs : directive? line = some argument)
    (divided : nameAndValue (words argument) = .ok (name, value)) (settings : Settings) :
    settings.followLine line = settings.assign name value := by
  unfold followLine
  rw [directs]
  dsimp only [bind, Except.bind]
  rw [divided]

theorem refused_of_undivided {line argument : List Char} {cause : SettingsCause}
    (directs : directive? line = some argument)
    (undivided : nameAndValue (words argument) = .error cause) : Refused line cause := by
  intro settings
  unfold followLine
  rw [directs]
  dsimp only [bind, Except.bind]
  rw [undivided]

/-! ### Quoted words -/

/-- The characters that separate words are blanks. -/
theorem isSeparator_of_not_isBlank {char : Char} (visible : Text.isBlank char = false) :
    isSeparator char = false := by
  by_contra isSeparator
  simp only [Settings.isSeparator, Bool.not_eq_false, Bool.or_eq_true, beq_iff_eq] at isSeparator
  rcases isSeparator with (((rfl | rfl) | rfl) | rfl) | rfl <;> cases visible

/-- A character as it is written between double quotation marks. -/
def quoteChar (char : Char) : List Char :=
  if char = '\\' ∨ char = '"' then ['\\', char] else [char]

/-- A text as it is written between double quotation marks. -/
def quote (text : List Char) : List Char :=
  text.flatMap quoteChar

/-- A text with its quotation marks. -/
def quotation (text : List Char) : List Char :=
  '"' :: (quote text ++ ['"'])

theorem wordsFrom_mark (quoted : Bool) (reversed rest : List Char) :
    wordsFrom quoted reversed ('"' :: rest) = wordsFrom (!quoted) reversed rest := by
  cases rest <;> exact if_pos rfl

theorem wordsFrom_separator {char : Char} (separates : isSeparator char = true)
    (reversed rest : List Char) :
    wordsFrom false reversed (char :: rest) = closeWord reversed (wordsFrom false [] rest) := by
  have notMark : char ≠ '"' := by
    rintro rfl
    cases separates
  have ends : (isSeparator char && !false) = true := by rw [separates]; rfl
  cases rest <;> exact ((if_neg notMark).trans (if_neg (by simp))).trans (if_pos ends)

theorem wordsFrom_quoted {char : Char} (notMark : char ≠ '"') (notBackslash : char ≠ '\\')
    (reversed rest : List Char) :
    wordsFrom true reversed (char :: rest) = wordsFrom true (char :: reversed) rest := by
  have notProtecting : ¬ (true && decide (char = '\\')) = true := by simp [notBackslash]
  cases rest <;> exact ((if_neg notMark).trans (if_neg notProtecting)).trans (if_neg (by simp))

theorem wordsFrom_unquoted {char : Char} (notMark : char ≠ '"')
    (notSeparator : isSeparator char = false) (reversed rest : List Char) :
    wordsFrom false reversed (char :: rest) = wordsFrom false (char :: reversed) rest := by
  have goesOn : ¬ (isSeparator char && !false) = true := by simp [notSeparator]
  cases rest <;> exact ((if_neg notMark).trans (if_neg (by simp))).trans (if_neg goesOn)

/-- A word goes on with characters that neither end it nor quote. -/
theorem wordsFrom_append (reversed : List Char) {plain : List Char}
    (meaningless : ∀ char ∈ plain, char ≠ '"' ∧ isSeparator char = false) (rest : List Char) :
    wordsFrom false reversed (plain ++ rest) =
      wordsFrom false (plain.reverse ++ reversed) rest := by
  induction plain generalizing reversed with
  | nil => rfl
  | cons char plain inductionHypothesis =>
    obtain ⟨⟨notMark, notSeparator⟩, later⟩ := List.forall_mem_cons.mp meaningless
    rw [List.cons_append, wordsFrom_unquoted notMark notSeparator,
      inductionHypothesis (char :: reversed) later, List.reverse_cons, List.append_assoc]
    rfl

/-- A word goes on with what is quoted. -/
theorem wordsFrom_quote (reversed text rest : List Char) :
    wordsFrom true reversed (quote text ++ '"' :: rest) =
      wordsFrom false (text.reverse ++ reversed) rest := by
  induction text generalizing reversed with
  | nil => exact wordsFrom_mark true reversed rest
  | cons char text inductionHypothesis =>
    have step : wordsFrom true reversed (quoteChar char ++ (quote text ++ '"' :: rest)) =
        wordsFrom true (char :: reversed) (quote text ++ '"' :: rest) := by
      unfold quoteChar
      split
      · rfl
      · rename_i plain
        obtain ⟨notBackslash, notMark⟩ := not_or.mp plain
        exact wordsFrom_quoted notMark notBackslash reversed _
    rw [quote, List.flatMap_cons, ← quote, List.append_assoc, step,
      inductionHypothesis (char :: reversed), List.reverse_cons, List.append_assoc]
    rfl

theorem wordsFrom_quotation (reversed text : List Char) :
    wordsFrom false reversed (quotation text) = closeWord (text.reverse ++ reversed) [] := by
  rw [quotation, wordsFrom_mark]
  exact wordsFrom_quote reversed text []

theorem newline_not_mem_quotation {text : List Char} (oneLine : '\n' ∉ text) :
    '\n' ∉ quotation text := by
  have notInChar (char : Char) (member : char ∈ text) : '\n' ∉ quoteChar char := by
    have different : '\n' ≠ char := fun isNewline => oneLine (isNewline ▸ member)
    unfold quoteChar
    split <;> simp [different]
  simp only [quotation, quote, List.mem_cons, List.mem_append, List.mem_flatMap, List.not_mem_nil,
    or_false, not_or, not_exists, not_and]
  exact ⟨by decide, notInChar, by decide⟩

theorem trim_append_quotation {first : Char} (visible : Text.isBlank first = false)
    (rest text : List Char) :
    Text.trim (first :: (rest ++ quotation text)) = first :: (rest ++ quotation text) := by
  refine Text.trim_cons visible fun char isLast => ?_
  rw [quotation, ← List.cons_append, ← List.cons_append, ← List.append_assoc,
    List.getLast?_concat] at isLast
  cases isLast
  rfl

/-! ### Names and values -/

/-- The settings with a further variable. -/
def withGlobal (settings : Settings) (name : String) (value : Value) : Settings :=
  { settings with globals := settings.globals ++ [(name, value)] }

/-- A directive for a variable that is none of the settings of the engine is followed. -/
theorem assign_of_not_mem (settings : Settings) {name : String} (nonempty : name ≠ "")
    (notKey : name ∉ engineKeys) (value : List Char) :
    settings.assign name.toList value =
      .ok (settings.withGlobal name (.ofText (String.ofList value))) := by
  simp only [engineKeys, List.mem_cons, List.not_mem_nil, or_false, not_or] at notKey
  unfold assign
  rw [String.ofList_toList]
  split
  · exact absurd rfl nonempty
  · exact absurd rfl notKey.1
  · exact absurd rfl notKey.2.1
  · exact absurd rfl notKey.2.2
  · rfl

theorem nameAndValue_of_equals {name : List Char} (noEquals : '=' ∉ name) (value : List Char)
    (others : List (List Char)) :
    nameAndValue ((name ++ '=' :: value) :: others) = .ok (name, joinWords (value :: others)) := by
  have inName : ∀ char ∈ name, (char != '=') = true := fun char member =>
    bne_iff_ne.mpr fun isEquals => noEquals (isEquals ▸ member)
  rw [nameAndValue, List.dropWhile_append_of_pos inName, List.takeWhile_append_of_pos inName]
  exact congrArg (fun name => Except.ok (name, _)) (List.append_nil name)

theorem nameAndValue_of_word {name : List Char} (noEquals : '=' ∉ name)
    (others : List (List Char)) :
    nameAndValue (name :: others) =
      if others.isEmpty then .error (.withoutValue (String.ofList name))
      else .ok (name, joinWords others) := by
  have inName : ∀ char ∈ name, (char != '=') = true := fun char member =>
    bne_iff_ne.mpr fun isEquals => noEquals (isEquals ▸ member)
  rw [nameAndValue, List.dropWhile_eq_nil_iff.mpr inName]

theorem joinWords_singleton (word : List Char) : joinWords [word] = word :=
  List.intercalate_singleton

/-! ### Quoted values -/

/-- The line that gives a variable a quoted value behind an equals sign. -/
def assigning (name value : String) : String :=
  "/set " ++ name ++ "=" ++ String.ofList (quotation value.toList)

/-- The line that gives a variable a quoted value behind a blank. -/
def separating (name value : String) : String :=
  "/set " ++ name ++ " " ++ String.ofList (quotation value.toList)

/-- The line is followed by all settings, and a file with nothing else is loaded without an error;
it adds this variable with this value and nothing else. -/
structure Adds (line name : String) (value : Value) : Prop where
  followed : ∀ settings : Settings,
    settings.followLine line.toList = .ok (settings.withGlobal name value)
  loaded : load line = (standard.withGlobal name value, [])

/-- A text of one line is loaded as that line. -/
theorem load_of_line {line : String} (oneLine : '\n' ∉ line.toList) :
    load line = followLines standard 1 [line.toList] := by
  have noNewline : ∀ segment ∈ [line.toList], '\n' ∉ segment :=
    List.forall_mem_singleton.mpr oneLine
  have loaded := load_joined noNewline
  rwa [Text.joined_singleton, String.ofList_toList] at loaded

theorem Adds.of_followed {line name : String} {value : Value} (oneLine : '\n' ∉ line.toList)
    (followed : ∀ settings : Settings,
      settings.followLine line.toList = .ok (settings.withGlobal name value)) :
    Adds line name value := by
  refine ⟨followed, ?_⟩
  rw [load_of_line oneLine, followLines_cons_of_ok (followed standard)]
  rfl

section

variable {name : String} (isName : IsName name)

include isName

/-- Behind a name a quotation is the end of the argument. -/
theorem directive?_quotation (between : Char) (value : List Char) :
    directive? (Statement.commanding "set" (name.toList ++ between :: quotation value)) =
      some (name.toList ++ between :: quotation value) := by
  obtain ⟨first, rest, chars, -⟩ := isName.exists_first
  have visible : Text.isBlank first = false := isName.not_isBlank first (chars ▸ .head _)
  have trimmed := trim_append_quotation visible (rest ++ [between]) value
  rw [List.append_assoc, List.singleton_append, ← List.cons_append, ← chars] at trimmed
  rw [directive?_commanding, trimmed]

theorem name_meaningless : ∀ char ∈ name.toList, char ≠ '"' ∧ isSeparator char = false := by
  intro char member
  refine ⟨?_, isSeparator_of_not_isBlank (isName.not_isBlank char member)⟩
  rintro rfl
  exact isName.not_mem (by decide) member

theorem words_assigning (value : List Char) :
    words (name.toList ++ '=' :: quotation value) = [name.toList ++ '=' :: value] := by
  have meaningless : ∀ char ∈ name.toList ++ ['='], char ≠ '"' ∧ isSeparator char = false := by
    refine List.forall_mem_append.mpr ⟨name_meaningless isName, ?_⟩
    exact List.forall_mem_singleton.mpr (by decide)
  rw [words, List.append_cons, wordsFrom_append [] meaningless, wordsFrom_quotation, closeWord]
  simp

theorem words_separating (value : List Char) :
    words (name.toList ++ ' ' :: quotation value) =
      name.toList :: if value.isEmpty then [] else [value] := by
  have kept : (name.toList.reverse ++ []).isEmpty = false := by simpa using isName.ne_nil
  rw [words, wordsFrom_append [] (name_meaningless isName), wordsFrom_separator (by decide),
    wordsFrom_quotation, closeWord, kept, closeWord]
  simp

theorem newline_not_mem_setting {between : Char} (notNewline : between ≠ '\n') {value : String}
    (oneLine : '\n' ∉ value.toList) :
    '\n' ∉ Statement.commanding "set" (name.toList ++ between :: quotation value.toList) := by
  have notInName : '\n' ∉ name.toList := isName.not_mem (by decide)
  have notInQuotation := newline_not_mem_quotation oneLine
  rw [Statement.commanding_eq]
  simp only [List.mem_append, List.mem_cons, not_or]
  exact ⟨by decide, notInName, notNewline.symm, notInQuotation⟩

end

theorem toList_assigning (name value : String) : (assigning name value).toList =
    Statement.commanding "set" (name.toList ++ '=' :: quotation value.toList) := by
  simp [assigning, Statement.commanding]

theorem toList_separating (name value : String) : (separating name value).toList =
    Statement.commanding "set" (name.toList ++ ' ' :: quotation value.toList) := by
  simp [separating, Statement.commanding]

/-- Every value without a newline can be given to every variable by quoting it behind an equals
sign, and it is the value that its text stands for. Behind a blank every value but the empty one
can be given so; the line with the empty one is refused, since it has no value. -/
theorem quoted_values_load {name value : String} (isName : IsName name)
    (notKey : name ∉ engineKeys) (oneLine : '\n' ∉ value.toList) :
    Adds (assigning name value) name (.ofText value) ∧
      (value ≠ "" → Adds (separating name value) name (.ofText value)) ∧
      (value = "" → Refused (separating name value).toList (.withoutValue name) ∧
        load (separating name value) = (standard, [⟨1, .withoutValue name⟩])) := by
  have nonempty : name ≠ "" := by
    rintro rfl
    exact isName.ne_nil rfl
  have noEquals : '=' ∉ name.toList := isName.not_mem (by decide)
  have newlineFree {between : Char} (notNewline : between ≠ '\n') :=
    newline_not_mem_setting isName notNewline oneLine
  refine ⟨.of_followed ?_ fun settings => ?_, fun someValue => .of_followed ?_ fun settings => ?_,
    fun isEmpty => ?_⟩
  · exact toList_assigning name value ▸ newlineFree (by decide)
  · have divided : nameAndValue (words (name.toList ++ '=' :: quotation value.toList)) =
        .ok (name.toList, value.toList) := by
      rw [words_assigning isName, nameAndValue_of_equals noEquals, joinWords_singleton]
    rw [toList_assigning, followLine_of_divided (directive?_quotation isName '=' _) divided,
      assign_of_not_mem settings nonempty notKey, String.ofList_toList]
  · exact toList_separating name value ▸ newlineFree (by decide)
  · have someChars : value.toList.isEmpty = false := by simpa using someValue
    have divided : nameAndValue (words (name.toList ++ ' ' :: quotation value.toList)) =
        .ok (name.toList, value.toList) := by
      rw [words_separating isName, nameAndValue_of_word noEquals, someChars]
      exact congrArg (fun value => Except.ok (name.toList, value)) (joinWords_singleton _)
    rw [toList_separating, followLine_of_divided (directive?_quotation isName ' ' _) divided,
      assign_of_not_mem settings nonempty notKey, String.ofList_toList]
  · have undivided : nameAndValue (words (name.toList ++ ' ' :: quotation value.toList)) =
        .error (.withoutValue name) := by
      rw [words_separating isName, nameAndValue_of_word noEquals, isEmpty, String.ofList_toList]
      rfl
    have refused : Refused (separating name value).toList (.withoutValue name) := by
      rw [toList_separating]
      exact refused_of_undivided (directive?_quotation isName ' ' _) undivided
    refine ⟨refused, ?_⟩
    rw [load_of_line (toList_separating name value ▸ newlineFree (by decide)),
      followLines_cons_of_refused refused]
    rfl

/-- A value with blanks, an equals sign, quotation marks, a backslash and the mark of a comment. -/
theorem quoted_values_load_marks :
    load "/set x \" = \\\"a\\\\\\\";\"" = (standard.withGlobal "x" (.text " = \"a\\\";"), []) := by
  have value : Value.ofText " = \"a\\\";" = .text " = \"a\\\";" := rfl
  have line : separating "x" " = \"a\\\";" = "/set x \" = \\\"a\\\\\\\";\"" := by cbv
  have adds := (@quoted_values_load "x" " = \"a\\\";" rfl (by decide) (by decide)).2.1 (by decide)
  rw [line, value] at adds
  exact adds.loaded

/-- The empty value cannot be quoted behind a blank. -/
theorem not_quoted_values_load : ¬ ∀ name value : String, IsName name → name ∉ engineKeys →
    '\n' ∉ value.toList → Adds (assigning name value) name (.ofText value) ∧
      Adds (separating name value) name (.ofText value) := by
  intro quoting
  have adds := (quoting "n" "" rfl (by decide) (by decide)).2
  have errors : (load (separating "n" "")).2 = [⟨1, .withoutValue "n"⟩] := by decide +kernel
  rw [adds.loaded] at errors
  cases errors

end SlashScript.Settings
