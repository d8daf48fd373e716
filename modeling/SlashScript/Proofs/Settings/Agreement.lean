/-
This file compares two readings of one argument: as a directive of a settings file, and as a command
of a script that sets a global variable. The file divides the argument into words, looks for an
equals sign in the first of them and joins the others again; the script looks for the first equals
sign or blank. In a simple argument, where nothing is quoted or substituted and all blanks are
single spaces, joining the words gives back what was divided. So both find the same name, and they
find the same value, unless an equals sign stands behind the blank after the name: the script takes
it for the sign of the assignment, and the file takes it for the start of the value.
-/

import SlashScript.Proofs.Settings.Quoting

namespace SlashScript

/-! ### Simple arguments -/

/-- An argument in which no character quotes, substitutes or ends a line, and all blanks are single
spaces. -/
structure SimpleArgument (argument : List Char) : Prop where
  harmless : ∀ char ∈ argument, char ∉ ['\n', '\r', '"', '\\', '%', '$']
  spaces : ∀ char ∈ argument, Text.isBlank char = true → char = ' '
  single : ¬ [' ', ' '] <:+: argument

/-- The characters of the name that an assignment begins with. -/
def isNamed (char : Char) : Bool :=
  !Text.isBlank char && char != '='

/-- Behind the name come a blank, an equals sign and this rest. -/
def EqualsApart (text rest : List Char) : Prop :=
  text.dropWhile isNamed = ' ' :: '=' :: rest

namespace SimpleArgument

variable {argument part : List Char}

theorem of_infix (simple : SimpleArgument argument) (within : part <:+: argument) :
    SimpleArgument part where
  harmless char member := simple.harmless char (within.subset member)
  spaces char member := simple.spaces char (within.subset member)
  single isWithin := simple.single (isWithin.trans within)

theorem trim (simple : SimpleArgument argument) : SimpleArgument (Text.trim argument) := by
  have start : Text.trimStart argument <:+: argument := (List.dropWhile_suffix _).isInfix
  have ends : Text.trim argument <:+: Text.trimStart argument :=
    (List.rdropWhile_prefix Text.isBlank _).isInfix
  exact simple.of_infix (ends.trans start)

theorem not_mem (simple : SimpleArgument argument) {char : Char}
    (harmful : char ∈ ['\n', '\r', '"', '\\', '%', '$']) : char ∉ argument :=
  fun member => simple.harmless char member harmful

theorem tail {char : Char} (simple : SimpleArgument (char :: argument)) :
    SimpleArgument argument :=
  simple.of_infix (List.suffix_cons char argument).isInfix

/-- A character of a simple argument is a space, or it belongs to a word in both readings. -/
theorem eq_space_or {char : Char} (simple : SimpleArgument (char :: argument)) :
    char = ' ' ∨ Text.isBlank char = false ∧ char ≠ '"' ∧ Settings.isSeparator char = false := by
  by_cases isSpace : char = ' '
  · exact .inl isSpace
  · have visible : Text.isBlank char = false := by
      by_contra isBlank
      exact isSpace (simple.spaces char (.head _) (Bool.eq_true_of_not_eq_false isBlank))
    refine .inr ⟨visible, ?_, Settings.isSeparator_of_not_isBlank visible⟩
    rintro rfl
    exact simple.not_mem (by decide) (.head _)

/-- Behind a space comes a character that is none, unless the space is the last. -/
theorem space_next (simple : SimpleArgument (' ' :: argument)) :
    ∀ char ∈ argument.head?, char ≠ ' ' := by
  rintro char isNext rfl
  obtain ⟨rest, rfl⟩ := List.head?_eq_some_iff.mp isNext
  exact simple.single ⟨[], rest, rfl⟩

end SimpleArgument

/-! ### The words of a simple argument -/

namespace Settings

theorem joinWords_cons {first : List Char} {others : List (List Char)} (several : others ≠ []) :
    joinWords (first :: others) = first ++ ' ' :: joinWords others := by
  obtain ⟨second, others, rfl⟩ := List.exists_cons_of_ne_nil several
  exact spaced_cons_cons first second others

/-- The words of a simple argument, joined, are the argument. -/
theorem joinWords_wordsFrom {text : List Char} (simple : SimpleArgument text)
    (reversed : List Char) (starts : reversed = [] → ∀ char ∈ text.head?, char ≠ ' ')
    (ends : ∀ char ∈ text.getLast?, char ≠ ' ') :
    joinWords (wordsFrom false reversed text) = reversed.reverse ++ text := by
  induction text generalizing reversed with
  | nil =>
    rw [wordsFrom, closeWord, List.append_nil]
    split
    · rename_i isEmpty
      rw [List.isEmpty_iff.mp isEmpty]
      rfl
    · exact joinWords_singleton _
  | cons char rest inductionHypothesis =>
    rcases simple.eq_space_or with rfl | ⟨-, notMark, notSeparator⟩
    · -- A space ends a word, and neither is it the last character nor does another one follow.
      have opened : reversed.isEmpty = false := by
        by_contra isEmpty
        have nothing := List.isEmpty_iff.mp (Bool.eq_true_of_not_eq_false isEmpty)
        exact starts nothing ' ' rfl rfl
      have goesOn : rest ≠ [] := by
        rintro rfl
        exact ends ' ' rfl rfl
      have endsLater : ∀ char ∈ rest.getLast?, char ≠ ' ' := by
        rwa [List.getLast?_cons_of_ne_nil goesOn] at ends
      have later := inductionHypothesis simple.tail [] (fun _ => simple.space_next) endsLater
      have several : wordsFrom false [] rest ≠ [] := by
        intro nothing
        rw [nothing] at later
        exact goesOn later.symm
      rw [wordsFrom_separator rfl, closeWord, opened, if_neg Bool.false_ne_true,
        joinWords_cons several, later]
      rfl
    · have endsLater : ∀ char ∈ rest.getLast?, char ≠ ' ' := by
        intro last isLast
        exact ends last (List.mem_getLast?_cons isLast)
      rw [wordsFrom_unquoted notMark notSeparator,
        inductionHypothesis simple.tail (char :: reversed)
          (fun nothing => absurd nothing (List.cons_ne_nil _ _)) endsLater, List.reverse_cons,
        List.append_assoc]
      rfl

/-- A word that was begun is the start of the first word. -/
theorem exists_wordsFrom {text reversed : List Char} (simple : SimpleArgument text)
    (opened : reversed ≠ []) :
    ∃ more others, wordsFrom false reversed text = (reversed.reverse ++ more) :: others := by
  induction text generalizing reversed with
  | nil => exact ⟨[], [], by simp [wordsFrom, closeWord, opened]⟩
  | cons char rest inductionHypothesis =>
    rcases simple.eq_space_or with rfl | ⟨-, notMark, notSeparator⟩
    · exact ⟨[], wordsFrom false [] rest, by
        simp [wordsFrom_separator, closeWord, opened, isSeparator]⟩
    · obtain ⟨more, others, begins⟩ :=
        inductionHypothesis simple.tail (List.cons_ne_nil char reversed)
      refine ⟨char :: more, others, ?_⟩
      rw [wordsFrom_unquoted notMark notSeparator, begins, List.reverse_cons, List.append_assoc]
      rfl

section

variable {name : String} (isName : IsName name) {value : List Char}

include isName

theorem words_name : words name.toList = [name.toList] := by
  have kept : (name.toList.reverse ++ []).isEmpty = false := by simpa using isName.ne_nil
  have whole := wordsFrom_append [] (name_meaningless isName) []
  rw [List.append_nil] at whole
  rw [words, whole, wordsFrom, closeWord, kept]
  simp

/-- An argument with a value does not end with its name. -/
theorem dropWhile_ne_nil_of_divided {text : List Char} {parts : List Char × List Char}
    (begins : text.takeWhile isNamed = name.toList)
    (divided : nameAndValue (words text) = .ok parts) : text.dropWhile isNamed ≠ [] := by
  intro nothing
  have whole : text = name.toList := by
    rw [← begins, List.takeWhile_eq_self_iff.mpr (List.dropWhile_eq_nil_iff.mp nothing)]
  rw [whole, words_name isName, nameAndValue_of_word (isName.not_mem (by decide))] at divided
  cases divided

/-- An argument that is a name with an equals sign behind it is divided there. -/
theorem nameAndValue_words_of_equals (simple : SimpleArgument (name.toList ++ '=' :: value))
    (ends : ∀ char ∈ (name.toList ++ '=' :: value).getLast?, char ≠ ' ') :
    nameAndValue (words (name.toList ++ '=' :: value)) = .ok (name.toList, value) := by
  have ofValue : SimpleArgument value :=
    simple.of_infix ⟨name.toList ++ ['='], [], by simp⟩
  have meaningless : ∀ char ∈ name.toList ++ ['='], char ≠ '"' ∧ isSeparator char = false :=
    List.forall_mem_append.mpr
      ⟨name_meaningless isName, List.forall_mem_singleton.mpr (by decide)⟩
  have begun : words (name.toList ++ '=' :: value) =
      wordsFrom false (name.toList ++ ['=']).reverse value := by
    rw [words, List.append_cons, wordsFrom_append [] meaningless, List.append_nil]
  have opened : (name.toList ++ ['=']).reverse ≠ [] := by simp
  obtain ⟨more, others, begins⟩ := exists_wordsFrom ofValue opened
  have joined : joinWords (words (name.toList ++ '=' :: value)) = name.toList ++ '=' :: value :=
    joinWords_wordsFrom simple [] (fun _ char isFirst => ?_) ends
  · rw [begun, begins, List.reverse_reverse] at joined ⊢
    rw [List.append_assoc, List.singleton_append] at joined ⊢
    rw [nameAndValue_of_equals (isName.not_mem (by decide))]
    have same : name.toList ++ '=' :: joinWords (more :: others) = name.toList ++ '=' :: value := by
      rw [← joined]
      cases others with
      | nil => rw [joinWords_singleton, joinWords_singleton]
      | cons next others =>
        rw [joinWords_cons (List.cons_ne_nil _ _), joinWords_cons (List.cons_ne_nil _ _),
          List.append_assoc]
        rfl
    rw [(List.cons.inj (List.append_cancel_left same)).2]
  · rintro rfl
    rw [List.head?_append_of_ne_nil _ isName.ne_nil] at isFirst
    cases isName.not_isBlank ' ' (List.mem_of_head? isFirst)

/-- An argument that is a name with a blank behind it is divided there. -/
theorem nameAndValue_words_of_blank (simple : SimpleArgument (name.toList ++ ' ' :: value))
    (ends : ∀ char ∈ (name.toList ++ ' ' :: value).getLast?, char ≠ ' ') :
    nameAndValue (words (name.toList ++ ' ' :: value)) = .ok (name.toList, value) := by
  have behind : SimpleArgument (' ' :: value) := simple.of_infix ⟨name.toList, [], by simp⟩
  have goesOn : value ≠ [] := by
    rintro rfl
    rw [List.getLast?_concat] at ends
    exact ends ' ' rfl rfl
  have endsLater : ∀ char ∈ value.getLast?, char ≠ ' ' := by
    rwa [List.getLast?_append_of_ne_nil _ (List.cons_ne_nil _ _),
      List.getLast?_cons_of_ne_nil goesOn] at ends
  have joined : joinWords (words value) = value :=
    joinWords_wordsFrom behind.tail [] (fun _ => behind.space_next) endsLater
  have several : (words value).isEmpty = false := by
    rw [List.isEmpty_eq_false_iff]
    intro nothing
    rw [nothing] at joined
    exact goesOn joined.symm
  have kept : (name.toList.reverse ++ []).isEmpty = false := by simpa using isName.ne_nil
  have divided : words (name.toList ++ ' ' :: value) = name.toList :: words value := by
    rw [words, wordsFrom_append [] (name_meaningless isName), wordsFrom_separator rfl, closeWord,
      kept, words]
    simp
  rw [divided, nameAndValue_of_word (isName.not_mem (by decide)), several,
    if_neg Bool.false_ne_true, joined]

end

end Settings

/-! ### The command of a script -/

namespace Statement

theorem global_isCommand : IsCommand "global" :=
  ⟨by decide, by decide⟩

/-- An assignment is divided behind its name, at an equals sign if that comes next after blanks. -/
theorem splitAssignment_eq (text : List Char) :
    splitAssignment text = (text.takeWhile isNamed,
      match Text.trimStart (text.dropWhile isNamed) with
      | '=' :: value => value
      | value => value) := by
  unfold splitAssignment isNamed
  dsimp only
  split <;> simp_all

theorem mem_of_mem_splitAssignment {char : Char} {text : List Char}
    (member : char ∈ (splitAssignment text).2) : char ∈ text := by
  rw [splitAssignment_eq] at member
  dsimp only at member
  have within : char ∈ Text.trimStart (text.dropWhile isNamed) := by
    split at member
    · rename_i divided
      rw [divided]
      exact .tail _ member
    · exact member
  exact (List.dropWhile_suffix isNamed).subset ((List.dropWhile_suffix Text.isBlank).subset within)

/-- A text that is accepted as a name is that name. -/
theorem eq_toList_of_checkName {chars : List Char} {name : String}
    (checked : checkName chars = .ok name) : chars = name.toList := by
  unfold checkName at checked
  split at checked
  · cases checked
  · split at checked
    · cases checked
      exact String.toList_ofList.symm
    · cases checked

theorem statements_global {argument : List Char} (simple : SimpleArgument argument)
    (nonempty : argument ≠ []) :
    Layout.statements (commanding "global" argument) =
      [⟨1, Text.trim (commanding "global" argument)⟩] := by
  have whole : Layout.splitStatements argument = [argument] := by
    rcases Layout.splitStatements_cases argument with whole | ⟨first, -, rest, -, -, cut⟩
    · exact whole
    · have noPercent : '%' ∉ argument := simple.not_mem (by decide)
      exact absurd (cut ▸ by simp) noPercent
  have closed : argument.getLast? ≠ some '\\' := fun isLast =>
    simple.not_mem (by decide) (List.mem_of_getLast? isLast)
  exact statements_commanding global_isCommand (simple.not_mem (by decide)) nonempty closed whole

theorem directive_global {argument : List Char} (simple : SimpleArgument argument) :
    directive (Text.trim (commanding "global" argument)) =
      nameOf "global" (splitAssignment (Text.trim argument)).1 >>= fun name =>
        Except.ok (Directive.plain (.set name
          (.literal (String.ofList (splitAssignment (Text.trim argument)).2)) true)) := by
  have harmless {char : Char} (harmful : char ∈ ['\n', '\r', '"', '\\', '%', '$']) :
      char ∉ (splitAssignment (Text.trim argument)).2 := fun member =>
    simple.trim.not_mem harmful (mem_of_mem_splitAssignment member)
  unfold directive
  rw [splitCommand_trim_commanding global_isCommand]
  show (nameOf "global" (splitAssignment (Text.trim argument)).1 >>= fun name =>
    templateOf (splitAssignment (Text.trim argument)).2 >>= fun template =>
      Except.ok (Directive.plain (.set name template true))) = _
  rw [templateOf_of_not_mem (harmless (by decide)) (harmless (by decide))]
  rfl

/-- The command with a simple argument, if it begins with a name, gives a global variable the text
behind the name. -/
theorem parse_global_of_isName {argument : List Char} {name : String}
    (simple : SimpleArgument argument) (nonempty : argument ≠ []) (isName : IsName name)
    (begins : (splitAssignment (Text.trim argument)).1 = name.toList) :
    parse (commanding "global" argument) = .ok [.set name
      (.literal (String.ofList (splitAssignment (Text.trim argument)).2)) true] := by
  refine parse_of_plain (statements_global simple nonempty) ?_
  rw [directive_global simple, begins, nameOf, isName]
  rfl

/-- It is not accepted with anything else. -/
theorem exists_name_of_parse_global {argument : List Char} {block : Block}
    (simple : SimpleArgument argument) (nonempty : argument ≠ [])
    (parsed : parse (commanding "global" argument) = .ok block) :
    ∃ name, IsName name ∧ (splitAssignment (Text.trim argument)).1 = name.toList := by
  cases checked : checkName (splitAssignment (Text.trim argument)).1 with
  | error reason =>
    have failed : directive (Text.trim (commanding "global" argument)) =
        .error (.name "global" reason) := by
      rw [directive_global simple, nameOf, checked]
      rfl
    cases (parse_of_failed (statements_global simple nonempty) failed).symm.trans parsed
  | ok name =>
    have begins := eq_toList_of_checkName checked
    exact ⟨name, (congrArg checkName begins).symm.trans checked, begins⟩

end Statement

/-- A script that gives a global variable the value of a text asks once whether to go on. -/
theorem Interpreter.runScript_global (limit : Nat) (name text : String) (workspace : Workspace) :
    runScript limit [.set name (.literal text) true] workspace =
      .poll workspace fun _ => .done () (workspace.setGlobal name (.ofText text)) := by
  unfold runScript
  rw [runBlock, runStatement, evaluating, Template.expand_literal]
  rfl

/-! ### Both readings -/

/-- A text with an equals sign before it is no number. -/
theorem Value.ofText_equals (text : List Char) :
    ofText (String.ofList ('=' :: text)) = .text (String.ofList ('=' :: text)) := by
  have trimmed : Text.trim ('=' :: text) = '=' :: Text.trimEnd text := by
    rw [Text.trim, Text.trimStart_of_not_blank '=' text rfl, Text.trimEnd_cons rfl]
  have notInteger : Decimal.readInt64? ('=' :: Text.trimEnd text) = none := rfl
  have notReal : Decimal.readFloat? ('=' :: Text.trimEnd text) = none := by
    simp [Decimal.readFloat?, Decimal.splitSign, Decimal.readDecimal?]
  unfold ofText
  rw [String.toList_ofList, trimmed]
  dsimp only
  rw [notInteger, notReal]

namespace Settings

/-- Both readings divide a text that begins with a name behind this name. They find the same value,
unless an equals sign is apart from the name. -/
theorem nameAndValue_splitAssignment {name : String} (isName : IsName name) {text : List Char}
    (simple : SimpleArgument text) (ends : ∀ char ∈ text.getLast?, Text.isBlank char = false)
    (begins : text.takeWhile isNamed = name.toList) (goesOn : text.dropWhile isNamed ≠ []) :
    ∃ value, nameAndValue (words text) = .ok (name.toList, value) ∧
      ((¬ ∃ rest, EqualsApart text rest) → (Statement.splitAssignment text).2 = value) ∧
      ∀ rest, EqualsApart text rest →
        value = '=' :: rest ∧ (Statement.splitAssignment text).2 = rest := by
  unfold EqualsApart
  rw [Statement.splitAssignment_eq]
  have whole : text = name.toList ++ text.dropWhile isNamed := by
    rw [← begins, List.takeWhile_append_dropWhile]
  have stops : ∀ char ∈ (text.dropWhile isNamed).head?, isNamed char = false := by
    intro char isFirst
    have kept := List.head?_dropWhile_not isNamed text
    rw [Option.mem_def.mp isFirst] at kept
    exact kept
  have notSpace : ∀ char ∈ text.getLast?, char ≠ ' ' := by
    rintro char isLast rfl
    cases ends ' ' isLast
  obtain ⟨char, value, divided⟩ := List.exists_cons_of_ne_nil goesOn
  rw [divided] at whole stops ⊢
  have notNamed := stops char rfl
  by_cases isEquals : char = '='
  · subst isEquals
    rw [whole] at simple notSpace ⊢
    refine ⟨value, nameAndValue_words_of_equals isName simple notSpace, fun _ => rfl, nofun⟩
  · have isBlank : Text.isBlank char = true := by
      by_contra visible
      simp [isNamed, visible, isEquals] at notNamed
    have isSpace : char = ' ' := simple.spaces char (whole ▸ by simp) isBlank
    subst isSpace
    rw [whole] at simple notSpace ⊢
    have behind : SimpleArgument (' ' :: value) := simple.of_infix ⟨name.toList, [], by simp⟩
    have trimmed : Text.trimStart (' ' :: value) = value := by
      refine (Text.trimStart_append_of_blank [' '] value
        (List.forall_mem_singleton.mpr rfl)).trans ?_
      refine Text.trimStart_eq_self_iff.mpr fun char isFirst => ?_
      by_contra isBlank
      exact behind.space_next char isFirst (behind.tail.spaces char (List.mem_of_head? isFirst)
        (Bool.eq_true_of_not_eq_false isBlank))
    refine ⟨value, nameAndValue_words_of_blank isName simple notSpace, fun notApart => ?_, ?_⟩
    · dsimp only
      rw [trimmed]
      split
      · exact absurd ⟨_, rfl⟩ notApart
      · rfl
    · rintro rest isApart
      cases (List.cons.inj isApart).2
      exact ⟨rfl, rfl⟩

/-- A file with one directive is loaded as its line. -/
theorem load_commanding {argument : String} (oneLine : '\n' ∉ argument.toList) :
    load ("/set " ++ argument) =
      followLines standard 1 [Statement.commanding "set" argument.toList] := by
  have line : ("/set " ++ argument).toList = Statement.commanding "set" argument.toList := by
    simp [Statement.commanding]
  have newlineFree : '\n' ∉ ("/set " ++ argument).toList := by
    rw [line, Statement.commanding_eq, List.mem_append, not_or]
    exact ⟨by decide, oneLine⟩
  rw [load_of_line newlineFree, line]

theorem load_of_divided {argument name : String} {value : List Char}
    (oneLine : '\n' ∉ argument.toList) (nonempty : name ≠ "") (notKey : name ∉ engineKeys)
    (divided : nameAndValue (words (Text.trim argument.toList)) = .ok (name.toList, value)) :
    load ("/set " ++ argument) =
      (standard.withGlobal name (.ofText (String.ofList value)), []) := by
  have assigned := assign_of_not_mem standard nonempty notKey value
  have followed := followLine_of_divided (directive?_commanding argument.toList) divided standard
  rw [load_commanding oneLine, followLines_cons_of_ok (followed.trans assigned)]
  rfl

/-- A file with one directive that is loaded without an error divides it into name and value. -/
theorem exists_nameAndValue {argument : String} (oneLine : '\n' ∉ argument.toList)
    (loads : (load ("/set " ++ argument)).2 = []) :
    ∃ name value, nameAndValue (words (Text.trim argument.toList)) = .ok (name, value) := by
  cases divided : nameAndValue (words (Text.trim argument.toList)) with
  | ok pair => exact ⟨pair.1, pair.2, rfl⟩
  | error cause =>
    have refused := refused_of_undivided (directive?_commanding argument.toList) divided
    rw [load_commanding oneLine, followLines_cons_of_refused refused] at loads
    cases loads

/-- The directive with this argument only gives a global variable the one value, and this script,
run with any limit by any host that lets it start, only gives it the other value. -/
structure Seeds (argument : String) (script : Script) (name : String) (seeded written : Value) :
    Prop where
  isName : IsName name
  loaded : (load ("/set " ++ argument)).1.apply .initial = Workspace.initial.setGlobal name seeded
  ran : ∀ (limit : Nat) (Outside : Type) (host : Host Outside) (outside : Outside),
    host.isCancelled outside = false →
    (Interpreter.runScript limit script.statements .initial).serve host outside =
      ⟨.finished (), Workspace.initial.setGlobal name written, outside⟩

/-- If a directive and the command of a script with the same simple argument are both accepted, they
give a value to the same global variable and do nothing else. The values are the same unless an
equals sign is apart from the name: then the script gives the variable what stands behind the sign,
and the file the text that begins with it. -/
theorem seeds_as_global {argument : String} {script : Script}
    (simple : SimpleArgument argument.toList)
    (notKey : String.ofList (Statement.splitAssignment (Text.trim argument.toList)).1 ∉ engineKeys)
    (loads : (load ("/set " ++ argument)).2 = [])
    (compiled : Script.compile ("/global " ++ argument) = .ok script) :
    ∃ name seeded written, Seeds argument script name seeded written ∧
      ((¬ ∃ rest, EqualsApart (Text.trim argument.toList) rest) → seeded = written) ∧
      ∀ rest, EqualsApart (Text.trim argument.toList) rest →
        seeded = .text (String.ofList ('=' :: rest)) ∧ written = .ofText (String.ofList rest) := by
  have oneLine : '\n' ∉ argument.toList := simple.not_mem (by decide)
  obtain ⟨name, value, divided⟩ := exists_nameAndValue oneLine loads
  have nonempty : argument.toList ≠ [] := by
    intro isEmpty
    rw [isEmpty] at divided
    cases divided
  have source : ("/global " ++ argument).toList =
      Statement.commanding "global" argument.toList := by
    simp [Statement.commanding]
  have parsed : Statement.parse (Statement.commanding "global" argument.toList) =
      .ok script.statements := by
    obtain ⟨block, parsed, rfl⟩ := map_eq_ok.mp compiled
    rwa [source] at parsed
  obtain ⟨name', isName, begins⟩ :=
    Statement.exists_name_of_parse_global simple nonempty parsed
  have statements := Except.ok.inj (parsed.symm.trans
    (Statement.parse_global_of_isName simple nonempty isName begins))
  rw [begins, String.ofList_toList] at notKey
  rw [Statement.splitAssignment_eq] at begins
  dsimp only at begins
  have ends : ∀ char ∈ (Text.trim argument.toList).getLast?, Text.isBlank char = false :=
    Text.trimEnd_eq_self_iff.mp (List.rdropWhile_idempotent Text.isBlank _)
  obtain ⟨value', divided', same, apart⟩ := nameAndValue_splitAssignment isName simple.trim ends
    begins (dropWhile_ne_nil_of_divided isName begins divided)
  cases divided.symm.trans divided'
  have nonemptyName : name' ≠ "" := by
    rintro rfl
    exact isName.ne_nil rfl
  refine ⟨name', .ofText (String.ofList value),
    .ofText (String.ofList (Statement.splitAssignment (Text.trim argument.toList)).2),
    ⟨isName, ?_, ?_⟩, fun notApart => ?_, fun rest isApart => ?_⟩
  · rw [load_of_divided oneLine nonemptyName notKey divided]
    rfl
  · intro limit Outside host outside live
    rw [statements, Interpreter.runScript_global, Run.serve, live, if_neg Bool.false_ne_true]
    rfl
  · rw [same notApart]
  · obtain ⟨isValue, isRest⟩ := apart rest isApart
    rw [isValue, isRest, Value.ofText_equals]
    exact ⟨rfl, rfl⟩

theorem seeds_as_global_of_two_words : ∃ script name value,
    Script.compile "/global x one a=b" = .ok script ∧ Seeds "x one a=b" script name value value := by
  have chars : "x one a=b".toList = ['x', ' ', 'o', 'n', 'e', ' ', 'a', '=', 'b'] := rfl
  have simple : SimpleArgument "x one a=b".toList := by
    rw [chars]
    exact ⟨by simp, by simp [Text.isBlank], by decide⟩
  have divided : nameAndValue (words (Text.trim "x one a=b".toList)) =
      .ok ("x".toList, "one a=b".toList) := by decide +kernel
  have loaded := load_of_divided (simple.not_mem (by decide)) (by decide) (by decide) divided
  have assigned : Statement.splitAssignment (Text.trim "x one a=b".toList) =
      ("x".toList, "one a=b".toList) := by decide +kernel
  have isName : IsName "x" := rfl
  have parsed := Statement.parse_global_of_isName simple (by decide) isName
    (congrArg Prod.fst assigned)
  have compiled : Script.compile ("/global " ++ "x one a=b") = .ok ⟨_, _⟩ :=
    map_eq_ok.mpr ⟨_, parsed, rfl⟩
  obtain ⟨name, seeded, written, seeds, same, -⟩ :=
    seeds_as_global simple (by decide) (congrArg Prod.snd loaded) compiled
  have notApart : ¬ ∃ rest, EqualsApart (Text.trim "x one a=b".toList) rest := by
    rintro ⟨rest, isApart⟩
    cases isApart
  rw [← same notApart] at seeds
  exact ⟨_, name, seeded, compiled, seeds⟩

/-- A directive with an equals sign between blanks does not give the value that the command does. -/
theorem not_seeds_as_global : ¬ ∀ argument script, SimpleArgument argument.toList →
    String.ofList (Statement.splitAssignment (Text.trim argument.toList)).1 ∉ engineKeys →
    (load ("/set " ++ argument)).2 = [] → Script.compile ("/global " ++ argument) = .ok script →
    ∃ name value, Seeds argument script name value value := by
  intro same
  have chars : "x = b".toList = ['x', ' ', '=', ' ', 'b'] := rfl
  have simple : SimpleArgument "x = b".toList := by
    rw [chars]
    exact ⟨by simp, by simp [Text.isBlank], by decide⟩
  have divided : nameAndValue (words (Text.trim "x = b".toList)) =
      .ok ("x".toList, '=' :: " b".toList) := by decide +kernel
  have loaded := load_of_divided (simple.not_mem (by decide)) (by decide) (by decide) divided
  have assigned : Statement.splitAssignment (Text.trim "x = b".toList) =
      ("x".toList, " b".toList) := by decide +kernel
  have isName : IsName "x" := rfl
  have parsed := Statement.parse_global_of_isName simple (by decide) isName
    (congrArg Prod.fst assigned)
  rw [assigned] at parsed
  obtain ⟨name, value, seeds⟩ := same "x = b" ⟨_, [.set "x" (.literal " b") true]⟩ simple
    (by decide) (congrArg Prod.snd loaded) (map_eq_ok.mpr ⟨_, parsed, rfl⟩)
  -- The file gives the variable the text `= b`, and the script gives it the text ` b`.
  have seeded := seeds.loaded
  rw [loaded, Value.ofText_equals] at seeded
  have ran := seeds.ran 0 Unit ⟨fun _ => false, fun _ _ => none, fun _ _ => (.drop, ())⟩ () rfl
  rw [Interpreter.runScript_global] at ran
  have written := congrArg Ended.state ran
  have bindings := congrArg (fun workspace => workspace.global.bindings)
    (seeded.trans written.symm)
  have texts := Value.text.inj (Prod.mk.inj (List.cons.inj bindings).1).2
  exact absurd (congrArg String.toList texts) (by simp)

end Settings

end SlashScript
