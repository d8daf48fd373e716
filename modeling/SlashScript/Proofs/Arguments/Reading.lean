/-
This file proves that all ways to read the arguments of an invocation agree. A script may give
names to its arguments, ask for one by its number in a template or with the function `arg`, and ask
for all of them or for their number. Four parts of the program find an argument for it: the names
are bound one after the other, the template counts from one, the function takes one away from an
integer, and the mark for all arguments joins them. They find the same argument for every position,
the empty text where there is none, in either scope mode.
-/

import Mathlib.Data.List.GetD
import Mathlib.Tactic.IntervalCases
import SlashScript.Proofs.Arguments.Names
import SlashScript.Proofs.Assignments
import SlashScript.Proofs.Embedding.Brackets
import SlashScript.Proofs.ScopeModes

namespace SlashScript

/-! ### Names and what they are bound to -/

namespace Interpreter

/-- To bind names leaves the arguments as they are. -/
theorem arguments_bindNames (names : List String) (values : List Value) (workspace : Workspace) :
    (bindNames names values workspace).arguments = workspace.arguments := by
  have reached := bindNames_reaches names values (List.Subset.refl _) workspace
  have frames : (bindNames names values workspace).frames = workspace.frames :=
    reached.preserve (fun write same => write.frames.trans same) rfl
  exact congrArg (List.headD · []) frames

theorem get?_bindNames_of_not_mem {names : List String} {name : String} (notNamed : name ∉ names)
    (values : List Value) (workspace : Workspace) :
    (bindNames names values workspace).get? name = workspace.get? name := by
  induction names generalizing values workspace with
  | nil => rfl
  | cons first names inductionHypothesis =>
    obtain ⟨different, notNamed⟩ := not_or.mp (mt List.mem_cons.mpr notNamed)
    rw [bindNames, inductionHypothesis notNamed, Workspace.get?_set_of_ne _ _ _ _ different]

/-- Distinct names are bound to the values at their places, or to the empty text where there is no
value. -/
theorem get?_bindNames {names : List String} (distinct : names.Nodup) (values : List Value)
    (workspace : Workspace) (index : Nat) (inside : index < names.length) :
    (bindNames names values workspace).get? names[index] = some (values.getD index .empty) := by
  induction names generalizing values workspace index with
  | nil => cases inside
  | cons first names inductionHypothesis =>
    obtain ⟨notLater, distinct⟩ := List.nodup_cons.mp distinct
    rw [bindNames]
    cases index with
    | zero =>
      rw [List.getElem_cons_zero, get?_bindNames_of_not_mem notLater, Workspace.get?_set_self]
      cases values <;> rfl
    | succ index =>
      rw [List.getElem_cons_succ, inductionHypothesis distinct]
      cases values <;> rfl

/-- A script that begins by giving names runs on with the names bound. -/
theorem runScript_param (limit : Nat) (names : List String) (others : Block)
    (workspace : Workspace) :
    runScript limit (.param names :: others) workspace =
      .poll workspace fun _ =>
        runScript limit others (bindNames names workspace.arguments workspace) := rfl

end Interpreter

/-! ### What a text gives -/

/-- The text is a template that gives this text and changes nothing. -/
def Template.Gives (source : String) (workspace : Workspace) (text : String) : Prop :=
  ∃ template, compile source.toList = .ok template ∧
    template.expand workspace = (.ok text, workspace)

/-- The text is an expression that gives this value and changes nothing. -/
def Expression.Gives (source : String) (workspace : Workspace) (value : Value) : Prop :=
  ∃ expression, parse source.toList = .ok expression ∧
    expression.evaluate workspace = (.ok value, workspace)

/-- The text is an expression that fails for this reason and changes nothing. -/
def Expression.Fails (source : String) (workspace : Workspace) (reason : EvalError) : Prop :=
  ∃ expression, parse source.toList = .ok expression ∧
    expression.evaluate workspace = (.error reason, workspace)

/-- The call that asks for an argument by its number. -/
def argumentCall (number : Int) : String :=
  "arg(" ++ toString number ++ ")"

/-- The ways to read one argument, by its name and by its number, give the same. -/
structure ArgumentReadings (workspace : Workspace) (name : String) (number : Nat)
    (value : Value) : Prop where
  percent : Template.Gives ("%" ++ name) workspace value.toText
  braced : Template.Gives ("%\x7b" ++ name ++ "\x7d") workspace value.toText
  numbered : Template.Gives ("%" ++ toString number) workspace value.toText
  embedded : Template.Gives ("$[" ++ argumentCall number ++ "]") workspace value.toText
  named : Expression.Gives name workspace value
  called : Expression.Gives (argumentCall number) workspace value

/-- A template of one part gives what the part gives. -/
theorem Template.Gives.of_part {source text : String} {workspace : Workspace} (part : TemplatePart)
    (compiled : compile source.toList = .ok ⟨[part]⟩)
    (expanded : expandPart part workspace = (.ok text, workspace)) :
    Gives source workspace text := by
  refine ⟨_, compiled, ?_⟩
  show Evaluation.bind (expandPart part) _ workspace = _
  unfold Evaluation.bind
  rw [expanded]
  show (Except.ok (text ++ ""), workspace) = _
  rw [String.append_empty]

/-! ### Numbers of arguments -/

namespace Decimal

/-- The digits of a positive number begin with none of its zeros. -/
theorem head?_digitsOf {number : Nat} (positive : 0 < number) :
    (digitsOf number).head? ≠ some '0' := by
  induction number using Nat.strong_induction_on with
  | _ number inductionHypothesis =>
    unfold digitsOf
    rcases Nat.lt_or_ge number 10 with single | several
    · rw [Nat.toDigits_of_lt_base single]
      interval_cases number <;> decide
    · have shorter := inductionHypothesis (number / 10) (by omega) (by omega)
      rw [Nat.toDigits_of_base_le (by decide) several,
        List.head?_append_of_ne_nil _ Nat.toDigits_ne_nil]
      exact shorter

theorem int64OfInt?_natCast {number : Nat} (fits : number < 2 ^ 63) :
    int64OfInt? number = some (Int64.ofNat number) := by
  have same := int64OfInt?_toInt (Int64.ofNat number)
  rwa [Int64.toInt_ofNat_of_lt fits] at same

end Decimal

open Decimal (digitsOf signText)

/-- A number after a percent sign stands for the argument with that number. -/
theorem Template.compile_percent_digitsOf {number : Nat} (positive : 0 < number)
    (fits : number ≤ greatestIndex) :
    compile ('%' :: digitsOf number) = .ok ⟨[.argument number]⟩ := by
  refine compile_of_part ?_
  show readPercent (digitsOf number) = _
  have digits := fun char member => @Decimal.isDigit_of_mem_digitsOf number char member
  have notZero := Decimal.head?_digitsOf positive
  have isValue := Decimal.valueOfDigits_digitsOf number
  have nonempty : digitsOf number ≠ [] := Nat.toDigits_ne_nil
  generalize digitsOf number = text at digits notZero isValue nonempty
  obtain ⟨first, rest, rfl⟩ := List.exists_cons_of_ne_nil nonempty
  obtain ⟨isDigit, restDigits⟩ := List.forall_mem_cons.mp digits
  have notMark : ∀ {mark : Char}, mark.isDigit = false → first ≠ mark := by
    rintro mark notDigit rfl
    rw [isDigit] at notDigit
    cases notDigit
  have starts : (first.isDigit && first != '0') = true := by
    have different : first ≠ '0' := fun isZero => notZero (congrArg some isZero)
    rw [isDigit, Bool.true_and, bne_iff_ne]
    exact different
  have part : argumentPart (first :: rest) = .ok (.argument number) := by
    unfold argumentPart
    rw [isValue, if_pos fits]
  rw [readPercent, if_neg (notMark rfl), if_neg (notMark rfl), if_neg (notMark rfl),
    if_neg (notMark rfl), if_pos starts, List.takeWhile_eq_self_iff.mpr restDigits,
    List.dropWhile_eq_nil_iff.mpr restDigits, part]
  rfl

/-! ### Reading a variable and reading an argument -/

section

variable {name : String} (isName : IsName name) (workspace : Workspace)

include isName

theorem IsName.gives : Expression.Gives name workspace ((workspace.get? name).getD .empty) :=
  ⟨_, isName.parse, rfl⟩

theorem IsName.gives_percent :
    Template.Gives ("%" ++ name) workspace ((workspace.get? name).getD .empty).toText := by
  refine .of_part (.named name none) ?_ rfl
  rw [String.toList_append]
  exact isName.compile_percent

theorem IsName.gives_braced :
    Template.Gives ("%\x7b" ++ name ++ "\x7d") workspace
      ((workspace.get? name).getD .empty).toText := by
  refine .of_part (.named name none) ?_ rfl
  rw [String.toList_append, String.toList_append]
  exact isName.compile_braced

end

theorem toList_argumentCall (number : Int) : (argumentCall number).toList =
    "arg".toList ++ '(' :: ((signText (number < 0) ++ digitsOf number.natAbs) ++ [')']) := by
  rw [argumentCall, String.toList_append, String.toList_append, Decimal.toList_toString]
  rfl

/-- A mark that is no digit does not stand in the call, if it is none of the other characters. -/
theorem not_mem_argumentCall {mark : Char} (notDigit : mark.isDigit = false)
    (elsewhere : mark ∉ "-arg()".toList) (number : Int) : mark ∉ (argumentCall number).toList := by
  have notDigits : mark ∉ digitsOf number.natAbs := fun member => by
    rw [Decimal.isDigit_of_mem_digitsOf member] at notDigit
    cases notDigit
  have notSign : mark ∉ signText (number < 0) := fun member => by
    unfold signText at member
    split at member
    · exact elsewhere (List.mem_singleton.mp member ▸ by decide)
    · cases member
  rw [toList_argumentCall]
  simp_all

/-- The call is an expression if the digits of its number are in range. -/
theorem Expression.parse_argumentCall {number : Int} {size : Int64}
    (inRange : Decimal.int64OfInt? number.natAbs = some size) :
    parse (argumentCall number).toList =
      .ok (.call "arg" [if number < 0 then .unary .neg (.literal (.integer size))
        else .literal (.integer size)]) := by
  have isName : IsName "arg" := rfl
  have digits : Token.readAll (digitsOf number.natAbs) = .ok [.integer size] := by
    rw [Token.readAll_digitsOf, inRange]
  unfold parse
  rw [toList_argumentCall]
  by_cases below : number < 0
  · have signed : Token.readAll ('-' :: digitsOf number.natAbs) =
        .ok [.operator .sub, .integer size] := by
      rw [Token.readAll_minus_digitsOf, digits]
      rfl
    have tokens := isName.lexes_call (Token.readAll_eq_ok_iff.mp signed)
    rw [decide_eq_true below, if_pos below]
    rw [show signText true ++ digitsOf number.natAbs = '-' :: digitsOf number.natAbs from rfl,
      Token.readAll_eq_ok_iff.mpr tokens]
    rfl
  · have tokens := isName.lexes_call (Token.readAll_eq_ok_iff.mp digits)
    rw [decide_eq_false below, if_neg below]
    rw [show signText false ++ digitsOf number.natAbs = digitsOf number.natAbs from rfl,
      Token.readAll_eq_ok_iff.mpr tokens]
    rfl

section

variable {index : Nat} (fits : index + 1 < 2 ^ 63) (workspace : Workspace)

include fits

/-- A percent sign and a number give the text of the argument with that number. -/
theorem Template.gives_percent_digits :
    Gives ("%" ++ toString (index + 1)) workspace
      (workspace.arguments.getD index .empty).toText := by
  have isIndex : index + 1 ≤ greatestIndex := by
    show index + 1 ≤ 2 ^ 64 - 1
    omega
  refine .of_part (.argument (index + 1)) ?_ rfl
  rw [String.toList_append, Nat.toString_eq_repr, Nat.toList_repr]
  exact compile_percent_digitsOf (Nat.succ_pos index) isIndex

/-- The function gives the argument with that number. -/
theorem Expression.gives_arg :
    Gives (argumentCall (index + 1 : Nat)) workspace (workspace.arguments.getD index .empty) := by
  refine ⟨_, parse_argumentCall (Decimal.int64OfInt?_natCast fits), ?_⟩
  rw [if_neg (by omega)]
  show (argumentAt workspace.arguments (Int64.ofNat (index + 1)), workspace) = _
  rw [argumentAt, Int64.toInt_ofNat_of_lt fits, if_neg (by omega),
    show ((index + 1 : Nat) - 1 : Int).toNat = index by omega]

end

/-- An expression without brackets gives the text of its value where it is embedded. -/
theorem Template.gives_embedding {source : String} {workspace : Workspace} {value : Value}
    (gives : Expression.Gives source workspace value) (noOpening : '[' ∉ source.toList)
    (noClosing : ']' ∉ source.toList) :
    Gives ("$[" ++ source ++ "]") workspace value.toText := by
  obtain ⟨expression, parsed, evaluated⟩ := gives
  have paired : Paired source.toList :=
    (untilClosed_eq_some_iff.mp (untilClosed_of_not_mem noOpening noClosing [])).2
  refine .of_part (.expression expression) ?_ ?_
  · rw [String.toList_append, String.toList_append]
    exact compile_embedding parsed paired
  · show Evaluation.bind expression.evaluate _ workspace = _
    unfold Evaluation.bind
    rw [evaluated]
    rfl

/-- Where a name is bound to an argument, or to the empty text if there is none, all ways to read
that argument agree. -/
theorem argumentReadings {name : String} (isName : IsName name) {index : Nat}
    (fits : index + 1 < 2 ^ 63) {workspace : Workspace}
    (bound : workspace.get? name = some (workspace.arguments.getD index .empty)) :
    ArgumentReadings workspace name (index + 1) (workspace.arguments.getD index .empty) := by
  have isValue : (workspace.get? name).getD .empty = workspace.arguments.getD index .empty := by
    rw [bound, Option.getD_some]
  have called := Expression.gives_arg fits workspace
  exact {
    percent := isValue ▸ isName.gives_percent workspace
    braced := isValue ▸ isName.gives_braced workspace
    numbered := Template.gives_percent_digits fits workspace
    embedded := Template.gives_embedding called (not_mem_argumentCall rfl (by decide) _)
      (not_mem_argumentCall rfl (by decide) _)
    named := isValue ▸ isName.gives workspace
    called := called }

/-! ### All arguments and their number -/

section

variable (workspace : Workspace)

theorem Template.gives_argumentCount :
    Gives "%#" workspace (toString workspace.arguments.length) :=
  .of_part _ (compile_of_part rfl) rfl

theorem Template.gives_allArguments :
    Gives "%*" workspace (" ".intercalate (workspace.arguments.map Value.toText)) :=
  .of_part _ (compile_of_part rfl) rfl

theorem Expression.gives_argc : Gives "argc()" workspace (.ofNat workspace.arguments.length) := by
  have isName : IsName "argc" := rfl
  refine ⟨.call "argc" [], ?_, rfl⟩
  show parse ("argc".toList ++ '(' :: ([] ++ [')'])) = _
  unfold parse
  rw [Token.readAll_eq_ok_iff.mpr (isName.lexes_call .nil)]
  rfl

end

/-- The function refuses every number below one, and the operand that gave the number has had its
effects before. -/
theorem Expression.evaluate_arg_of_lt {operand : Expression} {workspace after : Workspace}
    {value : Value} (evaluated : operand.evaluate workspace = (.ok value, after))
    (below : value.toInt64 < 1) :
    (call "arg" [operand]).evaluate workspace = (.error (.badIndex value.toInt64), after) := by
  have values : evaluateAll [operand] workspace = (.ok [value], after) := by
    rw [evaluateAll, Evaluation.bind_of_ok evaluated]
    rfl
  rw [evaluate]
  refine (Evaluation.bind_of_ok values).trans ?_
  show (argumentAt after.arguments value.toInt64, after) = _
  have isBelow : value.toInt64.toInt < 1 := Int64.lt_iff_toInt_lt.mp below
  rw [argumentAt, if_pos isBelow]

/-- So does the call that is written with such a number; the digits of the least integer are not
in range. -/
theorem Expression.fails_arg {number : Int64} (below : number < 1)
    (notLeast : number ≠ Int64.minValue) (workspace : Workspace) :
    Fails (argumentCall number.toInt) workspace (.badIndex number) := by
  refine ⟨_, parse_argumentCall (Decimal.int64OfInt?_natAbs notLeast), ?_⟩
  have evaluated : (if number.toInt < 0 then
      unary .neg (literal (.integer (if number.toInt < 0 then -number else number)))
      else literal (.integer (if number.toInt < 0 then -number else number))).evaluate workspace =
        (.ok (.integer number), workspace) := by
    split
    · show (Except.ok (Value.integer (-number)).neg, workspace) = _
      rw [Value.neg_integer, Int64.neg_neg]
    · rfl
  exact evaluate_arg_of_lt evaluated below

/-! ### All readings -/

/-- In an invocation whose script begins by giving distinct names to the arguments, all ways to read
the arguments agree from there on, in either scope mode. Each name is bound to the argument at its
place, or to the empty text if there are fewer arguments, and the four ways to write that argument
in a text and the two to write it as an expression give it. The number of the arguments and the
text of all of them fit what the single arguments are, and no number below one asks for any. -/
theorem positional_arguments_agree {names : List String} {rest : String} {script : Script}
    {arguments : List Value} (areNames : ∀ name ∈ names, IsName name) (distinct : names.Nodup)
    (nonempty : names ≠ []) (namesFit : names.length < 2 ^ 63)
    (argumentsFit : arguments.length < 2 ^ 63) (compiled : Script.compile rest = .ok script) :
    ∃ unit, Script.compile ("/param " ++ " ".intercalate names ++ "\n" ++ rest) = .ok unit ∧
      ∀ {Outside : Type} (session : Session Outside) (request : Request),
        request.script = unit → request.arguments = arguments →
        let inside := session.workspace.enter request.mode arguments
        let bound := Interpreter.bindNames names arguments inside
        session.run request = .poll inside (fun _ =>
            Interpreter.runScript session.engine.roundLimit script.statements bound) ∧
          (∀ index (isName : index < names.length), ArgumentReadings bound names[index] (index + 1)
            (arguments.getD index .empty)) ∧
          Template.Gives "%#" bound (toString arguments.length) ∧
          (∃ count : Int64, Expression.Gives "argc()" bound (.integer count) ∧
            count.toInt = arguments.length) ∧
          (∃ texts : List String, texts.length = arguments.length ∧
            (∀ index (isText : index < texts.length),
              Template.Gives ("%" ++ toString (index + 1)) bound texts[index]) ∧
            Template.Gives "%*" bound (" ".intercalate texts)) ∧
          ∀ number : Int64, number < 1 →
            (∀ operand value after, operand.evaluate bound = (.ok value, after) →
              value.toInt64 = number →
              (Expression.call "arg" [operand]).evaluate bound =
                (.error (.badIndex number), after)) ∧
            (number ≠ Int64.minValue →
              Expression.Fails (argumentCall number.toInt) bound (.badIndex number)) := by
  have written : ("/param " ++ " ".intercalate names ++ "\n" ++ rest).toList =
      Statement.naming names ++ '\n' :: rest.toList := by
    rw [String.toList_append, String.toList_append, String.toList_append,
      String.toList_intercalate, List.append_assoc]
    rfl
  obtain ⟨block, parsed, rfl⟩ := map_eq_ok.mp compiled
  have unit := Statement.parse_naming_append areNames nonempty parsed
  rw [← written] at unit
  refine ⟨_, map_eq_ok.mpr ⟨_, unit, rfl⟩, fun session request isUnit given => ?_⟩
  intro inside bound
  have kept : bound.arguments = arguments := Interpreter.arguments_bindNames names arguments inside
  refine ⟨?_, fun index isName => ?_, ?_, ⟨.ofNat arguments.length, ?_, ?_⟩,
    ⟨arguments.map Value.toText, List.length_map _, fun index isText => ?_, ?_⟩,
    fun number below => ⟨fun operand value after evaluated isNumber => ?_, fun notLeast => ?_⟩⟩
  · unfold Session.run
    rw [isUnit, given]
    exact Interpreter.runScript_param _ names block inside
  · have value : bound.get? names[index] = some (arguments.getD index .empty) :=
      Interpreter.get?_bindNames distinct arguments inside index isName
    rw [← kept] at value ⊢
    exact argumentReadings (areNames _ (List.getElem_mem isName)) (by omega) value
  · exact kept ▸ Template.gives_argumentCount bound
  · exact kept ▸ Expression.gives_argc bound
  · exact Int64.toInt_ofNat_of_lt argumentsFit
  · rw [List.length_map] at isText
    have fits : index + 1 < 2 ^ 63 := by omega
    have gives := Template.gives_percent_digits fits bound
    rw [kept, List.getD_eq_getElem _ _ isText] at gives
    rwa [List.getElem_map]
  · exact kept ▸ Template.gives_allArguments bound
  · rw [Expression.evaluate_arg_of_lt evaluated (isNumber ▸ below), isNumber]
  · exact Expression.fails_arg below notLeast bound

/-- Two names for one argument. -/
theorem positional_arguments_agree_pair :
    let arguments : List Value := [.text "x"]
    let bound := Interpreter.bindNames ["a", "b"] arguments
      (Workspace.initial.enter .newScope arguments)
    ∃ unit, Script.compile "/param a b\n/emit b" = .ok unit ∧
      ArgumentReadings bound "a" 1 (.text "x") ∧ ArgumentReadings bound "b" 2 .empty ∧
      Expression.Fails "arg(0)" bound (.badIndex 0) := by
  intro arguments bound
  have areNames : ∀ name ∈ ["a", "b"], IsName name := by
    intro name isName
    simp only [List.mem_cons, List.not_mem_nil, or_false] at isName
    rcases isName with rfl | rfl <;> rfl
  have compiled : Script.compile "/emit b" = .ok ⟨"/emit b", [.emit [.named "b"]]⟩ := by cbv
  obtain ⟨unit, isUnit, agree⟩ := @positional_arguments_agree _ _ _ arguments areNames
    (by decide) (List.cons_ne_nil _ _) (by decide) (by decide) compiled
  obtain ⟨-, readings, -, -, -, refusals⟩ := agree
    (⟨.ofSettings .standard, Workspace.initial, []⟩ : Session (List SinkCall))
    ⟨unit, arguments, .newScope, .stop⟩ rfl rfl
  exact ⟨unit, isUnit, readings 0 (by decide), readings 1 (by decide),
    (refusals 0 (by decide)).2 (by decide)⟩

end SlashScript
