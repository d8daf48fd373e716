/-
This file compares a loop over a range with the script that has no loop: for each of the integers,
in order, an assignment to the variable, and then the statements of the body. A round of the loop
asks whether to go on where the assignment does, and the assignment takes its integer from a text
and gets it back. What is raised in the body is raised in a block either way. So the two are the
same run, but that the loop is a statement of its own: it asks once more before its first round, and
a body that leaves the loop goes on with what follows it, where the other script ends.
-/

import Mathlib.Data.Int.Range
import SlashScript.Proofs.Arguments.Names
import SlashScript.Proofs.RoundTrip
import SlashScript.Proofs.Succession

namespace SlashScript

/-! ### The integers of a range -/

/-- The integers from the first to the last, in order. -/
def integersBetween (first last : Int64) : List Int64 :=
  (Int.range first.toInt (last.toInt + 1)).map Int64.ofInt

theorem length_integersBetween (first last : Int64) :
    (integersBetween first last).length = Interpreter.rangeSize first last := by
  rw [integersBetween, List.length_map, Int.range, List.length_map, List.length_range,
    Interpreter.rangeSize]
  omega

/-- None of them is out of bounds. -/
theorem map_toInt_integersBetween (first last : Int64) :
    (integersBetween first last).map Int64.toInt = Int.range first.toInt (last.toInt + 1) := by
  have each : ∀ number ∈ Int.range first.toInt (last.toInt + 1),
      (Int64.toInt ∘ Int64.ofInt) number = id number := by
    intro number member
    obtain ⟨isAfter, isBefore⟩ := Int.mem_range_iff.mp member
    have least := first.le_toInt
    have greatest := last.toInt_lt
    exact Int64.toInt_ofInt_of_le (by omega) (by omega)
  rw [integersBetween, List.map_map, List.map_congr_left each, List.map_id]

namespace Run

variable {State First Second Result : Type}

/-! ### The results of a run -/

/-- If the run comes to a result, it is one of these. -/
def EndsIn (allowed : Result → Prop) : Run State Result → Prop
  | .done result _ => allowed result
  | .exhausted _ => True
  | .poll _ next => (next ()).EndsIn allowed
  | .emit _ _ next => (next ()).EndsIn allowed
  | .raise _ _ next => ∀ keeping, (next keeping).EndsIn allowed

theorem endsIn_bind (run : Run State First)
    {continuation : First → State → Run State Second} {allowed : Second → Prop}
    (continued : ∀ result now, (continuation result now).EndsIn allowed) :
    (run.bind continuation).EndsIn allowed := by
  induction run with
  | done result now => exact continued result now
  | exhausted now => trivial
  | poll now next inductionHypothesis => exact inductionHypothesis ()
  | emit value now next inductionHypothesis => exact inductionHypothesis ()
  | raise record now next inductionHypothesis => exact inductionHypothesis

theorem EndsIn.of_serve {allowed : Result → Prop} {run : Run State Result}
    (endsIn : run.EndsIn allowed) {Outside : Type} {host : Host Outside} {outside : Outside}
    {result : Result} (finished : (run.serve host outside).ending = .finished result) :
    allowed result := by
  induction run generalizing outside with
  | done result' now =>
    cases finished
    exact endsIn
  | exhausted now => cases finished
  | poll now next inductionHypothesis =>
    rw [serve] at finished
    split at finished
    · cases finished
    · exact inductionHypothesis () endsIn finished
  | emit value now next inductionHypothesis =>
    rw [serve] at finished
    split at finished
    · exact inductionHypothesis () endsIn finished
    · cases finished
  | raise record now next inductionHypothesis =>
    rw [serve] at finished
    split at finished
    · exact inductionHypothesis .logged (endsIn .logged) finished
    · exact inductionHypothesis .dropped (endsIn .dropped) finished
    · cases finished
    · cases finished

end Run

namespace Interpreter

/-- A block does not end with a failure: it raises the failures of its statements. -/
theorem runBlock_endsIn (limit : Nat) (block : Block) (workspace : Workspace) :
    (runBlock limit block workspace).EndsIn fun flow => ∀ reason, flow ≠ .fault reason := by
  induction block generalizing workspace with
  | nil =>
    rw [runBlock]
    show ∀ reason, Flow.normal ≠ .fault reason
    rintro reason ⟨⟩
  | cons statement rest inductionHypothesis =>
    rw [runBlock_cons]
    refine Run.endsIn_bind (runStatement limit statement workspace) fun flow now => ?_
    cases flow with
    | normal => exact inductionHypothesis now
    | fault reason =>
      rw [afterStatement, raising_eq]
      exact fun keeping => inductionHypothesis _
    | leaveLoop | giveBack | halt =>
      show ∀ reason, _ ≠ Flow.fault reason
      rintro reason ⟨⟩

/-! ### Rounds -/

/-- Rounds of a body, one for each of the integers. -/
def eachRound (name : String) (body : Workspace → Running) : List Int64 → Workspace → Running
  | [], workspace => .done .normal workspace
  | number :: numbers, workspace =>
    .poll workspace fun _ =>
      (body (workspace.set name (.integer number))).bind fun flow workspace =>
        afterRound flow workspace (eachRound name body numbers)

theorem forRounds_eq (name : String) (body : Workspace → Running) (rounds : Nat) (current : Int)
    (workspace : Workspace) :
    forRounds name body rounds current workspace =
      eachRound name body ((List.range rounds).map fun round : Nat => Int64.ofInt (current + round))
        workspace := by
  induction rounds generalizing current workspace with
  | zero => rfl
  | succ rounds inductionHypothesis =>
    have places : (List.range (rounds + 1)).map (fun round : Nat => Int64.ofInt (current + round)) =
        Int64.ofInt current ::
          (List.range rounds).map fun round : Nat => Int64.ofInt (current + 1 + round) := by
      rw [List.range_succ_eq_map, List.map_cons, List.map_map]
      refine congrArg₂ List.cons (by simp) (List.map_congr_left fun round _ => ?_)
      show Int64.ofInt (current + ((round + 1 : Nat) : Int)) = _
      rw [Nat.cast_succ, add_assoc, add_comm (1 : Int)]
    have later : forRounds name body rounds (current + 1) = eachRound name body _ :=
      funext (inductionHypothesis (current + 1))
    rw [forRounds, places, eachRound, later]

/-- A template that is the text of an integer. -/
def integerText (number : Int64) : Template :=
  .literal (Value.integer number).toText

theorem rangeEnd_integerText (bound : String) (number : Int64) (workspace : Workspace) :
    rangeEnd bound (integerText number) workspace = (.ok number, workspace) := by
  show Evaluation.bind _ _ workspace = _
  rw [Evaluation.bind, integerText, Template.expand_literal]
  dsimp only
  unfold Value.toText
  rw [Decimal.readInt64?_trim_toString]
  rfl

/-- A loop over a range makes one round for each integer of the range. -/
theorem runStatement_forLoop (limit : Nat) (name : String) (first last : Int64) (body : Block)
    (workspace : Workspace) :
    runStatement limit (.forLoop name (integerText first) (integerText last) body) workspace =
      eachRound name (runBlock limit body) (integersBetween first last) workspace := by
  have size : (last.toInt + 1 - first.toInt).toNat = rangeSize first last := by
    rw [rangeSize]
    omega
  rw [runStatement, evaluating, rangeEnd_integerText]
  dsimp only
  rw [evaluating, rangeEnd_integerText]
  dsimp only
  rw [forRounds_eq, integersBetween, Int.range, size, List.map_map]
  rfl

/-! ### The script without a loop -/

/-- The body, once for each of the integers, after an assignment of the integer. -/
def unrolled (name : String) (body : Block) (numbers : List Int64) : Block :=
  numbers.flatMap fun number => .set name (integerText number) false :: body

/-- How a loop ends whose last round ends so. -/
def outOfLoop : Flow → Flow
  | .leaveLoop => .normal
  | flow => flow

theorem runStatement_set_integerText (limit : Nat) (name : String) (number : Int64)
    (workspace : Workspace) :
    runStatement limit (.set name (integerText number) false) workspace =
      .done .normal (workspace.set name (.integer number)) := by
  rw [runStatement, evaluating, integerText, Template.expand_literal]
  dsimp only
  rw [Value.ofText_toText_integer]
  rfl

/-- The rounds are the script without a loop, in which a loop is left by the end of the script. -/
theorem eachRound_eq (limit : Nat) (name : String) (body : Block) (numbers : List Int64)
    (workspace : Workspace) :
    eachRound name (runBlock limit body) numbers workspace =
      (runBlock limit (unrolled name body numbers) workspace).bind fun flow now =>
        .done (outOfLoop flow) now := by
  induction numbers generalizing workspace with
  | nil =>
    rw [unrolled, List.flatMap_nil, runBlock]
    rfl
  | cons number numbers inductionHypothesis =>
    rw [unrolled, List.flatMap_cons, List.cons_append, ← unrolled, runBlock_cons, Run.bind,
      runStatement_set_integerText, Run.bind_done, eachRound]
    refine congrArg (Run.poll workspace) (funext fun _ => ?_)
    show _ = (runBlock limit (body ++ unrolled name body numbers) _).bind _
    rw [runBlock_append, Run.bind_assoc]
    refine congrArg (Run.bind _) (funext₂ fun flow now => ?_)
    cases flow with
    | normal => exact inductionHypothesis now
    | leaveLoop | giveBack | halt | fault => rfl

end Interpreter

/-! ### How the two are written -/

theorem Value.mem_toText_integer {number : Int64} {char : Char}
    (member : char ∈ (integer number).toText.toList) : char.isDigit = true ∨ char = '-' := by
  unfold toText at member
  rw [Decimal.toList_toString] at member
  rcases List.mem_append.mp member with inSign | inDigits
  · unfold Decimal.signText at inSign
    split at inSign
    · exact .inr (List.mem_singleton.mp inSign)
    · cases inSign
  · exact .inl (Decimal.isDigit_of_mem_digitsOf inDigits)

theorem Value.isWord_toText_integer (number : Int64) : IsWord (integer number).toText.toList := by
  constructor
  · unfold toText
    rw [Decimal.toList_toString]
    exact List.append_ne_nil_of_right_ne_nil _ Nat.toDigits_ne_nil
  · intro char member
    rcases mem_toText_integer member with isDigit | rfl
    · exact Decimal.not_isBlank_of_isDigit isDigit
    · rfl

/-- The text of an integer is a template that stands for it. -/
theorem Template.compile_toText_integer (number : Int64) :
    compile (Value.integer number).toText.toList = .ok (Interpreter.integerText number) := by
  have noSign : ∀ {sign : Char}, sign.isDigit = false → sign ≠ '-' →
      sign ∉ (Value.integer number).toText.toList := by
    intro sign notDigit notMinus member
    rcases Value.mem_toText_integer member with isDigit | isMinus
    · cases notDigit.symm.trans isDigit
    · exact notMinus isMinus
  have compiled := compile_of_no_sign (noSign rfl (by decide)) (noSign rfl (by decide))
  rwa [String.ofList_toList] at compiled

namespace Statement

theorem templateOf_toText_integer (number : Int64) :
    templateOf (Value.integer number).toText.toList = .ok (Interpreter.integerText number) :=
  congrArg (Except.mapError _) (Template.compile_toText_integer number)

/-- The line that opens a loop over a range. -/
def counting (name : String) (first last : Int64) : List Char :=
  commanding "for" (spaced
    [name.toList, (Value.integer first).toText.toList, (Value.integer last).toText.toList])

/-- The line that gives a variable an integer. -/
def setting (name : String) (number : Int64) : List Char :=
  commanding "set" (name.toList ++ '=' :: (Value.integer number).toText.toList)

section

variable {name : String} (isName : IsName name)

include isName

theorem directive_counting (first last : Int64) : directive (counting name first last) =
    .ok (.openFor name (Interpreter.integerText first) (Interpreter.integerText last)) := by
  have areWords : ∀ text ∈ [name.toList, (Value.integer first).toText.toList,
      (Value.integer last).toText.toList], IsWord text := by
    simp only [List.forall_mem_cons]
    exact ⟨isName.isWord, Value.isWord_toText_integer first, Value.isWord_toText_integer last,
      nofun⟩
  have trimmed := Text.trim_eq_self_iff.mpr (trimmed_spaced areWords)
  have isNamed : nameOf "for" name.toList = .ok name := congrArg (Except.mapError _) isName
  unfold directive counting commanding
  rw [splitCommand_append (by decide), String.ofList_toList, trimmed]
  show forHead (spaced _) = _
  rw [forHead, words_spaced areWords]
  dsimp only
  rw [isNamed, templateOf_toText_integer, templateOf_toText_integer]
  rfl

theorem trimmed_assignment {value : List Char} (isWord : IsWord value) :
    Text.Trimmed (name.toList ++ '=' :: value) := by
  constructor
  · intro char isFirst
    rw [List.head?_append_of_ne_nil _ isName.ne_nil] at isFirst
    exact isName.not_isBlank char (List.mem_of_head? isFirst)
  · intro char isLast
    rw [List.append_cons, List.getLast?_append_of_ne_nil _ isWord.1] at isLast
    exact isWord.2 char (List.mem_of_getLast? isLast)

theorem splitAssignment_equals (value : List Char) :
    splitAssignment (name.toList ++ '=' :: value) = (name.toList, value) := by
  have inName : ∀ char ∈ name.toList, (!Text.isBlank char && char != '=') = true := by
    intro char member
    have notEquals : char ≠ '=' := by
      rintro rfl
      exact isName.not_mem (by decide) member
    rw [isName.not_isBlank char member, bne_iff_ne.mpr notEquals]
    rfl
  unfold splitAssignment
  dsimp only
  rw [List.takeWhile_append_of_pos inName, List.dropWhile_append_of_pos inName]
  show (name.toList ++ [], value) = _
  rw [List.append_nil]

theorem directive_setting (number : Int64) : directive (setting name number) =
    .ok (.plain (.set name (Interpreter.integerText number) false)) := by
  have trimmed := Text.trim_eq_self_iff.mpr
    (trimmed_assignment isName (Value.isWord_toText_integer number))
  have isNamed : nameOf "set" name.toList = .ok name := congrArg (Except.mapError _) isName
  unfold directive setting commanding
  rw [splitCommand_append (by decide), String.ofList_toList, trimmed]
  show directiveOfCommand "set" _ = _
  unfold directiveOfCommand
  rw [splitAssignment_equals isName]
  dsimp only
  rw [isNamed, templateOf_toText_integer]
  rfl

/-- The loop is read from its two lines and those of its body. -/
theorem spells_counting {level : Nat} {first last : Int64} {head : Part} {body : Block}
    {closer : SourceStatement} (opens : head.line.text = counting name first last)
    (closes : closer.text = "/done".toList) (spells : Spells level head.body body) :
    Spells (level + 1) (head.lines ++ [closer])
      [.forLoop name (Interpreter.integerText first) (Interpreter.integerText last) body] := by
  have openLoop : directive head.line.text =
      .ok (.openFor name (Interpreter.integerText first) (Interpreter.integerText last)) :=
    opens ▸ directive_counting isName first last
  have endLoop : directive closer.text = .ok .endLoop := closes ▸ rfl
  exact .loop head (.forLoop name _ _) body closer (.openFor openLoop) (.endLoop endLoop) spells
    .nil

/-- The script without a loop is read from the lines of the assignments and of the body. -/
theorem spells_settings {level : Nat} {numbers : List Int64} {parts : List Part} {body : Block}
    (each : List.Forall₂ (fun number part => part.line.text = setting name number ∧
      Spells level part.body body) numbers parts) :
    Spells level (parts.flatMap Part.lines) (Interpreter.unrolled name body numbers) := by
  induction each with
  | nil => exact .nil
  | @cons number part numbers parts ofPart _ inductionHypothesis =>
    have sets : directive part.line.text =
        .ok (.plain (.set name (Interpreter.integerText number) false)) :=
      ofPart.1 ▸ directive_setting isName number
    exact .plain (.plain sets) (ofPart.2.append inductionHypothesis)

end

end Statement

/-! ### Both in a script -/

/-- A loop over a range comes to what its unrolling comes to: for each integer of the range, an
assignment of it and then the body. Unless the host ends the run before it begins, both end in the
same way, with the same workspace and the same state outside. Other statements may follow; only then
the body must not leave the loop, since there is no loop to leave in the unrolling. The loop makes
one round for each integer, and the integers are those of the range, none of them out of bounds. The
lines for the loop are read as the loop, and those for the unrolling as the unrolling. -/
theorem Interpreter.forLoop_unrolls {Outside : Type} (host : Host Outside) (limit : Nat)
    (name : String) (first last : Int64) (body rest : Block) (workspace : Workspace)
    (outside : Outside) (live : host.isCancelled outside = false)
    (staysIn : rest = [] ∨
      ((runBlock limit (unrolled name body (integersBetween first last)) workspace).serve host
        outside).ending ≠ .finished .leaveLoop) :
    (runScript limit (.forLoop name (integerText first) (integerText last) body :: rest)
        workspace).serve host outside =
      (runScript limit (unrolled name body (integersBetween first last) ++ rest)
        workspace).serve host outside ∧
    runStatement limit (.forLoop name (integerText first) (integerText last) body) workspace =
      eachRound name (runBlock limit body) (integersBetween first last) workspace ∧
    (integersBetween first last).map Int64.toInt = Int.range first.toInt (last.toInt + 1) ∧
    ((integersBetween first last).length : Int) = max 0 (last.toInt - first.toInt + 1) ∧
    (IsName name → ∀ level : Nat,
      (∀ (head : Statement.Part) (closer : SourceStatement),
        head.line.text = Statement.counting name first last → closer.text = "/done".toList →
          Statement.Spells level head.body body →
            Statement.Spells (level + 1) (head.lines ++ [closer])
              [.forLoop name (integerText first) (integerText last) body]) ∧
      ∀ parts : List Statement.Part,
        List.Forall₂ (fun number part => part.line.text = Statement.setting name number ∧
            Statement.Spells level part.body body) (integersBetween first last) parts →
          Statement.Spells level (parts.flatMap Statement.Part.lines)
            (unrolled name body (integersBetween first last))) := by
  have size := length_integersBetween first last
  refine ⟨?_, runStatement_forLoop limit name first last body workspace,
    map_toInt_integersBetween first last, by rw [size, rangeSize]; omega, fun isName level =>
      ⟨fun head closer opens closes => Statement.spells_counting isName opens closes,
        fun parts => Statement.spells_settings isName⟩⟩
  rw [runScript_eq, runScript_eq, runBlock_cons, runBlock_append, runStatement_forLoop,
    eachRound_eq, Run.bind_assoc, Run.bind, Run.serve, if_neg (ne_true_of_eq_false live),
    Run.bind_assoc, Run.bind_assoc, Run.serve_bind, Run.serve_bind]
  have notFault := runBlock_endsIn limit (unrolled name body (integersBetween first last)) workspace
  rcases ended : (runBlock limit (unrolled name body (integersBetween first last))
    workspace).serve host outside with ⟨ending, now, after⟩
  have isEnding := congrArg Ended.ending ended
  rw [ended] at staysIn
  cases ending with
  | finished flow =>
    cases flow with
    | normal | giveBack | halt => rfl
    | fault reason => exact absurd rfl (notFault.of_serve isEnding reason)
    | leaveLoop =>
      rcases staysIn with rfl | stays
      · show ((runBlock limit [] now).bind atEnd).serve host after = _
        rw [runBlock]
        rfl
      · exact absurd rfl stays
  | stopped | cancelled | exhausted => rfl

/-- The greatest integer is the last of a range that ends with it. -/
theorem Interpreter.forLoop_unrolls_to_greatest :
    let host := (Sink.collector true).host .proceed 0
    let body : Block := [.emit [.named "i"]]
    let rest : Block := [.unset "i"]
    let assignment (number : Int64) : Statement := .set "i" (integerText number) false
    (runScript 0 (.forLoop "i" (integerText (Int64.maxValue - 1)) (integerText Int64.maxValue)
        body :: rest) .initial).serve host ⟨[], 0, 0⟩ =
      (runScript 0 (assignment (Int64.maxValue - 1) :: body ++ assignment Int64.maxValue :: body ++
        rest) .initial).serve host ⟨[], 0, 0⟩ := by
  intro host body rest assignment
  have numbers : integersBetween (Int64.maxValue - 1) Int64.maxValue =
      [Int64.maxValue - 1, Int64.maxValue] := by decide
  have staysIn : ((runBlock 0 (unrolled "i" body (integersBetween (Int64.maxValue - 1)
      Int64.maxValue)) .initial).serve host ⟨[], 0, 0⟩).ending ≠ .finished .leaveLoop := by
    rw [numbers, unrolled]
    simp only [List.flatMap_cons, List.flatMap_nil, List.cons_append, List.nil_append,
      runBlock_cons, runStatement_set_integerText, Run.bind_done, body]
    exact nofun
  have same := (forLoop_unrolls host 0 "i" (Int64.maxValue - 1) Int64.maxValue body rest .initial
    ⟨[], 0, 0⟩ rfl (.inr staysIn)).1
  rwa [numbers] at same

end SlashScript
