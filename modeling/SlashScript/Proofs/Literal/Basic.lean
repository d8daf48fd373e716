/-
This file follows a text of one line through the stages of reading: the line, the texts between
its separators, the name of a command and what comes after it. It also says what it is for a script
to emit one value and to do nothing else, under every sink and in every session.
-/

import Mathlib.Data.List.DropRight
import SlashScript.Proofs.Blocks.Joining
import SlashScript.Proofs.Channel.Outcomes

namespace SlashScript

/-! ### One line of text -/

namespace Text

/-- A text without newlines is one line. -/
theorem linesFrom_of_not_mem {reversed text : List Char} (oneLine : '\n' ∉ text)
    (nonempty : reversed ≠ [] ∨ text ≠ []) :
    linesFrom reversed text = [reversed.reverse ++ text] := by
  have begun : text.reverse ++ reversed ≠ [] := by
    rw [ne_eq, List.append_eq_nil_iff, List.reverse_eq_nil_iff, not_and_or]
    exact nonempty.symm
  have whole := linesFrom_append_of_not_mem oneLine reversed []
  rw [List.append_nil, linesFrom, if_neg (by simpa using begun)] at whole
  rw [whole, List.reverse_append, List.reverse_reverse]

/-- There are no blanks at the ends of the text. -/
def Trimmed (text : List Char) : Prop :=
  (∀ char ∈ text.head?, isBlank char = false) ∧ ∀ char ∈ text.getLast?, isBlank char = false

theorem trimStart_eq_self_iff {text : List Char} :
    trimStart text = text ↔ ∀ char ∈ text.head?, isBlank char = false := by
  cases text with
  | nil => exact ⟨nofun, fun _ => rfl⟩
  | cons char text => simp [trimStart, List.dropWhile_eq_self_iff]

theorem trimEnd_eq_self_iff {text : List Char} :
    trimEnd text = text ↔ ∀ char ∈ text.getLast?, isBlank char = false := by
  have ends : trimEnd text = text.rdropWhile isBlank := rfl
  rw [ends, List.rdropWhile_eq_self_iff]
  constructor
  · rintro visible char isLast
    obtain ⟨nonempty, rfl⟩ := List.mem_getLast?_eq_getLast isLast
    exact eq_false_of_ne_true (visible nonempty)
  · intro visible nonempty
    exact ne_true_of_eq_false (visible _ (List.getLast?_eq_some_getLast nonempty))

theorem trim_eq_self_iff {text : List Char} : trim text = text ↔ Trimmed text := by
  unfold Trimmed
  rw [← trimStart_eq_self_iff, ← trimEnd_eq_self_iff]
  constructor
  · intro kept
    have start : trimStart text = text := by
      refine (List.dropWhile_suffix isBlank).eq_of_length_le ?_
      have ends : (trim text).length ≤ (trimStart text).length :=
        (List.rdropWhile_prefix isBlank _).length_le
      rwa [kept] at ends
    refine ⟨start, ?_⟩
    unfold trim at kept
    rwa [start] at kept
  · rintro ⟨start, ends⟩
    unfold trim
    rw [start, ends]

theorem trim_cons {first : Char} {rest : List Char} (visible : isBlank first = false)
    (ends : ∀ char ∈ (first :: rest).getLast?, isBlank char = false) :
    trim (first :: rest) = first :: rest := by
  refine trim_eq_self_iff.mpr ⟨fun char isFirst => ?_, ends⟩
  cases isFirst
  exact visible

end Text

namespace Layout

/-- A line is a comment or not by its first visible character. -/
theorem isComment_congr {line line' : List Char}
    (same : (Text.trimStart line).head? = (Text.trimStart line').head?) :
    isComment line = isComment line' := by
  have ofHead : ∀ line, isComment line =
      ((Text.trimStart line).head? = some ';' || (Text.trimStart line).head? = some '#') := by
    intro line
    unfold isComment
    rcases Text.trimStart line with _ | ⟨first, rest⟩
    · rfl
    · split <;> simp_all
  rw [ofHead, ofHead, same]

theorem isComment_append_ite (text rest : List Char) :
    isComment (text ++ rest) =
      if Text.trimStart text = [] then isComment rest else isComment text := by
  have start : Text.trimStart (text ++ rest) =
      if (Text.trimStart text).isEmpty then Text.trimStart rest else Text.trimStart text ++ rest :=
    List.dropWhile_append
  split
  · next blank =>
    rw [blank] at start
    exact isComment_congr (congrArg List.head? start)
  · next visible =>
    rw [if_neg (by simpa using visible)] at start
    refine isComment_congr ?_
    rw [start, List.head?_append_of_ne_nil _ visible]

/-- A text of one line that begins with a slash is one logical line. -/
theorem statements_of_line {text : List Char} (oneLine : '\n' ∉ '/' :: text)
    (closed : ('/' :: text).getLast? ≠ some '\\') :
    statements ('/' :: text) = statementsOfLine ⟨1, '/' :: text⟩ := by
  have lines : Text.lines ('/' :: text) = ['/' :: text] :=
    Text.linesFrom_of_not_mem oneLine (.inr nofun)
  have visible : isComment ('/' :: text) = false := rfl
  unfold statements logicalLines
  rw [lines, logicalLinesFrom, visible]
  simp only [Bool.false_eq_true, if_false, if_neg closed]
  exact List.append_nil _

/-- The number of open brackets after a character. -/
def depthAfter (depth : Nat) (char : Char) : Nat :=
  if char = '[' then depth + 1 else if char = ']' then depth - 1 else depth

theorem splitFrom_protected (depth : Nat) (next : Char) (rest : List Char) :
    splitFrom true depth ('\\' :: next :: rest) =
      prependChar '\\' (prependChar next (splitFrom true depth rest)) := rfl

theorem splitFrom_quoted {char : Char} (notBackslash : char ≠ '\\') (depth : Nat)
    (rest : List Char) :
    splitFrom true depth (char :: rest) =
      prependChar char (splitFrom (char != '"') depth rest) := by
  cases rest <;> exact (if_pos rfl).trans (if_neg notBackslash)

theorem splitFrom_separator (rest : List Char) :
    splitFrom false 0 ('%' :: ';' :: rest) = [] :: splitFrom false 0 rest := rfl

theorem splitFrom_unquoted {char : Char} {depth : Nat} {rest : List Char}
    (noSeparator : ¬ (char = '%' ∧ depth = 0 ∧ rest.head? = some ';')) :
    splitFrom false depth (char :: rest) =
      prependChar char (splitFrom (char = '"') (depthAfter depth char) rest) := by
  have goesOn : ¬ (char = '%' && depth = 0 && rest.head? = some ';') = true := by
    simpa [and_assoc] using noSeparator
  cases rest <;> exact (if_neg Bool.false_ne_true).trans (if_neg goesOn)

/-- Induction along the way of the splitter. -/
@[elab_as_elim]
theorem splitFrom_induction {motive : Bool → Nat → List Char → Prop}
    (nil : ∀ quoted depth, motive quoted depth [])
    (backslash : ∀ depth, motive true depth ['\\'])
    (isProtected : ∀ depth next rest, motive true depth rest →
      motive true depth ('\\' :: next :: rest))
    (isQuoted : ∀ depth char rest, char ≠ '\\' → motive (char != '"') depth rest →
      motive true depth (char :: rest))
    (separator : ∀ rest, motive false 0 rest → motive false 0 ('%' :: ';' :: rest))
    (unquoted : ∀ depth char rest, ¬ (char = '%' ∧ depth = 0 ∧ rest.head? = some ';') →
      motive (char = '"') (depthAfter depth char) rest → motive false depth (char :: rest))
    (quoted : Bool) (depth : Nat) (text : List Char) : motive quoted depth text := by
  induction quoted, depth, text using splitFrom.induct with
  | case1 quoted depth => exact nil quoted depth
  | case2 depth => exact backslash depth
  | case3 depth next rest ofRest => exact isProtected depth next rest ofRest
  | case4 depth char rest notBackslash ofRest => exact isQuoted depth char rest notBackslash ofRest
  | case5 quoted depth char isUnquoted isSeparator => simp at isSeparator
  | case6 quoted depth char isUnquoted next rest isSeparator ofRest =>
    cases eq_false_of_ne_true isUnquoted
    obtain ⟨⟨rfl, rfl⟩, rfl⟩ : (char = '%' ∧ depth = 0) ∧ next = ';' := by simpa using isSeparator
    exact separator rest ofRest
  | case7 quoted depth char rest isUnquoted noSeparator _ ofRest =>
    cases eq_false_of_ne_true isUnquoted
    exact unquoted depth char rest (by simpa [and_assoc] using noSeparator) ofRest

/-- Characters that mean nothing to the splitter come before what it makes of the rest. -/
theorem splitFrom_append (plain : List Char) {rest first : List Char} {others : List (List Char)}
    {depth : Nat} (meaningless : plain.all (· ∉ ['%', '[', ']', '"']) = true)
    (split : splitFrom false depth rest = first :: others) :
    splitFrom false depth (plain ++ rest) = (plain ++ first) :: others := by
  induction plain with
  | nil => exact split
  | cons char plain inductionHypothesis =>
    rw [List.all_cons, Bool.and_eq_true, decide_eq_true_iff] at meaningless
    obtain ⟨here, later⟩ := meaningless
    simp only [List.mem_cons, not_or] at here
    obtain ⟨notPercent, notOpen, notClose, notMark, _⟩ := here
    have sameDepth : depthAfter depth char = depth := by
      rw [depthAfter, if_neg notOpen, if_neg notClose]
    rw [List.cons_append, splitFrom_unquoted fun separator => notPercent separator.1, sameDepth,
      decide_eq_false notMark, inductionHypothesis later]
    rfl

/-- A command on one line, without separators, is a statement as it stands. -/
theorem statements_of_command {rest : List Char} (oneLine : '\n' ∉ '/' :: rest)
    (ends : ∀ char ∈ ('/' :: rest).getLast?, Text.isBlank char = false ∧ char ≠ '\\')
    (unsplit : splitStatements ('/' :: rest) = ['/' :: rest]) :
    statements ('/' :: rest) = [⟨1, '/' :: rest⟩] := by
  have trimmed : Text.trim ('/' :: rest) = '/' :: rest :=
    Text.trim_cons rfl fun char isLast => (ends char isLast).1
  rw [statements_of_line oneLine fun isBackslash => (ends _ isBackslash).2 rfl]
  unfold statementsOfLine
  rw [unsplit, List.map_singleton, trimmed]
  rfl

end Layout

namespace Statement

/-- A command and what follows it. -/
theorem splitCommand_append {name : List Char}
    (visible : name.all (!Text.isBlank ·) = true) (rest : List Char) :
    splitCommand ('/' :: (name ++ ' ' :: rest)) = some (String.ofList name, Text.trim rest) := by
  have inName : ∀ char ∈ name, (!Text.isBlank char) = true := List.all_eq_true.mp visible
  have taken : (name ++ ' ' :: rest).takeWhile (!Text.isBlank ·) = name := by
    rw [List.takeWhile_append_of_pos inName]
    exact List.append_nil _
  have dropped : (name ++ ' ' :: rest).dropWhile (!Text.isBlank ·) = ' ' :: rest := by
    rw [List.dropWhile_append_of_pos inName]
    rfl
  rw [splitCommand, taken, dropped]
  rfl

/-- A statement that is plain comes first in the block that it begins. -/
theorem Spells.head_of_plain {level : Nat} {line : SourceStatement} {lines : List SourceStatement}
    {statement : Statement} {block : Block} (spells : Spells level (line :: lines) block)
    (read : directive line.text = .ok (.plain statement)) : ∃ rest, block = statement :: rest := by
  generalize all : line :: lines = whole at spells
  cases spells with
  | nil => cases all
  | plain compiles =>
    cases all
    cases compiles with
    | plain read' =>
      cases read.symm.trans read'
      exact ⟨_, rfl⟩
  | choose first _ _ _ _ firstCompiles =>
    obtain ⟨rfl, _⟩ := List.cons.inj all
    cases firstCompiles with
    | openIf read' => cases read.symm.trans read'
  | loop head _ _ _ headCompiles =>
    obtain ⟨rfl, _⟩ := List.cons.inj all
    cases headCompiles with
    | openWhile read' | openFor read' => cases read.symm.trans read'

/-- A text of one plain statement. -/
theorem parse_of_plain {source : List Char} {line : SourceStatement} {statement : Statement}
    (single : Layout.statements source = [line])
    (read : directive line.text = .ok (.plain statement)) : parse source = .ok [statement] := by
  have spells : Spells maxNesting [line] [statement] := .plain (.plain read) .nil
  unfold parse
  rw [single]
  exact ofSource_eq_ok_iff.mpr spells

end Statement

/-! ### Scripts of one value -/

/-- What an invocation comes to that emits one value and does nothing else. -/
def Session.emitted {Outside : Type} (sink : Sink Outside) (request : Request) (value : Value)
    (session : Session Outside) : Upshot Outside where
  result := .ok ⟨session.engine.next, 1, 0⟩
  inside := session.workspace.enter request.mode request.arguments
  session := ⟨session.advanced, session.workspace,
    sink.output ⟨session.engine.next, 0, value⟩ session.outside⟩
  calls := [.output ⟨session.engine.next, 0, value⟩]

/-- In every session, under every sink that is not cancelled, the script emits the value and comes
to its end; it raises no error and leaves the variables and the log as they were. -/
def Script.OnlyEmits (script : Script) (value : Value) : Prop :=
  ∀ {Outside : Type} (sink : Sink Outside) (session : Session Outside) (request : Request),
    request.script = script → sink.isCancelled session.outside = false →
      session.upshot sink request = session.emitted sink request value ∧
        (sink.Quiet → ∀ upshot, session.Yields sink request upshot →
          upshot = session.emitted sink request value)

namespace Interpreter

/-- A script whose first statement emits a value. -/
theorem runScript_of_emits {statement : Statement} {value : Value} {limit : Nat}
    {workspace : Workspace} (emits : runStatement limit statement workspace =
      .emit value workspace fun _ => .done .normal workspace) (others : Block) :
    runScript limit (statement :: others) workspace =
      .poll workspace fun _ => .emit value workspace fun _ =>
        runScript limit others workspace := by
  unfold runScript
  rw [runBlock, emits]
  rfl

end Interpreter

/-- After the first value, which the sink gets, comes the rest of the script. -/
theorem Session.served_of_emits {Outside : Type} {sink : Sink Outside} {session : Session Outside}
    {request : Request} (live : sink.isCancelled session.outside = false) {statement : Statement}
    {value : Value} (emits : ∀ limit workspace, Interpreter.runStatement limit statement workspace =
      .emit value workspace fun _ => .done .normal workspace) {others : Block}
    (statements : request.script.statements = statement :: others) :
    session.recording.served sink.recorded request =
      (Interpreter.runScript session.engine.roundLimit others
          (session.workspace.enter request.mode request.arguments)).serve
        (sink.recorded.host request.action session.engine.next)
        (sink.recorded.push session.engine.next value ⟨(session.outside, []), 0, 0⟩) := by
  have liveRecorded : sink.recorded.isCancelled session.recording.outside = false := live
  have run : session.recording.run request = _ :=
    (congrArg (Interpreter.runScript _ · _) statements).trans
      (Interpreter.runScript_of_emits (emits _ _) others)
  have taken : (sink.recorded.host request.action session.engine.next).take value
      ⟨session.recording.outside, 0, 0⟩ = _ := Sink.deliver_of_live liveRecorded _ _
  rw [served, run, Run.serve]
  refine (if_neg (ne_true_of_eq_false liveRecorded)).trans ?_
  exact Run.serve_emit_of_take taken

/-- A script does no more than its one statement. -/
theorem Script.onlyEmits_of_emits {script : Script} {statement : Statement} {value : Value}
    (single : script.statements = [statement])
    (emits : ∀ limit workspace, Interpreter.runStatement limit statement workspace =
      .emit value workspace fun _ => .done .normal workspace) : script.OnlyEmits value := by
  rintro Outside sink session request rfl live
  have atOnce : session.upshot sink request = session.emitted sink request value := by
    have nothingMore : ∀ limit workspace delivery,
        (Interpreter.runScript limit [] workspace).serve
            (sink.recorded.host request.action session.engine.next) delivery =
          ⟨.finished (), workspace, delivery⟩ := fun _ _ _ => rfl
    rw [Session.upshot_of_live live, Session.served_of_emits live emits single, nothingMore,
      Workspace.leave_enter]
    rfl
  refine ⟨atOnce, fun quiet upshot yields => ?_⟩
  rw [yields.eq_of_quiet quiet, atOnce]

end SlashScript
