/-
This file feeds the output of a build back to the program. The program divides bytes into lines and
reads each line as text. The characters that end lines are single bytes in UTF-8, and these bytes
stand for nothing else, so the lines of an encoded text are its lines, encoded. A build joins them
again and prints a newline behind the last one, and then the lines of what was printed are the lines
of the text. Only one empty line is lost, since a text without characters is not printed: in its
place there are no lines. The scripts of both are empty, and to run an empty script is to run
nothing. The log is another matter: it tells of the invocation with the empty script, and where
there are no lines there is no invocation to tell of.
-/

import SlashScript.Proofs.Blocks.PhysicalLines
import SlashScript.Proofs.Logged
import SlashScript.Proofs.Success

namespace SlashScript

/-! ### Encoded text -/

namespace Text

/-- The bytes of a text in UTF-8. -/
def encoded (chars : List Char) : List UInt8 :=
  chars.flatMap String.utf8EncodeChar

theorem toUTF8_eq_encoded (text : String) : text.toUTF8.data.toList = encoded text.toList := by
  rw [String.toUTF8_eq_toByteArray, ← String.utf8Encode_toList]
  exact List.toList_data_toByteArray

theorem ofBytes?_encoded (chars : List Char) :
    ofBytes? (encoded chars) = some (String.ofList chars) := by
  have bytes : ByteArray.mk (encoded chars).toArray = chars.utf8Encode := by
    refine ByteArray.ext (Array.toList_inj.mp ?_)
    exact List.toList_data_toByteArray.symm
  have isText : chars.utf8Encode.IsValidUTF8 := ByteArray.isValidUTF8_utf8Encode
  unfold ofBytes? String.fromUTF8?
  rw [bytes, dif_pos isText]
  rfl

/-- A byte below 128 stands for the character with its number. -/
theorem toNat_of_mem_utf8EncodeChar {char : Char} {byte : UInt8}
    (member : byte ∈ String.utf8EncodeChar char) (single : byte.toNat < 128) :
    byte.toNat = char.toNat := by
  unfold String.utf8EncodeChar at member
  dsimp only at member
  split at member
  · rename_i isSingle
    rw [List.mem_singleton.mp member, UInt8.toNat_ofNat']
    exact Nat.mod_eq_of_lt (by omega)
  · -- All bytes of a longer encoding have their highest bit set.
    exfalso
    split at member
    · simp only [List.mem_cons, List.not_mem_nil, or_false] at member
      rcases member with rfl | rfl <;> simp at single <;> omega
    · split at member
      · simp only [List.mem_cons, List.not_mem_nil, or_false] at member
        rcases member with rfl | rfl | rfl <;> simp at single <;> omega
      · simp only [List.mem_cons, List.not_mem_nil, or_false] at member
        rcases member with rfl | rfl | rfl | rfl <;> simp at single <;> omega

/-- The bytes of a text, each taken for the character with its number. -/
def widened (chars : List Char) : List Char :=
  (encoded chars).map Char.ofUInt8

theorem widened_append (first second : List Char) :
    widened (first ++ second) = widened first ++ widened second := by
  simp [widened, encoded]

theorem widened_eq_nil_iff {chars : List Char} : widened chars = [] ↔ chars = [] := by
  cases chars with
  | nil => exact ⟨fun _ => rfl, fun _ => rfl⟩
  | cons char chars => simp [widened, encoded]

theorem map_toUInt8_widened (chars : List Char) :
    (widened chars).map Char.toUInt8 = encoded chars := by
  have narrowed : Char.toUInt8 ∘ Char.ofUInt8 = id :=
    funext fun byte => UInt8.toUInt8_toUInt32 byte
  rw [widened, List.map_map, narrowed, List.map_id]

/-- A character of one byte does not come up where it was not. -/
theorem not_mem_widened {char : Char} (single : char.toNat < 128) {chars : List Char}
    (absent : char ∉ chars) : char ∉ widened chars := by
  intro member
  obtain ⟨byte, inEncoded, isChar⟩ := List.mem_map.mp member
  obtain ⟨source, inChars, inSource⟩ := List.mem_flatMap.mp inEncoded
  have same : byte.toNat = char.toNat := congrArg Char.toNat isChar
  have isSource : source = char := by
    refine Char.toNat_inj.mp ?_
    rw [← toNat_of_mem_utf8EncodeChar inSource (same ▸ single), same]
  exact absent (isSource ▸ inChars)

/-! ### Lines of encoded text -/

theorem linesFrom_widened {reversed chars : List Char} (noReturn : '\r' ∉ chars)
    (noReturnBefore : '\r' ∉ reversed) :
    linesFrom (widened reversed.reverse).reverse (widened chars) =
      (linesFrom reversed chars).map widened := by
  have unreturned : '\r' ∉ widened reversed.reverse :=
    not_mem_widened (by decide) (mt List.mem_reverse.mp noReturnBefore)
  induction chars generalizing reversed with
  | nil =>
    by_cases isEmpty : reversed = []
    · rw [isEmpty]
      rfl
    · have kept : (widened reversed.reverse).reverse ≠ [] := by
        rwa [ne_eq, List.reverse_eq_nil_iff, widened_eq_nil_iff, List.reverse_eq_nil_iff]
      show linesFrom _ [] = _
      rw [linesFrom, linesFrom, if_neg (by simpa using kept), if_neg (by simpa using isEmpty),
        List.reverse_reverse]
      rfl
  | cons char rest inductionHypothesis =>
    obtain ⟨notReturn, noReturnAfter⟩ := not_or.mp (mt List.mem_cons.mpr noReturn)
    by_cases isNewline : char = '\n'
    · subst isNewline
      have newline : widened ('\n' :: rest) = '\n' :: widened rest := rfl
      have unbegun : '\r' ∉ ([] : List Char) := List.not_mem_nil
      have later := inductionHypothesis noReturnAfter unbegun List.not_mem_nil
      rw [newline, linesFrom, linesFrom, List.map_cons,
        closeLine_of_not_mem (mt List.mem_reverse.mp unreturned), List.reverse_reverse,
        closeLine_of_not_mem noReturnBefore]
      exact congrArg (_ :: ·) later
    · have oneLine : '\n' ∉ widened [char] :=
        not_mem_widened (by decide) (mt List.mem_singleton.mp (Ne.symm isNewline))
      have noReturnNow : '\r' ∉ char :: reversed := fun member =>
        (List.mem_cons.mp member).elim notReturn noReturnBefore
      have later := inductionHypothesis noReturnAfter noReturnNow
        (not_mem_widened (by decide) (mt List.mem_reverse.mp noReturnNow))
      rw [List.reverse_cons, widened_append, List.reverse_append] at later
      rw [← List.singleton_append, widened_append, linesFrom_append_of_not_mem oneLine, later,
        List.singleton_append, linesFrom_cons_of_ne isNewline]

/-- The lines of an encoded text are its lines, encoded. -/
theorem byteLines_encoded {chars : List Char} (noReturn : '\r' ∉ chars) :
    byteLines (encoded chars) = (lines chars).map encoded := by
  have unbegun : '\r' ∉ ([] : List Char) := List.not_mem_nil
  have widenedLines : lines (widened chars) = (lines chars).map widened :=
    linesFrom_widened noReturn unbegun
  unfold byteLines
  rw [← widened, widenedLines, List.map_map]
  exact List.map_congr_left fun line _ => map_toUInt8_widened line

/-! ### Lines that were joined -/

theorem unending_of_mem_linesFrom {reversed chars : List Char} (noReturn : '\r' ∉ chars)
    (unending : Unending reversed) : ∀ line ∈ linesFrom reversed chars, Unending line := by
  have ofReverse {reversed : List Char} (unending : Unending reversed) :
      Unending reversed.reverse :=
    ⟨mt List.mem_reverse.mp unending.1, mt List.mem_reverse.mp unending.2⟩
  induction chars generalizing reversed with
  | nil =>
    intro line member
    rw [linesFrom] at member
    split at member
    · cases member
    · exact List.mem_singleton.mp member ▸ ofReverse unending
  | cons char rest inductionHypothesis =>
    obtain ⟨notReturn, noReturnAfter⟩ := not_or.mp (mt List.mem_cons.mpr noReturn)
    by_cases isNewline : char = '\n'
    · subst isNewline
      rw [linesFrom, closeLine_of_not_mem unending.2]
      exact List.forall_mem_cons.mpr ⟨ofReverse unending,
        inductionHypothesis noReturnAfter ⟨List.not_mem_nil, List.not_mem_nil⟩⟩
    · rw [linesFrom_cons_of_ne isNewline]
      exact inductionHypothesis noReturnAfter
        ⟨fun member => (List.mem_cons.mp member).elim (Ne.symm isNewline) unending.1,
          fun member => (List.mem_cons.mp member).elim notReturn unending.2⟩

/-- Behind a newline at the end all lines are read back. -/
theorem lines_joined_newline {lines : List (List Char)} (nonempty : lines ≠ [])
    (unending : ∀ line ∈ lines, Unending line) :
    Text.lines (joined lines ++ ['\n']) = lines := by
  induction lines with
  | nil => exact absurd rfl nonempty
  | cons line lines inductionHypothesis =>
    obtain ⟨ofLine, ofRest⟩ := List.forall_mem_cons.mp unending
    cases lines with
    | nil =>
      rw [joined_singleton]
      exact linesFrom_ended ofLine List.not_mem_nil
    | cons next lines =>
      rw [joined_cons_cons, List.append_assoc, List.cons_append]
      refine (linesFrom_append [] line _).trans ?_
      rw [linesFrom_ended ofLine List.not_mem_nil,
        inductionHypothesis (List.cons_ne_nil _ _) ofRest]
      rfl

/-- A line that was begun is not empty. -/
theorem exists_linesFrom_of_begun {reversed chars : List Char} (begun : reversed ≠ [])
    (noReturn : '\r' ∉ chars) (noReturnBefore : '\r' ∉ reversed) :
    ∃ line others, linesFrom reversed chars = line :: others ∧ line ≠ [] := by
  induction chars generalizing reversed with
  | nil =>
    rw [linesFrom, if_neg (by simpa using begun)]
    exact ⟨_, _, rfl, mt List.reverse_eq_nil_iff.mp begun⟩
  | cons char rest inductionHypothesis =>
    obtain ⟨notReturn, noReturnAfter⟩ := not_or.mp (mt List.mem_cons.mpr noReturn)
    by_cases isNewline : char = '\n'
    · subst isNewline
      rw [linesFrom, closeLine_of_not_mem noReturnBefore]
      exact ⟨_, _, rfl, mt List.reverse_eq_nil_iff.mp begun⟩
    · rw [linesFrom_cons_of_ne isNewline]
      exact inductionHypothesis (List.cons_ne_nil _ _) noReturnAfter
        fun member => (List.mem_cons.mp member).elim notReturn noReturnBefore

/-- A text that is not empty begins with a newline or with a line that is not empty. -/
theorem lines_cons {char : Char} {rest : List Char} (noReturn : '\r' ∉ char :: rest) :
    char = '\n' ∧ lines (char :: rest) = [] :: lines rest ∨
      ∃ line others, lines (char :: rest) = line :: others ∧ line ≠ [] := by
  obtain ⟨notReturn, noReturnAfter⟩ := not_or.mp (mt List.mem_cons.mpr noReturn)
  by_cases isNewline : char = '\n'
  · exact .inl ⟨isNewline, isNewline ▸ rfl⟩
  · refine .inr ?_
    rw [lines, linesFrom_cons_of_ne isNewline]
    exact exists_linesFrom_of_begun (List.cons_ne_nil _ _) noReturnAfter
      (mt List.mem_singleton.mp notReturn)

/-- Only a newline is one empty line. -/
theorem eq_newline_of_lines {chars : List Char} (noReturn : '\r' ∉ chars)
    (empty : lines chars = [[]]) : chars = ['\n'] := by
  match chars with
  | [] => cases empty
  | first :: rest =>
    rcases lines_cons noReturn with ⟨rfl, begins⟩ | ⟨line, others, begins, nonempty⟩
    · have nothing : lines rest = [] := (List.cons.inj (begins.symm.trans empty)).2
      match rest with
      | [] => rfl
      | second :: rest =>
        rcases lines_cons (mt (List.mem_cons_of_mem _) noReturn) with
          ⟨-, goesOn⟩ | ⟨_, _, goesOn, -⟩ <;> cases goesOn.symm.trans nothing
    · exact absurd (List.cons.inj (begins.symm.trans empty)).1 nonempty

theorem not_mem_joined {char : Char} (notNewline : char ≠ '\n') {lines : List (List Char)}
    (absent : ∀ line ∈ lines, char ∉ line) : char ∉ joined lines := by
  induction lines with
  | nil => exact List.not_mem_nil
  | cons line lines inductionHypothesis =>
    obtain ⟨notInLine, absent⟩ := List.forall_mem_cons.mp absent
    cases lines with
    | nil =>
      rwa [joined_singleton]
    | cons next lines =>
      rw [joined_cons_cons, List.mem_append, List.mem_cons]
      exact not_or.mpr ⟨notInLine, not_or.mpr ⟨notNewline, inductionHypothesis absent⟩⟩

theorem joined_eq_nil {lines : List (List Char)} (nothing : joined lines = []) :
    lines = [] ∨ lines = [[]] := by
  match lines, nothing with
  | [], _ => exact .inl rfl
  | [line], nothing =>
    exact .inr (by rw [← nothing, joined_singleton])
  | line :: next :: lines, nothing =>
    rw [joined_cons_cons] at nothing
    simp at nothing

theorem joinLines_map_ofList (lines : List (List Char)) :
    joinLines (lines.map String.ofList) = String.ofList (joined lines) := by
  have unwrapped : String.toList ∘ String.ofList = id := funext fun _ => String.toList_ofList
  refine String.toList_inj.mp ?_
  rw [joinLines, String.toList_intercalate, List.map_map, unwrapped, List.map_id]
  exact String.toList_ofList.symm

end Text

namespace Program

/-! ### What the program reads -/

/-- The surroundings with this text as the standard input. -/
def Surroundings.feeding (surroundings : Surroundings) (text : String) : Surroundings :=
  { surroundings with standardInput := text.toUTF8.data.toList }

/-- The lines of a text. -/
def linesOf (text : String) : List String :=
  (Text.lines text.toList).map String.ofList

variable {surroundings : Surroundings} {text output : String}

/-- Only a newline is one empty line. -/
theorem eq_newline_of_linesOf (noReturn : '\r' ∉ text.toList) (empty : linesOf text = [""]) :
    text = "\n" := by
  have noText : (Text.lines text.toList).map String.ofList = [[]].map String.ofList := empty
  have lines : Text.lines text.toList = [[]] :=
    List.map_injective_iff.mpr (fun _ _ => String.ofList_inj.mp) noText
  exact String.toList_inj.mp (Text.eq_newline_of_lines noReturn lines)

theorem readLines_feeding (noReturn : '\r' ∉ text.toList) :
    readLines (surroundings.feeding text) none = .ok (linesOf text) := by
  have readEach (read : List UInt8 → Except Failed String)
      (reads : ∀ line, read (Text.encoded line) = .ok (String.ofList line))
      (lines : List (List Char)) :
      (lines.map Text.encoded).mapM read = .ok (lines.map String.ofList) := by
    induction lines with
    | nil => rfl
    | cons line lines inductionHypothesis =>
      rw [List.map_cons, List.mapM_cons, reads, inductionHypothesis]
      rfl
  have bytes : Text.byteLines (surroundings.feeding text).standardInput =
      (Text.lines text.toList).map Text.encoded := by
    rw [Surroundings.feeding, Text.toUTF8_eq_encoded, Text.byteLines_encoded noReturn]
  show (Text.byteLines (surroundings.feeding text).standardInput).mapM _ = _
  rw [bytes]
  refine readEach _ (fun line => ?_) _
  rw [Text.ofBytes?_encoded]

theorem buildScript_lines (lines : List String) :
    buildScript (lines.map .line) = Script.compile (Text.joinLines lines) := by
  have gathered (gathering : Gathering) :
      ((lines.map Fragment.line).foldl Gathering.append gathering).texts.toList =
        gathering.texts.toList ++ lines := by
    induction lines generalizing gathering with
    | nil => exact (List.append_nil _).symm
    | cons line lines inductionHypothesis =>
      rw [List.map_cons, List.foldl_cons, inductionHypothesis, Gathering.toList_append,
        List.append_assoc]
      rfl
  rw [buildScript, Gathering.text, gathered]
  rfl

/-! ### Texts that are alike -/

/-- Both texts have the same lines, or the first has none, the second has one empty line, and
nothing is logged. -/
def Alike (logger : Logger Transcript) (first second : String) : Prop :=
  linesOf first = linesOf second ∨
    logger = .silent ∧ linesOf first = [] ∧ linesOf second = [""]

variable {logger : Logger Transcript}

theorem build_congr (noReturn : '\r' ∉ text.toList) (noReturn' : '\r' ∉ output.toList)
    (alike : Alike logger output text) (file : Option String) (transcript : Transcript) :
    build (surroundings.feeding output) logger file transcript =
      build (surroundings.feeding text) logger file transcript := by
  cases file with
  | some path => rfl
  | none =>
    unfold build
    rw [readLines_feeding noReturn, readLines_feeding noReturn']
    dsimp only
    rw [buildScript_lines, buildScript_lines]
    rcases alike with same | ⟨rfl, nothing, empty⟩
    · rw [same]
    · rw [nothing, empty]
      rfl

/-- To run an empty line is to run nothing, if the error action can be told. -/
theorem runAll_empty {options : RunOptions} {session : Session Transcript} {action : ErrorAction}
    (resolved : session.engine.resolvePolicy session.workspace options.errorAction = .ok action) :
    ∃ outcomes, (Pipeline.runAll sink options [.text (.line "")] session).result = .ok outcomes ∧
      (Pipeline.runAll sink options [.text (.line "")] session).session.outside =
        session.outside := by
  have compiled : Script.compile (Gathering.empty.append (.line "")).text = .ok ⟨"", []⟩ := rfl
  have flushed : (⟨session, Gathering.empty.append (.line ""), #[]⟩ : Pipeline Transcript).flush
      sink options =
        (⟨session, .empty, #[]⟩ : Pipeline Transcript).execute sink options ⟨"", []⟩ := by
    have filled : (Gathering.empty.append (.line "")).isEmpty = false := rfl
    unfold Pipeline.flush
    dsimp only
    rw [filled, if_neg Bool.false_ne_true, compiled]
    rfl
  have executed : ∃ engine workspace outcomes,
      (⟨session, .empty, #[]⟩ : Pipeline Transcript).execute sink options ⟨"", []⟩ =
        (.ok (), ⟨⟨engine, workspace, session.outside⟩, .empty, outcomes⟩) := by
    unfold Pipeline.execute
    dsimp only
    rw [resolved]
    exact ⟨_, _, _, rfl⟩
  obtain ⟨engine, workspace, outcomes, executed⟩ := executed
  have ended : Pipeline.runAll sink options [.text (.line "")] session =
      ⟨1, .ok outcomes.toList, ⟨engine, workspace, session.outside⟩⟩ := by
    unfold Pipeline.runAll Pipeline.processAll Pipeline.process Pipeline.start Pipeline.processAll
    dsimp only
    rw [flushed, executed]
  rw [ended]
  exact ⟨_, rfl, rfl⟩

/-- The session of the program without a settings file. -/
def freshSession : Session Transcript :=
  ⟨.ofSettings .standard, .initial, .empty⟩

theorem run_congr (noReturn : '\r' ∉ text.toList) (noReturn' : '\r' ∉ output.toList)
    (alike : Alike logger output text) (file : Option String) (texts : List String)
    (options : RunOptions) :
    run (surroundings.feeding output) logger file texts options freshSession =
      run (surroundings.feeding text) logger file texts options freshSession := by
  cases file with
  | some path => rfl
  | none =>
    cases texts with
    | cons text texts => rfl
    | nil =>
      unfold run runTexts
      rw [readLines_feeding noReturn, readLines_feeding noReturn']
      dsimp only
      rcases alike with same | ⟨rfl, nothing, empty⟩
      · rw [same]
      · have resolved : ∃ action, freshSession.engine.resolvePolicy freshSession.workspace
            options.errorAction = .ok action := by
          cases options.errorAction with
          | none => exact ⟨_, rfl⟩
          | some action => exact ⟨_, rfl⟩
        obtain ⟨action, resolved⟩ := resolved
        obtain ⟨outcomes, result, outside⟩ := runAll_empty resolved
        rw [nothing, empty]
        show _ = (((Pipeline.runAll sink options [.text (.line "")] freshSession).result.mapError
            Failed.running).map fun _ => (),
          (Pipeline.runAll sink options [.text (.line "")] freshSession).session.outside)
        rw [result, outside]
        rfl

theorem follow_congr (noReturn : '\r' ∉ text.toList) (noReturn' : '\r' ∉ output.toList)
    (alike : Alike logger output text) {commandLine : CommandLine}
    (skips : commandLine.source = .skip) :
    follow (surroundings.feeding output) logger commandLine =
      follow (surroundings.feeding text) logger commandLine := by
  have settings (surroundings : Surroundings) :
      loadSettings surroundings logger commandLine.source .empty = .ok (.standard, .empty) := by
    rw [skips]
    rfl
  unfold follow
  rw [settings, settings]
  cases commandLine.command with
  | build file => exact build_congr noReturn noReturn' alike file .empty
  | run file texts options => exact run_congr noReturn noReturn' alike file texts options

/-! ### The output of a build -/

/-- What a build prints: every line with a newline behind it, but nothing for a text without
characters. -/
def rebuilt (text : String) : String :=
  let source := Text.joinLines (linesOf text)
  if source.isEmpty then "" else source ++ "\n"

theorem answer_build (noReturn : '\r' ∉ text.toList) :
    answer (surroundings.feeding text) ["--no-rc", "build"] =
      match Script.compile (Text.joinLines (linesOf text)) with
      | .error reason => ⟨1, Transcript.empty.complain s!"sb: {(Failed.building reason).message}"⟩
      | .ok script =>
        ⟨0, if script.source.isEmpty then .empty else Transcript.empty.say script.source⟩ := by
  have reads : CommandLine.read ["--no-rc", "build"] = .ok ⟨.skip, 0, .build none⟩ := rfl
  have follows : follow (surroundings.feeding text) .silent ⟨.skip, 0, .build none⟩ =
      build (surroundings.feeding text) .silent none .empty := rfl
  unfold answer
  rw [reads]
  dsimp only
  rw [LogSettings.logger_off, follows, build, readLines_feeding noReturn]
  dsimp only
  rw [buildScript_lines]
  cases Script.compile (Text.joinLines (linesOf text)) with
  | error reason => rfl
  | ok script => rfl

/-- A build succeeds if the lines make a script, and then it prints them. -/
theorem standardOutput_answer_build (noReturn : '\r' ∉ text.toList) {script : Script}
    (compiled : Script.compile (Text.joinLines (linesOf text)) = .ok script) :
    (answer (surroundings.feeding text) ["--no-rc", "build"]).transcript.standardOutput =
      rebuilt text := by
  have source : script.source = Text.joinLines (linesOf text) := by
    obtain ⟨_, -, rfl⟩ := map_eq_ok.mp compiled
    rfl
  rw [answer_build noReturn, compiled]
  dsimp only
  rw [source, rebuilt]
  split
  · rfl
  · simp [Transcript.say, Transcript.standardOutput, Transcript.empty]

theorem status_answer_build_eq_zero_iff (noReturn : '\r' ∉ text.toList) :
    (answer (surroundings.feeding text) ["--no-rc", "build"]).status = 0 ↔
      ∃ script, Script.compile (Text.joinLines (linesOf text)) = .ok script := by
  rw [answer_build noReturn]
  cases Script.compile (Text.joinLines (linesOf text)) with
  | error reason => exact ⟨nofun, nofun⟩
  | ok script => exact ⟨fun _ => ⟨script, rfl⟩, fun _ => rfl⟩

theorem unending_of_mem_lines (noReturn : '\r' ∉ text.toList) :
    ∀ line ∈ Text.lines text.toList, Text.Unending line :=
  Text.unending_of_mem_linesFrom noReturn ⟨List.not_mem_nil, List.not_mem_nil⟩

/-- The output of a build has the lines of the text it was built from, unless that is one empty
line. -/
theorem lines_rebuilt (noReturn : '\r' ∉ text.toList) :
    '\r' ∉ (rebuilt text).toList ∧
      (linesOf (rebuilt text) = linesOf text ∨
        linesOf (rebuilt text) = [] ∧ linesOf text = [""]) := by
  have unending := unending_of_mem_lines noReturn
  have source : Text.joinLines (linesOf text) =
      String.ofList (Text.joined (Text.lines text.toList)) := Text.joinLines_map_ofList _
  unfold rebuilt
  dsimp only
  rw [source]
  by_cases nothing : Text.joined (Text.lines text.toList) = []
  · rw [nothing]
    refine ⟨by decide, ?_⟩
    unfold linesOf
    rcases Text.joined_eq_nil nothing with isNone | isEmpty
    · rw [isNone]
      exact .inl rfl
    · rw [isEmpty]
      exact .inr ⟨rfl, rfl⟩
  · have kept : (String.ofList (Text.joined (Text.lines text.toList))).isEmpty = false := by
      simpa using nothing
    have chars : (String.ofList (Text.joined (Text.lines text.toList)) ++ "\n").toList =
        Text.joined (Text.lines text.toList) ++ ['\n'] := by simp
    have someLines : Text.lines text.toList ≠ [] := fun isNone => nothing (isNone ▸ rfl)
    rw [kept, if_neg Bool.false_ne_true]
    refine ⟨?_, .inl ?_⟩
    · rw [chars, List.mem_append]
      exact not_or.mpr
        ⟨Text.not_mem_joined (by decide) fun line member => (unending line member).2, by decide⟩
    · rw [linesOf, chars, Text.lines_joined_newline someLines unending]
      rfl

/-! ### What is built and run again -/

/-- Settings that are turned off before the name of the command stay so. -/
theorem source_of_read_run {words : List String} {commandLine : CommandLine}
    (reads : CommandLine.read ("--no-rc" :: "run" :: words) = .ok commandLine) :
    commandLine.source = .skip := by
  have outer : CommandLine.readOuter false ("--no-rc" :: "run" :: words) .start =
      .ok ⟨⟨{ CommandLine.Given.nothing with noSettings := true }, none, false⟩,
        some (.run, words)⟩ := rfl
  obtain ⟨_, readsOuter, reads⟩ := bind_eq_ok.mp reads
  cases outer.symm.trans readsOuter
  obtain ⟨reading, -, reads⟩ := bind_eq_ok.mp reads
  obtain ⟨inner, -, reads⟩ := bind_eq_ok.mp reads
  obtain ⟨given, finished, assembled⟩ := bind_eq_ok.mp reads
  cases finished
  cases assembled
  exact if_pos (Bool.or_true inner.noSettings)

theorem answer_run_congr (noReturn : '\r' ∉ text.toList) (noReturn' : '\r' ∉ output.toList)
    (words : List String) {log : LogSettings}
    (alike : ∀ verbosity, Alike (log.logger verbosity) output text) :
    answer (surroundings.feeding output) ("--no-rc" :: "run" :: words) log =
      answer (surroundings.feeding text) ("--no-rc" :: "run" :: words) log := by
  unfold answer
  cases reads : CommandLine.read ("--no-rc" :: "run" :: words) with
  | error error => rfl
  | ok commandLine =>
    dsimp only
    rw [follow_congr noReturn noReturn' (alike _) (source_of_read_run reads)]

/-- The log of a run takes in no details, whatever its words ask for. -/
def LogSettings.IsCoarseFor (log : LogSettings) (words : List String) : Prop :=
  ∀ commandLine, CommandLine.read ("--no-rc" :: "run" :: words) = .ok commandLine →
    log.IsCoarse commandLine.verbosity

theorem answer_run_of_isCoarseFor {log : LogSettings} {words : List String}
    (coarse : log.IsCoarseFor words) :
    answer surroundings ("--no-rc" :: "run" :: words) log =
      answer surroundings ("--no-rc" :: "run" :: words) := by
  cases reads : CommandLine.read ("--no-rc" :: "run" :: words) with
  | error error =>
    unfold answer
    rw [reads]
  | ok commandLine =>
    exact answer_of_isCoarse surroundings reads (source_of_read_run reads) (coarse _ reads)

/-- Surroundings without a directory of the user and without files. -/
def Surroundings.bare : Surroundings := ⟨none, fun _ => .unopened "", []⟩

/-- A log without times. -/
def LogSettings.untimed : LogSettings := ⟨none, fun _ entry => entry.text⟩

end Program

end SlashScript
