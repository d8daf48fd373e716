/-
This file shows that the log of the program changes nothing else. A running command shows through a
projection as the command with the sink that shows there and without a log, since each of its
invocations does. For the program the projection leaves out the lines of the log: with them left
out, every command line prints the same pieces in the same order, and ends with the same status, as
if nothing was logged. The commands log nothing but details, so a log that takes in no details is
as good as none once the settings are loaded.
-/

import SlashScript.Program
import SlashScript.Proofs.Projections

namespace SlashScript

/-! ### Running commands -/

namespace Pipeline

variable {Whole Part : Type} {project : Whole → Part} {sink : Sink Whole} {shown : Sink Part}
  {logger : Logger Whole}

/-- What of a command shows. -/
def map (project : Whole → Part) (pipeline : Pipeline Whole) : Pipeline Part :=
  ⟨pipeline.session.map project, pipeline.gathering, pipeline.outcomes⟩

@[simp] theorem map_session (pipeline : Pipeline Whole) :
    (pipeline.map project).session = pipeline.session.map project := rfl

@[simp] theorem map_gathering (pipeline : Pipeline Whole) :
    (pipeline.map project).gathering = pipeline.gathering := rfl

theorem map_tell (unseen : logger.Unseen project) {events : List Logging.Event}
    (details : ∀ event ∈ events, event.isDetail) (pipeline : Pipeline Whole) :
    (pipeline.tell logger events).map project = pipeline.map project :=
  congrArg (Pipeline.mk · _ _) (Session.map_tell (unseen.within _) details pipeline.session)

theorem absorb_map (pipeline : Pipeline Whole)
    (invoked : Except Failure Outcome × Session Whole) :
    (pipeline.map project).absorb (Prod.map id (Session.map project) invoked) =
      Prod.map id (map project) (pipeline.absorb invoked) := by
  rcases invoked with ⟨reason | outcome, session⟩ <;> rfl

variable (projects : sink.Projects project shown) (unseen : logger.Unseen project)
  (options : RunOptions)

include projects unseen

theorem execute_map (script : Script) (pipeline : Pipeline Whole) :
    (pipeline.map project).execute shown options script =
      Prod.map id (map project) (pipeline.execute sink options script logger) := by
  have found : (pipeline.map project).session.engine.resolvePolicy
      (pipeline.map project).session.workspace options.errorAction =
        pipeline.session.engine.resolvePolicy pipeline.session.workspace options.errorAction := rfl
  unfold execute
  dsimp only
  rw [found]
  cases pipeline.session.engine.resolvePolicy pipeline.session.workspace options.errorAction with
  | error reason => rfl
  | ok action =>
    let told := pipeline.tell logger [Engine.resolution options.errorAction action]
    have same : told.map project = pipeline.map project :=
      map_tell unseen (List.all_eq_true.mp rfl) pipeline
    show (pipeline.map project).absorb
      ((pipeline.map project).session.invoke shown (options.request script action)) = _
    rw [← same, map_session, Session.invoke_map projects (unseen.within told.span), absorb_map]

theorem flush_map (pipeline : Pipeline Whole) :
    (pipeline.map project).flush shown options =
      Prod.map id (map project) (pipeline.flush sink options logger) := by
  let emptied := { pipeline with gathering := .empty }.tell logger [Engine.compilation]
  have same : emptied.map project = { pipeline.map project with gathering := .empty } :=
    map_tell unseen (List.all_eq_true.mp rfl) _
  unfold flush
  rw [map_gathering]
  split
  · rfl
  · cases Script.compile pipeline.gathering.text with
    | error reason => exact congrArg (Prod.mk _) same.symm
    | ok script =>
      show Pipeline.execute shown options script { pipeline.map project with gathering := .empty } =
        _
      rw [← same, ← map_tell unseen (List.all_eq_true.mp rfl : ∀ event ∈ [script.compiled], _)]
      exact execute_map projects unseen options script _

theorem process_map (input : RunInput) (pipeline : Pipeline Whole) :
    (pipeline.map project).process shown options input =
      Prod.map id (map project) (pipeline.process sink options input logger) := by
  cases input with
  | text fragment => rfl
  | script script =>
    unfold process
    dsimp only
    rw [flush_map projects unseen]
    rcases pipeline.flush sink options logger with ⟨reason | _, between⟩
    · rfl
    · exact execute_map projects unseen options script between

theorem processAll_map (inputs : List RunInput) (pipeline : Pipeline Whole) :
    processAll shown options inputs (pipeline.map project) =
      Prod.map id (Prod.map id (map project))
        (processAll sink options inputs pipeline logger) := by
  induction inputs generalizing pipeline with
  | nil => rfl
  | cons input inputs inductionHypothesis =>
    rw [processAll, processAll, process_map projects unseen]
    rcases pipeline.process sink options input logger with ⟨reason | _, between⟩
    · rfl
    · dsimp only [Prod.map, id]
      rw [inductionHypothesis]
      rfl

/-- A whole command shows as the command with the sink that shows, and without a log. -/
theorem runAll_map (inputs : List RunInput) (session : Session Whole) :
    runAll shown options inputs (session.map project) =
      ⟨(runAll sink options inputs session logger).accepted,
        (runAll sink options inputs session logger).result,
        (runAll sink options inputs session logger).session.map project⟩ := by
  have processed := processAll_map projects unseen options inputs (start session)
  have starts : start (session.map project) = (start session).map project := rfl
  unfold runAll
  rw [starts, processed]
  rcases processAll sink options inputs (start session) logger with ⟨accepted, reason | _, between⟩
  · rfl
  · have flushed := flush_map projects unseen options between
    dsimp only [Prod.map, id]
    rw [flushed]
    rcases between.flush sink options logger with ⟨reason | _, after⟩
    · rfl
    · rfl

end Pipeline

namespace Program

/-! ### Transcripts without the lines of the log -/

/-- Whether a piece is a line of the log. -/
def Printed.isLogged : Printed → Bool
  | .logged _ => true
  | .output _ | .error _ => false

@[simp] theorem Printed.isLogged_output (text : String) : (output text).isLogged = false := rfl

@[simp] theorem Printed.isLogged_error (text : String) : (error text).isLogged = false := rfl

@[simp] theorem Printed.isLogged_logged (text : String) : (logged text).isLogged = true := rfl

namespace Transcript

/-- What was printed, the lines of the log apart. -/
def withoutLog (transcript : Transcript) : Transcript :=
  ⟨transcript.pieces.filter fun piece => !piece.isLogged⟩

/-- What is printed for the user shows. -/
structure Shows (project : Transcript → Transcript) : Prop where
  empty : project empty = empty
  say : ∀ transcript line, project (transcript.say line) = (project transcript).say line
  complain : ∀ transcript line,
    project (transcript.complain line) = (project transcript).complain line

theorem shows_id : Shows id :=
  ⟨rfl, fun _ _ => rfl, fun _ _ => rfl⟩

theorem shows_withoutLog : Shows withoutLog where
  empty := rfl
  say transcript line := by simp [say, withoutLog]
  complain transcript line := by simp [complain, withoutLog]

theorem withoutLog_log (transcript : Transcript) (line : String) :
    (transcript.log line).withoutLog = transcript.withoutLog := by
  simp [log, withoutLog]

/-- The log is not on the standard output. -/
theorem standardOutput_withoutLog (transcript : Transcript) :
    transcript.withoutLog.standardOutput = transcript.standardOutput := by
  unfold withoutLog standardOutput
  rw [Array.toList_filter]
  induction transcript.pieces.toList with
  | nil => rfl
  | cons piece pieces inductionHypothesis =>
    cases piece <;> simp [inductionHypothesis]

variable {project : Transcript → Transcript}

theorem Shows.projects (shows : Shows project) : sink.Projects project sink where
  output event transcript := shows.say transcript event.value.toText
  report record transcript := shows.complain transcript s!"sb: error: {record.message}"
  inquire _ _ := rfl
  isCancelled _ := rfl

end Transcript

namespace LogSettings

variable (log : LogSettings) (verbosity : Nat)

theorem withoutLog_note (entries : List Logging.Entry) (transcript : Transcript) :
    ((log.logger verbosity).note entries transcript).withoutLog = transcript.withoutLog := by
  show Transcript.withoutLog ((entries.filter _).foldl _ transcript) = _
  induction entries.filter (log.lets verbosity) generalizing transcript with
  | nil => rfl
  | cons entry entries inductionHypothesis =>
    rw [List.foldl_cons, inductionHypothesis, Transcript.withoutLog_log]

/-- The log takes in no details. -/
def IsCoarse : Prop :=
  ∀ entry, entry.event.isDetail = true → log.lets verbosity entry = false

variable {log verbosity}

/-- Without a directive there are details in the log only if more logging was asked for twice. -/
theorem isCoarse_of_verbosity (undirected : log.directive = none) (few : verbosity ≤ 1) :
    log.IsCoarse verbosity := by
  intro entry detail
  have fine : entry.event.level.isWithin .info = false := by
    simpa [Logging.Event.isDetail] using detail
  unfold lets
  rw [undirected]
  cases verbosity with
  | zero =>
    show entry.event.level.isWithin .warn = false
    cases level : entry.event.level <;> rw [level] at fine <;> first | rfl | cases fine
  | succ verbosity =>
    obtain rfl : verbosity = 0 := by omega
    exact fine

theorem IsCoarse.unseen (coarse : log.IsCoarse verbosity) :
    (log.logger verbosity).Unseen id := by
  intro entries details transcript
  have nothing : entries.filter (log.lets verbosity) = [] :=
    List.filter_eq_nil_iff.mpr fun entry member =>
      ne_true_of_eq_false (coarse entry (details entry member))
  show (entries.filter _).foldl _ transcript = transcript
  rw [nothing]
  rfl

theorem logger_off : off.logger verbosity = .silent := by
  refine congrArg Logger.mk (funext fun entries => funext fun transcript => ?_)
  have nothing : entries.filter (off.lets verbosity) = [] :=
    List.filter_eq_nil_iff.mpr fun _ _ => Bool.false_ne_true
  rw [nothing]
  rfl

end LogSettings

/-! ### The program -/

variable {project : Transcript → Transcript} {logger : Logger Transcript}

section

variable (shows : Transcript.Shows project) (surroundings : Surroundings)

include shows

theorem readSettings_map (hidden : ∀ entries transcript,
      project (logger.note entries transcript) = project transcript)
    (path : String) (transcript : Transcript) :
    readSettings surroundings .silent path (project transcript) =
      (readSettings surroundings logger path transcript).map (Prod.map id project) := by
  have complaining (errors : List SettingsError) (transcript : Transcript) :
      errors.foldl (fun transcript error => transcript.complain s!"sb: {path}: {error.display}")
          (project transcript) =
        project (errors.foldl (fun transcript error =>
          (logger.tell [warning path error] transcript).complain s!"sb: {path}: {error.display}")
            transcript) := by
    induction errors generalizing transcript with
    | nil => rfl
    | cons error errors inductionHypothesis =>
      rw [List.foldl_cons, List.foldl_cons, ← inductionHypothesis, shows.complain]
      exact congrArg (List.foldl _ · errors) (congrArg (Transcript.complain · _) (hidden _ _).symm)
  unfold readSettings
  cases surroundings.file path with
  | unopened reason => rfl
  | unread reason => rfl
  | content bytes =>
    cases decoded : Text.ofBytes? bytes with
    | none => simp only [decoded]; rfl
    | some text =>
      simp only [decoded]
      rcases Settings.load text with ⟨settings, errors⟩
      have started : project transcript = project (logger.tell [loading path] transcript) :=
        (hidden _ _).symm
      show Except.ok (settings, errors.foldl _ (project transcript)) = _
      rw [started]
      exact congrArg (fun printed => Except.ok (settings, printed)) (complaining errors _)

variable (unseen : logger.Unseen project)

include unseen

theorem build_map (file : Option String) (transcript : Transcript) :
    build surroundings .silent file (project transcript) =
      Prod.map id project (build surroundings logger file transcript) := by
  unfold build
  cases readLines surroundings file with
  | error reason => rfl
  | ok lines =>
    cases built : buildScript (lines.map .line) with
    | error reason => simp only [built]; rfl
    | ok script =>
      let told := logger.tell [script.compiled, script.builtFrom lines.length] transcript
      have same : project told = project transcript :=
        unseen.tell (List.all_eq_true.mp rfl) transcript
      simp only [built]
      show (_, if script.source.isEmpty then project transcript
        else (project transcript).say script.source) =
          (_, project (if script.source.isEmpty then told else told.say script.source))
      rw [← same, ← shows.say]
      split <;> rfl

theorem runTexts_map (options : RunOptions) (texts : List String)
    (pipeline : Pipeline Transcript) :
    runTexts options .silent texts (pipeline.map project) =
      Prod.map id (Pipeline.map project) (runTexts options logger texts pipeline) := by
  induction texts generalizing pipeline with
  | nil => rfl
  | cons text texts inductionHypothesis =>
    unfold runTexts
    cases Script.compile text with
    | error reason => rfl
    | ok script =>
      let told := { pipeline with session := pipeline.session.tell logger [script.compiled] }
      have same : told.map project = pipeline.map project :=
        congrArg (Pipeline.mk · _ _)
          (Session.map_tell unseen (List.all_eq_true.mp rfl) pipeline.session)
      have processed := Pipeline.process_map shows.projects unseen options (.script script) told
      rw [same] at processed
      have silent : { pipeline.map project with
          session := (pipeline.map project).session.tell .silent [script.compiled] } =
            pipeline.map project := rfl
      dsimp only
      rw [silent, processed]
      rcases told.process sink options (.script script) logger with ⟨reason | _, after⟩
      · rfl
      · exact inductionHypothesis after

theorem run_map (file : Option String) (texts : List String) (options : RunOptions)
    (session : Session Transcript) :
    run surroundings .silent file texts options (session.map project) =
      Prod.map id project (run surroundings logger file texts options session) := by
  have ran := runTexts_map shows unseen options texts (.start session)
  unfold run
  have starts : Pipeline.start (session.map project) = (Pipeline.start session).map project := rfl
  rw [starts, ran]
  rcases runTexts options logger texts (.start session) with ⟨reason | _, between⟩
  · rfl
  · dsimp only [Prod.map, id]
    split
    · rfl
    · cases readLines surroundings file with
      | error reason => rfl
      | ok lines =>
        dsimp only
        rw [Pipeline.map_session, Pipeline.runAll_map shows.projects unseen]
        rfl

/-- If the settings are loaded alike, a command line is followed alike. -/
theorem follow_map {commandLine : CommandLine}
    (loaded : loadSettings surroundings .silent commandLine.source .empty =
      (loadSettings surroundings logger commandLine.source .empty).map (Prod.map id project)) :
    follow surroundings .silent commandLine =
      Prod.map id project (follow surroundings logger commandLine) := by
  unfold follow
  rw [loaded]
  rcases loadSettings surroundings logger commandLine.source .empty with
    reason | ⟨settings, transcript⟩
  · exact congrArg (Prod.mk _) shows.empty.symm
  · dsimp only [Except.map, Prod.map, id]
    cases commandLine.command with
    | build file => exact build_map shows surroundings unseen file transcript
    | run file texts options =>
      exact run_map shows surroundings unseen file texts options
        ⟨.ofSettings settings.engine, settings.apply .initial, transcript⟩

end

/-! ### The whole program -/

/-- The end of the program, the lines of the log apart. -/
def Finished.withoutLog (finished : Finished) : Finished :=
  ⟨finished.status, finished.transcript.withoutLog⟩

theorem answerUsage_withoutLog (error : UsageError) :
    (answerUsage error).withoutLog = answerUsage error := by
  cases error <;> rfl

/-- A log adds its lines and changes nothing else. -/
theorem answer_withoutLog (surroundings : Surroundings) (words : List String)
    (log : LogSettings) :
    (answer surroundings words log).withoutLog = answer surroundings words := by
  unfold answer
  cases CommandLine.read words with
  | error error => exact answerUsage_withoutLog error
  | ok commandLine =>
    have hidden := log.withoutLog_note commandLine.verbosity
    have loaded : loadSettings surroundings .silent commandLine.source .empty =
        (loadSettings surroundings (log.logger commandLine.verbosity) commandLine.source
          .empty).map (Prod.map id Transcript.withoutLog) := by
      unfold loadSettings
      cases settingsPath? surroundings commandLine.source with
      | none => rfl
      | some path =>
        exact readSettings_map Transcript.shows_withoutLog surroundings hidden path .empty
    have followed := follow_map Transcript.shows_withoutLog surroundings
      (fun entries _ => hidden entries) loaded
    dsimp only
    rw [LogSettings.logger_off, followed]
    rcases follow surroundings (log.logger commandLine.verbosity) commandLine with
      ⟨reason | _, transcript⟩
    · exact congrArg (Finished.mk 1) (Transcript.shows_withoutLog.complain transcript _)
    · rfl

/-- Two ends of the program differ in lines of the log at most. -/
structure Finished.SameApartFromLog (first second : Finished) : Prop where
  status : first.status = second.status
  standardOutput : first.transcript.standardOutput = second.transcript.standardOutput
  transcript : first.transcript.withoutLog = second.transcript.withoutLog

theorem Finished.SameApartFromLog.of_withoutLog {first second : Finished}
    (same : first.withoutLog = second.withoutLog) : first.SameApartFromLog second where
  status := (congrArg Finished.status same :)
  standardOutput := by
    rw [← first.transcript.standardOutput_withoutLog,
      ← second.transcript.standardOutput_withoutLog]
    exact congrArg (fun ended : Finished => ended.transcript.standardOutput) same
  transcript := (congrArg Finished.transcript same :)

/-- The program comes to the same with every log. -/
theorem answer_sameApartFromLog (surroundings : Surroundings) (words : List String)
    (log : LogSettings) :
    (answer surroundings words log).SameApartFromLog (answer surroundings words) :=
  .of_withoutLog
    ((answer_withoutLog surroundings words log).trans
      (answer_withoutLog surroundings words .off).symm)

/-- Without a settings file, a log without details is empty. -/
theorem answer_of_isCoarse (surroundings : Surroundings) {words : List String}
    {commandLine : CommandLine} (reads : CommandLine.read words = .ok commandLine)
    (skips : commandLine.source = .skip) {log : LogSettings}
    (coarse : log.IsCoarse commandLine.verbosity) :
    answer surroundings words log = answer surroundings words := by
  have loaded : loadSettings surroundings .silent commandLine.source .empty =
      (loadSettings surroundings (log.logger commandLine.verbosity) commandLine.source
        .empty).map (Prod.map id id) := by
    rw [skips]
    rfl
  have followed := follow_map Transcript.shows_id surroundings coarse.unseen loaded
  unfold answer
  rw [reads]
  dsimp only
  rw [LogSettings.logger_off, followed]
  rfl

end Program

end SlashScript
