/-
The program: from a command line, the files and the standard input to what is printed and the
status at the end. Values go to the standard output, one to a line; everything else goes to the
standard error output: what the user is told, behind the name of the program, and the lines of the
log. Nobody is there to be asked, so every inquiry is answered with no, and nobody interrupts the
program. How a line of the log is written, its time included, and which entries the directive of
the environment asks for is left open.
-/

import SlashScript.CommandLine.Reader
import SlashScript.Text.Bytes

namespace SlashScript

namespace Program

/-! ### Surroundings -/

/-- What opening and reading a file gives. -/
inductive FileAnswer where
  | content (bytes : List UInt8)
  /-- The file cannot be opened. -/
  | unopened (reason : String)
  /-- The file can be opened but not read. -/
  | unread (reason : String)

/-- What the program finds around it. -/
structure Surroundings where
  /-- The directory of the user. -/
  home : Option String
  file : String → FileAnswer
  standardInput : List UInt8

/-- The reason for which bytes that are no text in UTF-8 cannot be read. -/
def notText : String := "stream did not contain valid UTF-8"

/-! ### Printing -/

/-- A piece of output. -/
inductive Printed where
  | output (text : String)
  | error (text : String)
  /-- A line of the log. -/
  | logged (text : String)

/-- What was printed, in order. -/
structure Transcript where
  pieces : Array Printed

namespace Transcript

/-- Nothing was printed. -/
def empty : Transcript := ⟨#[]⟩

/-- Prints a line on the standard output. -/
def say (transcript : Transcript) (line : String) : Transcript :=
  ⟨transcript.pieces.push (.output (line ++ "\n"))⟩

/-- Prints a line on the standard error output. -/
def complain (transcript : Transcript) (line : String) : Transcript :=
  ⟨transcript.pieces.push (.error (line ++ "\n"))⟩

/-- Writes a line of the log, on the standard error output. -/
def log (transcript : Transcript) (line : String) : Transcript :=
  ⟨transcript.pieces.push (.logged (line ++ "\n"))⟩

/-- What went to the standard output. -/
def standardOutput (transcript : Transcript) : String :=
  String.join (transcript.pieces.toList.map fun
    | .output text => text
    | .error _ | .logged _ => "")

/-- What went to the standard error output. -/
def standardError (transcript : Transcript) : String :=
  String.join (transcript.pieces.toList.map fun
    | .output _ => ""
    | .error text | .logged text => text)

end Transcript

/-! ### Logging -/

/-- How the log is written. -/
structure LogSettings where
  /-- The entries that the directive of the environment asks for, if there is one that can be
  read. -/
  directive : Option (Logging.Entry → Bool)
  /-- The line of an entry, by the number of pieces that were printed before it. -/
  line : Nat → Logging.Entry → String

namespace LogSettings

/-- Nothing is written. -/
def off : LogSettings := ⟨some fun _ => false, fun _ => Logging.Entry.text⟩

/-- The entries that a directive asks for, if it names a level or turns the log off. Directives for
single parts of the program are not understood. -/
def directive? (text : String) : Option (Logging.Entry → Bool) :=
  if text.toList.map Char.toLower = "off".toList then some fun _ => false
  else (Logging.Level.ofName? text).map fun limit entry => entry.event.level.isWithin limit

/-- Whether an entry is written. Without a directive it is decided by how often more logging was
asked for. -/
def lets (settings : LogSettings) (verbosity : Nat) (entry : Logging.Entry) : Bool :=
  match settings.directive with
  | some asks => asks entry
  | none => entry.event.level.isWithin (.ofVerbosity verbosity)

/-- The logger of the program. -/
def logger (settings : LogSettings) (verbosity : Nat) : Logger Transcript where
  note entries transcript :=
    (entries.filter (settings.lets verbosity)).foldl
      (fun transcript entry => transcript.log (settings.line transcript.pieces.size entry))
      transcript

end LogSettings

/-- Prints values and errors, and answers every inquiry with no. -/
def sink : Sink Transcript where
  output event transcript := transcript.say event.value.toText
  report record transcript := transcript.complain s!"sb: error: {record.message}"
  inquire _ transcript := (false, transcript)
  isCancelled _ := false

/-- The reasons for which the program fails. -/
inductive Failed where
  | settings (path reason : String)
  | opening (path reason : String)
  | reading (reason : String)
  /-- The lines do not make a script. -/
  | building (reason : CompileError)
  /-- A text on the command line is no script. -/
  | text (source : String) (reason : CompileError)
  | running (reason : Failure)

namespace Failed

/-- The text of the failure. A script that does not compile while it is to be run is refused with
the reason and the cause of the reason, which say the same. -/
def message : Failed → String
  | settings path reason => s!"can't read rc file {path}: {reason}"
  | opening path reason => s!"can't open {path}: {reason}"
  | reading reason => reason
  | building reason => reason.display
  | text source reason => s!"in -c {Text.quoted source}: {reason.display}"
  | running (.compile reason) => s!"{(Failure.compile reason).message}: {reason.display}"
  | running reason => reason.message

end Failed

/-! ### Settings -/

/-- The usual places of the settings file, the first of them first. -/
def settingsPaths (home : Option String) : List String :=
  match home with
  | some home => [home ++ "/.config/scriptblock/sbrc", home ++ "/.sbrc", "./.sbrc"]
  | none => ["./.sbrc"]

/-- Whether there is a file. -/
def Surroundings.hasFile (surroundings : Surroundings) (path : String) : Bool :=
  match surroundings.file path with
  | .unopened _ => false
  | _ => true

/-- The path of the settings file, if one is to be read. -/
def settingsPath? (surroundings : Surroundings) : SettingsSource → Option String
  | .skip => none
  | .explicit path => some path
  | .search => (settingsPaths surroundings.home).find? surroundings.hasFile

/-- What the log tells of a settings file that was read. -/
def loading (path : String) : Logging.Event :=
  ⟨.debug, "scriptblock::config", "loading rc file", [("path", path)]⟩

/-- What the log tells of a directive that cannot be followed. -/
def warning (path : String) (error : SettingsError) : Logging.Event :=
  ⟨.warn, "sb", error.message, [("path", path), ("line", toString error.line)]⟩

/-- The settings of a file. Directives that cannot be followed are complained about. -/
def readSettings (surroundings : Surroundings) (logger : Logger Transcript) (path : String)
    (transcript : Transcript) : Except Failed (Settings × Transcript) :=
  match surroundings.file path with
  | .unopened reason => .error (.settings path reason)
  | .unread reason => .error (.settings path reason)
  | .content bytes =>
    match Text.ofBytes? bytes with
    | none => .error (.settings path notText)
    | some text =>
      let (settings, errors) := Settings.load text
      .ok (settings, errors.foldl (fun transcript error =>
        (logger.tell [warning path error] transcript).complain s!"sb: {path}: {error.display}")
          (logger.tell [loading path] transcript))

/-- The settings to start from. -/
def loadSettings (surroundings : Surroundings) (logger : Logger Transcript)
    (source : SettingsSource) (transcript : Transcript) : Except Failed (Settings × Transcript) :=
  match settingsPath? surroundings source with
  | none => .ok (.standard, transcript)
  | some path => readSettings surroundings logger path transcript

/-! ### Commands -/

/-- The bytes of a file, or of the standard input. -/
def readBytes (surroundings : Surroundings) : Option String → Except Failed (List UInt8)
  | none => .ok surroundings.standardInput
  | some path =>
    match surroundings.file path with
    | .content bytes => .ok bytes
    | .unopened reason => .error (.opening path reason)
    | .unread reason => .error (.reading reason)

/-- The lines of a file, or of the standard input. -/
def readLines (surroundings : Surroundings) (file : Option String) :
    Except Failed (List String) := do
  let bytes ← readBytes surroundings file
  (Text.byteLines bytes).mapM fun line =>
    match Text.ofBytes? line with
    | some text => .ok text
    | none => .error (.reading notText)

/-- Builds a script and prints its text, unless that is empty. -/
def build (surroundings : Surroundings) (logger : Logger Transcript) (file : Option String)
    (transcript : Transcript) : Except Failed Unit × Transcript :=
  match readLines surroundings file with
  | .error reason => (.error reason, transcript)
  | .ok lines =>
    match buildScript (lines.map .line) with
    | .error reason => (.error (.building reason), transcript)
    | .ok script =>
      let transcript := logger.tell [script.compiled, script.builtFrom lines.length] transcript
      (.ok (), if script.source.isEmpty then transcript else transcript.say script.source)

/-- Runs texts as scripts, one after the other. -/
def runTexts (options : RunOptions) (logger : Logger Transcript) :
    List String → Pipeline Transcript → Except Failed Unit × Pipeline Transcript
  | [], pipeline => (.ok (), pipeline)
  | text :: texts, pipeline =>
    match Script.compile text with
    | .error reason => (.error (.text text reason), pipeline)
    | .ok script =>
      let pipeline := { pipeline with session := pipeline.session.tell logger [script.compiled] }
      match pipeline.process sink options (.script script) logger with
      | (.error reason, pipeline) => (.error (.running reason), pipeline)
      | (.ok (), pipeline) => runTexts options logger texts pipeline

/-- Runs texts and then, if there are none or a file is named, the lines of the file or of the
standard input. -/
def run (surroundings : Surroundings) (logger : Logger Transcript) (file : Option String)
    (texts : List String) (options : RunOptions) (session : Session Transcript) :
    Except Failed Unit × Transcript :=
  match runTexts options logger texts (.start session) with
  | (.error reason, pipeline) => (.error reason, pipeline.session.outside)
  | (.ok (), pipeline) =>
    if file.isNone && !texts.isEmpty then (.ok (), pipeline.session.outside)
    else
      match readLines surroundings file with
      | .error reason => (.error reason, pipeline.session.outside)
      | .ok lines =>
        let report := Pipeline.runAll sink options (lines.map fun line => .text (.line line))
          pipeline.session logger
        (report.result.mapError .running |>.map fun _ => (), report.session.outside)

/-- Follows a command line. -/
def follow (surroundings : Surroundings) (logger : Logger Transcript) (commandLine : CommandLine) :
    Except Failed Unit × Transcript :=
  match loadSettings surroundings logger commandLine.source .empty with
  | .error reason => (.error reason, .empty)
  | .ok (settings, transcript) =>
    match commandLine.command with
    | .build file => build surroundings logger file transcript
    | .run file texts options =>
      run surroundings logger file texts options
        ⟨.ofSettings settings.engine, settings.apply .initial, transcript⟩

/-! ### The whole program -/

/-- The end of the program. -/
structure Finished where
  status : Nat
  transcript : Transcript

/-- The name and the version of the program. -/
def version : String := "sb 0.1.0"

/-- How the program is used. -/
def usage : String :=
  Text.joinLines [
    "Build script units from text and run them in nested sessions",
    "",
    "Usage: sb [--rc FILE | --no-rc] [-v]... build [FILE]",
    "       sb [--rc FILE | --no-rc] [-v]... run [FILE] [-c SCRIPT]... [-a ARG]...",
    "          [--no-new-scope] [--error-action ACTION]"]

/-- What is printed instead of following a command line. -/
def answerUsage (error : UsageError) : Finished :=
  let text := match error with
    | .versionRequest => version
    | _ => usage
  if error.isRequest then ⟨0, Transcript.empty.say text⟩
  else ⟨2, Transcript.empty.complain text⟩

/-- Runs the program. -/
def answer (surroundings : Surroundings) (words : List String) (log : LogSettings := .off) :
    Finished :=
  match CommandLine.read words with
  | .error error => answerUsage error
  | .ok commandLine =>
    match follow surroundings (log.logger commandLine.verbosity) commandLine with
    | (.ok (), transcript) => ⟨0, transcript⟩
    | (.error reason, transcript) => ⟨1, transcript.complain s!"sb: {reason.message}"⟩

/-! ### What a command line needs -/

/-- The paths that a command line may make the program look at. -/
def pathsOf (home : Option String) (commandLine : CommandLine) : List String :=
  let settings := match commandLine.source with
    | .skip => []
    | .explicit path => [path]
    | .search => settingsPaths home
  let file := match commandLine.command with
    | .build file => file
    | .run file _ _ => file
  settings ++ file.toList

/-- Whether a command line makes the program read its standard input. -/
def readsInput (commandLine : CommandLine) : Bool :=
  match commandLine.command with
  | .build file => file.isNone
  | .run file texts _ => file.isNone && texts.isEmpty

end Program

end SlashScript
