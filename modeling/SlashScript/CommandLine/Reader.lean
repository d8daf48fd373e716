/-
Reading a command line. Its words come in two stages, those before the name of the command and
those after it, and each stage knows its own options. An option takes its value from the same
word or from the next one. A value in a word of its own waits: it is stored, and found good or
bad, when the next option or operand is met or the stage ends. After a word of two dashes every
word is an operand.
-/

import SlashScript.CommandLine.Basic

namespace SlashScript

namespace CommandLine

/-! ### Options -/

/-- The stages of a command line. -/
inductive Stage where
  /-- Before the name of the command. -/
  | outer
  | build
  | run
  deriving DecidableEq

/-- The options. -/
inductive Switch where
  | settings
  | noSettings
  | verbose
  | help
  | version
  | text
  | argument
  | noNewScope
  | errorAction
  deriving DecidableEq

namespace Switch

/-- Whether an option is known at a stage. -/
def isKnownAt (stage : Stage) : Switch → Bool
  | settings | noSettings | verbose | help => true
  | version => stage = .outer
  | text | argument | noNewScope | errorAction => stage = .run

/-- Whether an option has a value. -/
def takesValue : Switch → Bool
  | settings | text | argument | errorAction => true
  | noSettings | verbose | help | version | noNewScope => false

/-- The option that is written with two dashes and this name. -/
def ofLongName? : String → Option Switch
  | "rc" => some settings
  | "no-rc" => some noSettings
  | "verbose" => some verbose
  | "help" => some help
  | "version" => some version
  | "command" => some text
  | "arg" => some argument
  | "no-new-scope" => some noNewScope
  | "error-action" => some errorAction
  | _ => none

/-- The option that is written with one dash and this letter. -/
def ofLetter? : Char → Option Switch
  | 'v' => some verbose
  | 'h' => some help
  | 'V' => some version
  | 'c' => some text
  | 'a' => some argument
  | _ => none

end Switch

/-- What has a value: an option, or the operand that names a file. -/
inductive Slot where
  | switch (switch : Switch)
  | file

/-! ### What was given -/

/-- What was given at one stage. -/
structure Given where
  settings : Option String
  noSettings : Bool
  /-- The number of requests for more logging, if there were any. -/
  verbosity : Option Nat
  file : Option String
  texts : List String
  arguments : List String
  noNewScope : Bool
  errorAction : Option ErrorAction

namespace Given

/-- Nothing. -/
def nothing : Given := ⟨none, false, none, none, [], [], false, none⟩

/-- The greatest number of requests for more logging that is told apart from greater ones. -/
def greatestVerbosity : Nat := 255

/-- A path, which has at least one character. -/
def readPath (text : String) : Except UsageError String :=
  if text.isEmpty then .error .invalidValue else .ok text

/-- Stores the value of an option or operand. -/
def store (given : Given) (slot : Slot) (value : String) : Except UsageError Given :=
  match slot with
  | .switch .settings =>
    if given.settings.isSome then .error .argumentConflict
    else (readPath value).map fun path => { given with settings := some path }
  | .switch .errorAction =>
    if given.errorAction.isSome then .error .argumentConflict
    else
      match ErrorAction.ofText? value with
      | some action => .ok { given with errorAction := some action }
      | none => .error .valueValidation
  | .switch .text => .ok { given with texts := given.texts ++ [value] }
  | .switch .argument => .ok { given with arguments := given.arguments ++ [value] }
  | .switch _ => .error .tooManyValues
  | .file => (readPath value).map fun path => { given with file := some path }

/-- Takes note of an option without a value. -/
def note (given : Given) : Switch → Except UsageError Given
  | .help => .error .helpRequest
  | .version => .error .versionRequest
  | .verbose =>
    .ok { given with verbosity := some (min (given.verbosity.getD 0 + 1) greatestVerbosity) }
  | .noSettings =>
    if given.noSettings then .error .argumentConflict else .ok { given with noSettings := true }
  | .noNewScope =>
    if given.noNewScope then .error .argumentConflict else .ok { given with noNewScope := true }
  | _ => .error .invalidValue

/-- Accepts what was given at a stage unless two options exclude each other. -/
def check (given : Given) : Except UsageError Given :=
  if given.settings.isSome && given.noSettings then .error .argumentConflict else .ok given

/-- Whether no option was given before the name of the command. -/
def isNothing (given : Given) : Bool :=
  given.settings.isNone && !given.noSettings && given.verbosity.isNone

end Given

/-! ### Words -/

/-- A stage that is being read. -/
structure Reading where
  given : Given
  /-- What the last words left to be stored, with its value if that was met. -/
  pending : Option (Slot × Option String)
  /-- Whether the operand was met. -/
  hasOperand : Bool

namespace Reading

/-- A stage before its first word. -/
def start : Reading := ⟨.nothing, none, false⟩

/-- What was given so far, with what was left to be stored. -/
def settle (reading : Reading) : Except UsageError Given :=
  match reading.pending with
  | none => .ok reading.given
  | some (_, none) => .error .invalidValue
  | some (slot, some value) => reading.given.store slot value

/-- The option that waits for its value. -/
def awaiting? (reading : Reading) : Option Switch :=
  match reading.pending with
  | some (.switch switch, none) => some switch
  | _ => none

/-- Meets an option that has its value in the next word. -/
def await (reading : Reading) (switch : Switch) : Except UsageError Reading :=
  reading.settle.map fun given =>
    { reading with given := given, pending := some (.switch switch, none) }

/-- Meets an option with its value. -/
def attach (reading : Reading) (switch : Switch) (value : List Char) :
    Except UsageError Reading := do
  let given ← reading.settle
  let given ← given.store (.switch switch) (String.ofList value)
  pure { reading with given := given, pending := none }

/-- Meets an option without a value. -/
def meet (reading : Reading) (switch : Switch) : Except UsageError Reading := do
  let given ← reading.settle
  let given ← given.note switch
  pure { reading with given := given, pending := none }

/-- Reads a word after its two dashes. -/
def readLong (stage : Stage) (reading : Reading) (body : List Char) :
    Except UsageError Reading :=
  let name := body.takeWhile (· != '=')
  let value := (body.dropWhile (· != '=')).tail?
  match (Switch.ofLongName? (String.ofList name)).filter (Switch.isKnownAt stage) with
  | none => .error .unknownArgument
  | some switch =>
    match switch.takesValue, value with
    | true, none => reading.await switch
    | true, some value => reading.attach switch value
    | false, none => reading.meet switch
    | false, some _ => .error .tooManyValues

/-- Reads the letters of a word after its dash. The first letter of an option with a value ends
the options of the word, and what follows it is the value. -/
def readLetters (stage : Stage) : List Char → Reading → Except UsageError Reading
  | [], reading => .ok reading
  | letter :: rest, reading =>
    match (Switch.ofLetter? letter).filter (Switch.isKnownAt stage) with
    | none => .error .unknownArgument
    | some switch =>
      if switch.takesValue then
        match rest with
        | [] => reading.await switch
        | '=' :: value => reading.attach switch value
        | value => reading.attach switch value
      else do
        let reading ← reading.meet switch
        readLetters stage rest reading

/-- Meets an operand. -/
def readOperand (reading : Reading) (word : String) : Except UsageError Reading :=
  if reading.hasOperand then .error .unknownArgument
  else reading.settle.map fun given => ⟨given, some (.file, some word), true⟩

end Reading

/-! ### Stages -/

/-- The names that end the outer stage. -/
inductive Verb where
  | build
  | run
  | help
  deriving DecidableEq

namespace Verb

/-- The verb with this name. -/
def ofName? : String → Option Verb
  | "build" => some build
  | "run" => some run
  | "help" => some help
  | _ => none

end Verb

/-- What a word is taken for. -/
inductive Word where
  | escape
  | long (body : List Char)
  | letters (body : List Char)
  | plain

namespace Word

/-- What a word is taken for when it is not known to be an operand. A single dash is no option. -/
def ofText (text : String) : Word :=
  match text.toList with
  | ['-', '-'] => escape
  | '-' :: '-' :: body => long body
  | ['-'] => plain
  | '-' :: body => letters body
  | _ => plain

end Word

/-- Reads the words after the name of a command. -/
def readInner (stage : Stage) (escaped : Bool) :
    List String → Reading → Except UsageError Reading
  | [], reading => .ok reading
  | word :: rest, reading =>
    if escaped then do
      let reading ← reading.readOperand word
      readInner stage true rest reading
    else
      match Word.ofText word with
      | .escape => readInner stage true rest reading
      | .long body => do
        let reading ← reading.readLong stage body
        readInner stage false rest reading
      | .letters body => do
        let reading ← Reading.readLetters stage body reading
        readInner stage false rest reading
      | .plain =>
        match reading.awaiting? with
        | some switch =>
          readInner stage false rest { reading with pending := some (.switch switch, some word) }
        | none => do
          let reading ← reading.readOperand word
          readInner stage false rest reading

/-- The outer stage with the verb that ended it and the words after that, if there was one. -/
structure Outer where
  reading : Reading
  command : Option (Verb × List String)

/-- Reads the words up to the name of a command. -/
def readOuter (escaped : Bool) : List String → Reading → Except UsageError Outer
  | [], reading => .ok ⟨reading, none⟩
  | word :: rest, reading =>
    if escaped then
      .error (if (Verb.ofName? word).isSome then .unknownArgument else .invalidSubcommand)
    else
      match Word.ofText word with
      | .escape => readOuter true rest reading
      | .long body => do
        let reading ← reading.readLong .outer body
        readOuter false rest reading
      | .letters body => do
        let reading ← Reading.readLetters .outer body reading
        readOuter false rest reading
      | .plain =>
        match reading.awaiting?, Verb.ofName? word with
        | some switch, _ =>
          readOuter false rest { reading with pending := some (.switch switch, some word) }
        | none, some verb => .ok ⟨reading, some (verb, rest)⟩
        | none, none => .error .invalidSubcommand

/-- The answer to a request for help about what the words name. -/
def helpOn : List String → UsageError
  | [] => .helpRequest
  | [word] => if (Verb.ofName? word).isSome then .helpRequest else .invalidSubcommand
  | _ => .invalidSubcommand

/-- What was given before the name of a command, completed by what was given after it, which
counts more. -/
def assemble (outer inner : Given) (command : Command) : CommandLine where
  source :=
    if inner.noSettings || outer.noSettings then .skip
    else
      match inner.settings.or outer.settings with
      | some path => .explicit path
      | none => .search
  verbosity := (inner.verbosity.or outer.verbosity).getD 0
  command := command

/-- The options of the running command. Arguments get their types from their texts. -/
def runOptions (given : Given) : RunOptions where
  arguments := if given.arguments.isEmpty then none else some (given.arguments.map Value.ofText)
  noNewScope := given.noNewScope
  errorAction := given.errorAction

/-- What was given at a stage, all its words read. -/
def finish (reading : Reading) : Except UsageError Given := do
  let given ← reading.settle
  given.check

/-- Reads a command line. What was given after the name of a command is judged before the rest of
what was given before it. -/
def read (words : List String) : Except UsageError CommandLine := do
  let outer ← readOuter false words .start
  match outer.command with
  | none =>
    let given ← outer.reading.settle
    throw (if given.isNothing then .nothingGiven else .missingSubcommand)
  | some (.help, rest) => throw (helpOn rest)
  | some (.build, rest) =>
    let reading ← readInner .build false rest .start
    let inner ← finish reading
    let given ← finish outer.reading
    pure (assemble given inner (.build inner.file))
  | some (.run, rest) =>
    let reading ← readInner .run false rest .start
    let inner ← finish reading
    let given ← finish outer.reading
    pure (assemble given inner (.run inner.file inner.texts (runOptions inner)))

end CommandLine

end SlashScript
