/-
From the texts of statements to a script. Each text is a command, with a slash before its name,
or else a line to be emitted. The commands that open a block and those that close one are
followed with a stack of the blocks that are open at one place: a statement joins the innermost
of them, an opener puts one on the stack, and a closer takes one off and makes it a statement of
the block around it. The first text that does not fit is refused with the number of its line.
-/

import SlashScript.Statement.Basic
import SlashScript.Statement.Layout

namespace SlashScript

/-- The reasons for which a word is no name of a variable. -/
inductive NameError where
  | missing
  | invalid (name : String)

/-- The reasons for which a statement is refused. -/
inductive CompileCause where
  | template (reason : TemplateError)
  | expression (command : String) (reason : SyntaxError)
  | needsExpression (command : String)
  | name (command : String) (reason : NameError)
  | paramWithoutNames
  | forUsage
  | leaveLoopArguments
  | unknownCommand (command : String)
  | nestedTooDeeply
  | strayCloser (command : String)
  | unclosed (opener closer : String)

/-- A refused statement: the line it starts on and the reason. -/
structure CompileError where
  line : Nat
  cause : CompileCause

namespace NameError

/-- The text of a refusal. -/
def message : NameError → String
  | missing => "missing variable name"
  | invalid name => s!"invalid variable name {Text.quoted name}"

end NameError

namespace CompileError

/-- The text of a refusal, without its line. -/
def message (error : CompileError) : String :=
  match error.cause with
  | .template reason => reason.message
  | .expression command reason => s!"/{command}: {reason.message}"
  | .needsExpression command => s!"/{command} needs an expression"
  | .name command reason => s!"/{command}: {reason.message}"
  | .paramWithoutNames => "/param needs at least one name"
  | .forUsage => "usage: /for var start end"
  | .leaveLoopArguments => "/break takes no arguments"
  | .unknownCommand command => s!"unknown command /{command}"
  | .nestedTooDeeply => "blocks nested too deeply"
  | .strayCloser command => s!"/{command} without matching opener"
  | .unclosed opener closer => s!"/{opener} without /{closer}"

/-- The text of a refusal with its line. -/
def display (error : CompileError) : String :=
  s!"line {error.line}: {error.message}"

end CompileError

namespace Statement

/-! ### The parts of a statement -/

/-- The name of a command and what follows it; nothing for a line without a command. -/
def splitCommand : List Char → Option (String × List Char)
  | '/' :: rest =>
    some (String.ofList (rest.takeWhile (!Text.isBlank ·)),
      Text.trim (rest.dropWhile (!Text.isBlank ·)))
  | _ => none

/-- The name and the value of an assignment, between which stands an equals sign or a blank. -/
def splitAssignment (chars : List Char) : List Char × List Char :=
  let inName (char : Char) : Bool := !Text.isBlank char && char != '='
  let name := chars.takeWhile inName
  match Text.trimStart (chars.dropWhile inName) with
  | '=' :: value => (name, value)
  | value => (name, value)

/-- Checks the name of a variable: a letter or a low line, and letters, numbers and low lines
after it. -/
def checkName : List Char → Except NameError String
  | [] => .error .missing
  | first :: rest =>
    let name := String.ofList (first :: rest)
    if Token.startsName first && rest.all Token.continuesName then .ok name
    else .error (.invalid name)

/-- The words of a text, between blanks. -/
def wordsFrom (reversed : List Char) : List Char → List (List Char)
  | [] => if reversed.isEmpty then [] else [reversed.reverse]
  | char :: rest =>
    if Text.isBlank char then
      if reversed.isEmpty then wordsFrom [] rest else reversed.reverse :: wordsFrom [] rest
    else wordsFrom (char :: reversed) rest

/-- The words of a text. -/
def words (chars : List Char) : List (List Char) :=
  wordsFrom [] chars

/-- The name that a command needs at this place. -/
def nameOf (command : String) (chars : List Char) : Except CompileCause String :=
  (checkName chars).mapError (.name command)

/-- The template that a command needs at this place. -/
def templateOf (chars : List Char) : Except CompileCause Template :=
  (Template.compile chars).mapError .template

/-- The expression that a command needs at this place. -/
def expressionOf (command : String) (chars : List Char) : Except CompileCause Expression :=
  if (Text.trim chars).isEmpty then .error (.needsExpression command)
  else (Expression.parse chars).mapError (.expression command)

/-! ### What a line asks for -/

/-- What one line of a script asks for. The conditions of conditionals are kept as text, since
they are read only when their place in the script is known to be right. -/
inductive Directive where
  | plain (statement : Statement)
  | openIf (condition : List Char)
  | openWhile (condition : Expression)
  | openFor (name : String) (first last : Template)
  | elseIf (condition : List Char)
  | otherwise
  | endIf
  | endLoop

/-- The head of a loop over a range. -/
def forHead (rest : List Char) : Except CompileCause Directive :=
  match words rest with
  | [name, first, last] => do
    let name ← nameOf "for" name
    let first ← templateOf first
    let last ← templateOf last
    .ok (.openFor name first last)
  | _ => .error .forUsage

/-- What a command asks for. -/
def directiveOfCommand (command : String) (rest : List Char) : Except CompileCause Directive :=
  match command with
  | "echo" => do .ok (.plain (.echo (← templateOf rest)))
  | "emit" => do .ok (.plain (.emit (← expressionOf command rest).items))
  | "set" => do
    let (name, value) := splitAssignment rest
    let name ← nameOf command name
    .ok (.plain (.set name (← templateOf value) false))
  | "global" => do
    let (name, value) := splitAssignment rest
    let name ← nameOf command name
    .ok (.plain (.set name (← templateOf value) true))
  | "unset" => do .ok (.plain (.unset (← nameOf command rest)))
  | "param" => do
    let names := words rest
    if names.isEmpty then .error .paramWithoutNames
    .ok (.plain (.param (← names.mapM (nameOf command))))
  | "expr" => do .ok (.plain (.evaluate (← expressionOf command rest)))
  | "if" => .ok (.openIf rest)
  | "while" => do .ok (.openWhile (← expressionOf command rest))
  | "for" => forHead rest
  | "break" => if rest.isEmpty then .ok (.plain .leaveLoop) else .error .leaveLoopArguments
  | "return" =>
    if rest.isEmpty then .ok (.plain (.giveBack none))
    else do .ok (.plain (.giveBack (some (← expressionOf command rest))))
  | "error" => do .ok (.plain (.error (← templateOf rest)))
  | "throw" => do .ok (.plain (.throw (← templateOf rest)))
  | "elseif" => .ok (.elseIf rest)
  | "else" => .ok .otherwise
  | "endif" => .ok .endIf
  | "done" => .ok .endLoop
  | _ => .error (.unknownCommand command)

/-- What a line asks for. -/
def directive (text : List Char) : Except CompileCause Directive :=
  match splitCommand text with
  | some (command, rest) => directiveOfCommand command rest
  | none => do .ok (.plain (.echo (← templateOf text)))

/-! ### Blocks -/

/-- What the innermost open block belongs to. -/
inductive Opener where
  /-- A branch of a conditional: the branches before it and its own condition. -/
  | branch (branches : List (Expression × Block)) (condition : Expression)
  /-- The last block of a conditional. -/
  | otherwise (branches : List (Expression × Block))
  | whileLoop (condition : Expression)
  | forLoop (name : String) (first last : Template)

/-- The commands that open and close a block. -/
def Opener.names : Opener → String × String
  | branch _ _ | otherwise _ => ("if", "endif")
  | whileLoop _ => ("while", "done")
  | forLoop _ _ _ => ("for", "done")

/-- An open block: the line of its opener, what it belongs to, and the statements of the block
around it. -/
structure OpenBlock where
  line : Nat
  opener : Opener
  around : Block

/-- The statements of the innermost block so far, and the blocks that are open, innermost
first. -/
structure Building where
  current : Block
  openBlocks : List OpenBlock

/-- The greatest number of blocks that may be open at one place. -/
def maxNesting : Nat := 128

namespace Building

/-- Nothing read yet. -/
def start : Building := ⟨[], []⟩

/-- Adds a statement to the innermost block. -/
def push (building : Building) (statement : Statement) : Building :=
  { building with current := building.current ++ [statement] }

/-- Opens a block, if one more may be opened. -/
def enter (building : Building) (line : Nat) (opener : Except CompileCause Opener) :
    Except CompileCause Building :=
  if maxNesting ≤ building.openBlocks.length then .error .nestedTooDeeply
  else opener.map fun opener => ⟨[], ⟨line, opener, building.current⟩ :: building.openBlocks⟩

/-- Follows what a line asks for. -/
def follow (building : Building) (line : Nat) : Directive → Except CompileCause Building
  | .plain statement => .ok (building.push statement)
  | .openIf condition =>
    building.enter line ((expressionOf "if" condition).map (.branch []))
  | .openWhile condition => building.enter line (.ok (.whileLoop condition))
  | .openFor name first last => building.enter line (.ok (.forLoop name first last))
  | .elseIf condition =>
    match building.openBlocks with
    | ⟨opened, .branch branches earlier, around⟩ :: outer => do
      let condition ← expressionOf "if" condition
      .ok ⟨[], ⟨opened, .branch (branches ++ [(earlier, building.current)]) condition, around⟩ ::
        outer⟩
    | _ => .error (.strayCloser "elseif")
  | .otherwise =>
    match building.openBlocks with
    | ⟨opened, .branch branches condition, around⟩ :: outer =>
      .ok ⟨[], ⟨opened, .otherwise (branches ++ [(condition, building.current)]), around⟩ :: outer⟩
    | _ => .error (.strayCloser "else")
  | .endIf =>
    match building.openBlocks with
    | ⟨_, .branch branches condition, around⟩ :: outer =>
      .ok ⟨around ++ [.choose (branches ++ [(condition, building.current)]) []], outer⟩
    | ⟨_, .otherwise branches, around⟩ :: outer =>
      .ok ⟨around ++ [.choose branches building.current], outer⟩
    | _ => .error (.strayCloser "endif")
  | .endLoop =>
    match building.openBlocks with
    | ⟨_, .whileLoop condition, around⟩ :: outer =>
      .ok ⟨around ++ [.whileLoop condition building.current], outer⟩
    | ⟨_, .forLoop name first last, around⟩ :: outer =>
      .ok ⟨around ++ [.forLoop name first last building.current], outer⟩
    | _ => .error (.strayCloser "done")

/-- Follows one statement of the source. -/
def step (building : Building) (statement : SourceStatement) : Except CompileError Building :=
  (directive statement.text >>= building.follow statement.line).mapError
    fun cause => ⟨statement.line, cause⟩

/-- The finished script, if no block is still open. -/
def finish (building : Building) : Except CompileError Block :=
  match building.openBlocks with
  | [] => .ok building.current
  | innermost :: _ =>
    let (opener, closer) := innermost.opener.names
    .error ⟨innermost.line, .unclosed opener closer⟩

end Building

/-- The block that a list of statements stands for. -/
def ofSource (statements : List SourceStatement) : Except CompileError Block := do
  let building ← statements.foldlM Building.step Building.start
  building.finish

/-- The block that a text stands for. -/
def parse (source : List Char) : Except CompileError Block :=
  ofSource (Layout.statements source)

end Statement

end SlashScript
