/-
This file says what one statement of a script is by itself, and what the reader of blocks does at
each. A statement alone is compiled to a piece: a simple statement, or a line that opens, divides
or closes a block. Which kind of piece it can be is already seen from the name of its command.

A step of the reader takes the piece of its statement. Its cases are listed once, with what each
demands of the blocks that are open, and everything else about the reader goes by them.
-/

import SlashScript.Proofs.Success
import SlashScript.Statement.Parser

namespace SlashScript

namespace Statement

/-! ### Pieces -/

/-- The head of a loop. -/
inductive Loop where
  | whileLoop (condition : Expression)
  | forLoop (name : String) (first last : Template)

namespace Loop

/-- What the open block of a loop belongs to. -/
def opener : Loop → Opener
  | whileLoop condition => .whileLoop condition
  | forLoop name first last => .forLoop name first last

/-- The loop around a block. -/
def around (body : Block) : Loop → Statement
  | whileLoop condition => .whileLoop condition body
  | forLoop name first last => .forLoop name first last body

end Loop

/-- A compiled line of a script. -/
inductive Piece where
  | plain (statement : Statement)
  | openIf (condition : Expression)
  | openLoop (loop : Loop)
  | elseIf (condition : Expression)
  | otherwise
  | endIf
  | endLoop

/-- What a statement is compiled to by itself. -/
inductive Compiles : SourceStatement → Piece → Prop where
  | plain {line : SourceStatement} {statement : Statement}
    (read : directive line.text = .ok (.plain statement)) : Compiles line (.plain statement)
  | openIf {line : SourceStatement} {text : List Char} {condition : Expression}
    (read : directive line.text = .ok (.openIf text))
    (compiled : expressionOf "if" text = .ok condition) : Compiles line (.openIf condition)
  | openWhile {line : SourceStatement} {condition : Expression}
    (read : directive line.text = .ok (.openWhile condition)) :
    Compiles line (.openLoop (.whileLoop condition))
  | openFor {line : SourceStatement} {name : String} {first last : Template}
    (read : directive line.text = .ok (.openFor name first last)) :
    Compiles line (.openLoop (.forLoop name first last))
  | elseIf {line : SourceStatement} {text : List Char} {condition : Expression}
    (read : directive line.text = .ok (.elseIf text))
    (compiled : expressionOf "if" text = .ok condition) : Compiles line (.elseIf condition)
  | otherwise {line : SourceStatement} (read : directive line.text = .ok .otherwise) :
    Compiles line .otherwise
  | endIf {line : SourceStatement} (read : directive line.text = .ok .endIf) :
    Compiles line .endIf
  | endLoop {line : SourceStatement} (read : directive line.text = .ok .endLoop) :
    Compiles line .endLoop

/-! ### Kinds of statements -/

/-- What a statement is to the blocks around it. -/
inductive Kind where
  | simple
  | openIf
  | openLoop
  | elseIf
  | otherwise
  | endIf
  | endLoop
  deriving DecidableEq

/-- The kind of the statements of a command. -/
def Kind.ofCommand : String → Kind
  | "if" => openIf
  | "while" => openLoop
  | "for" => openLoop
  | "elseif" => elseIf
  | "else" => otherwise
  | "endif" => endIf
  | "done" => endLoop
  | _ => simple

/-- The kind of a statement, by the name of its command. -/
def Kind.ofText (text : List Char) : Kind :=
  match splitCommand text with
  | some (command, _) => ofCommand command
  | none => simple

/-- The kind of a piece. -/
def Piece.kind : Piece → Kind
  | plain _ => .simple
  | openIf _ => .openIf
  | openLoop _ => .openLoop
  | elseIf _ => .elseIf
  | otherwise => .otherwise
  | endIf => .endIf
  | endLoop => .endLoop

/-- The kind of what a line asks for. -/
def Directive.kind : Directive → Kind
  | plain _ => .simple
  | openIf _ => .openIf
  | openWhile _ => .openLoop
  | openFor _ _ _ => .openLoop
  | elseIf _ => .elseIf
  | otherwise => .otherwise
  | endIf => .endIf
  | endLoop => .endLoop

/-- Statements that hold no block. -/
def isSimple : Statement → Bool
  | choose _ _ => false
  | whileLoop _ _ => false
  | forLoop _ _ _ _ => false
  | _ => true

/-- What a line asks for is of the line's kind, and a statement that it asks for holds no
block. -/
structure Directive.Fits (directive : Directive) (kind : Kind) : Prop where
  kind : directive.kind = kind
  simple : ∀ statement, directive = .plain statement → statement.isSimple = true

theorem Directive.Fits.plain {statement : Statement} (simple : statement.isSimple = true) :
    (Directive.plain statement).Fits .simple where
  kind := rfl
  simple _ same := by
    cases same
    exact simple

theorem Directive.Fits.of_kind {directive : Directive} (notSimple : directive.kind ≠ .simple) :
    directive.Fits directive.kind where
  kind := rfl
  simple _ same := by
    cases same
    exact absurd rfl notSimple

theorem forHead_eq_ok {rest : List Char} {asked : Directive} (read : forHead rest = .ok asked) :
    ∃ name first last, asked = .openFor name first last := by
  unfold forHead at read
  split at read
  · obtain ⟨name, _, read⟩ := bind_eq_ok.mp read
    obtain ⟨first, _, read⟩ := bind_eq_ok.mp read
    obtain ⟨last, _, read⟩ := bind_eq_ok.mp read
    cases read
    exact ⟨name, first, last, rfl⟩
  · cases read

theorem forHead_fits {rest : List Char} {directive : Directive}
    (read : forHead rest = .ok directive) : directive.Fits .openLoop := by
  obtain ⟨name, first, last, rfl⟩ := forHead_eq_ok read
  exact .of_kind nofun

theorem directiveOfCommand_fits {command : String} {rest : List Char} {directive : Directive}
    (read : directiveOfCommand command rest = .ok directive) :
    directive.Fits (Kind.ofCommand command) := by
  unfold directiveOfCommand at read
  split at read
  case h_1 | h_2 | h_5 | h_7 | h_13 | h_14 =>
    obtain ⟨_, _, read⟩ := bind_eq_ok.mp read
    cases read
    exact .plain rfl
  case h_3 | h_4 =>
    obtain ⟨_, _, read⟩ := bind_eq_ok.mp read
    obtain ⟨_, _, read⟩ := bind_eq_ok.mp read
    cases read
    exact .plain rfl
  case h_6 =>
    dsimp only at read
    split at read
    · cases read
    · obtain ⟨_, _, read⟩ := bind_eq_ok.mp read
      cases read
      exact .plain rfl
  case h_8 | h_15 | h_16 | h_17 | h_18 =>
    cases read
    exact .of_kind nofun
  case h_9 =>
    obtain ⟨_, _, read⟩ := bind_eq_ok.mp read
    cases read
    exact .of_kind nofun
  case h_10 => exact forHead_fits read
  case h_11 =>
    split at read
    · cases read
      exact .plain rfl
    · cases read
  case h_12 =>
    split at read
    · cases read
      exact .plain rfl
    · obtain ⟨_, _, read⟩ := bind_eq_ok.mp read
      cases read
      exact .plain rfl
  case h_19 => cases read

theorem directive_fits {text : List Char} {asked : Directive}
    (read : directive text = .ok asked) : asked.Fits (Kind.ofText text) := by
  revert read
  unfold directive Kind.ofText
  cases splitCommand text with
  | some parts => exact directiveOfCommand_fits
  | none =>
    intro read
    obtain ⟨_, _, read⟩ := bind_eq_ok.mp read
    cases read
    exact .plain rfl

theorem Compiles.kind {line : SourceStatement} {piece : Piece} (compiles : Compiles line piece) :
    Kind.ofText line.text = piece.kind := by
  cases compiles with
  | plain read | openIf read | openWhile read | openFor read | elseIf read | otherwise read
  | endIf read | endLoop read => exact (directive_fits read).kind.symm

theorem Compiles.simple {line : SourceStatement} {statement : Statement}
    (compiles : Compiles line (.plain statement)) : statement.isSimple = true := by
  cases compiles with
  | plain read => exact (directive_fits read).simple statement rfl

/-! ### One step -/

namespace Building

/-- A step of the reader: the piece of a statement is taken into what is being built. -/
inductive Takes : Building → SourceStatement → Building → Prop where
  | plain {building : Building} {line : SourceStatement} {statement : Statement}
    (compiles : Compiles line (.plain statement)) :
    Takes building line ⟨building.current ++ [statement], building.openBlocks⟩
  | openIf {building : Building} {line : SourceStatement} {condition : Expression}
    (compiles : Compiles line (.openIf condition))
    (room : building.openBlocks.length < maxNesting) :
    Takes building line
      ⟨[], ⟨line.line, .branch [] condition, building.current⟩ :: building.openBlocks⟩
  | openLoop {building : Building} {line : SourceStatement} {loop : Loop}
    (compiles : Compiles line (.openLoop loop))
    (room : building.openBlocks.length < maxNesting) :
    Takes building line ⟨[], ⟨line.line, loop.opener, building.current⟩ :: building.openBlocks⟩
  | elseIf {body around : Block} {opened : Nat} {branches : List (Expression × Block)}
    {earlier condition : Expression} {outer : List OpenBlock} {line : SourceStatement}
    (compiles : Compiles line (.elseIf condition)) :
    Takes ⟨body, ⟨opened, .branch branches earlier, around⟩ :: outer⟩ line
      ⟨[], ⟨opened, .branch (branches ++ [(earlier, body)]) condition, around⟩ :: outer⟩
  | otherwise {body around : Block} {opened : Nat} {branches : List (Expression × Block)}
    {condition : Expression} {outer : List OpenBlock} {line : SourceStatement}
    (compiles : Compiles line .otherwise) :
    Takes ⟨body, ⟨opened, .branch branches condition, around⟩ :: outer⟩ line
      ⟨[], ⟨opened, .otherwise (branches ++ [(condition, body)]), around⟩ :: outer⟩
  | endBranch {body around : Block} {opened : Nat} {branches : List (Expression × Block)}
    {condition : Expression} {outer : List OpenBlock} {line : SourceStatement}
    (compiles : Compiles line .endIf) :
    Takes ⟨body, ⟨opened, .branch branches condition, around⟩ :: outer⟩ line
      ⟨around ++ [.choose (branches ++ [(condition, body)]) []], outer⟩
  | endOtherwise {body around : Block} {opened : Nat} {branches : List (Expression × Block)}
    {outer : List OpenBlock} {line : SourceStatement} (compiles : Compiles line .endIf) :
    Takes ⟨body, ⟨opened, .otherwise branches, around⟩ :: outer⟩ line
      ⟨around ++ [.choose branches body], outer⟩
  | endLoop {body around : Block} {opened : Nat} (loop : Loop) {outer : List OpenBlock}
    {line : SourceStatement} (compiles : Compiles line .endLoop) :
    Takes ⟨body, ⟨opened, loop.opener, around⟩ :: outer⟩ line
      ⟨around ++ [loop.around body], outer⟩

theorem enter_eq_ok {building building' : Building} {line : Nat}
    {opener : Except CompileCause Opener} :
    building.enter line opener = .ok building' ↔
      building.openBlocks.length < maxNesting ∧ ∃ opened, opener = .ok opened ∧
        building' = ⟨[], ⟨line, opened, building.current⟩ :: building.openBlocks⟩ := by
  unfold enter
  split
  · rename_i full
    exact ⟨nofun, fun ⟨room, _⟩ => absurd full (Nat.not_le_of_lt room)⟩
  · rename_i room
    rw [map_eq_ok]
    exact ⟨fun ⟨opened, compiled, same⟩ => ⟨Nat.lt_of_not_le room, opened, compiled, same.symm⟩,
      fun ⟨_, opened, compiled, same⟩ => ⟨opened, compiled, same.symm⟩⟩

theorem Takes.of_step {building building' : Building} {line : SourceStatement}
    (stepped : building.step line = .ok building') : Takes building line building' := by
  obtain ⟨asked, read, followed⟩ := bind_eq_ok.mp (mapError_eq_ok.mp stepped)
  cases asked with
  | plain statement =>
    cases followed
    exact .plain (.plain read)
  | openIf text =>
    obtain ⟨room, _, opened, rfl⟩ := enter_eq_ok.mp followed
    obtain ⟨condition, compiled, rfl⟩ := map_eq_ok.mp opened
    exact .openIf (.openIf read compiled) room
  | openWhile condition =>
    obtain ⟨room, _, ⟨⟩, rfl⟩ := enter_eq_ok.mp followed
    exact .openLoop (.openWhile read) room
  | openFor name first last =>
    obtain ⟨room, _, ⟨⟩, rfl⟩ := enter_eq_ok.mp followed
    exact .openLoop (.openFor read) room
  | elseIf text =>
    rcases building with ⟨body, _ | ⟨⟨opened, opener, around⟩, outer⟩⟩
    · cases followed
    · cases opener with
      | branch branches earlier =>
        obtain ⟨condition, compiled, result⟩ := bind_eq_ok.mp followed
        cases result
        exact .elseIf (.elseIf read compiled)
      | otherwise | whileLoop | forLoop => cases followed
  | otherwise =>
    rcases building with ⟨body, _ | ⟨⟨opened, opener, around⟩, outer⟩⟩
    · cases followed
    · cases opener with
      | branch branches condition =>
        cases followed
        exact .otherwise (.otherwise read)
      | otherwise | whileLoop | forLoop => cases followed
  | endIf =>
    rcases building with ⟨body, _ | ⟨⟨opened, opener, around⟩, outer⟩⟩
    · cases followed
    · cases opener with
      | branch branches condition =>
        cases followed
        exact .endBranch (.endIf read)
      | otherwise branches =>
        cases followed
        exact .endOtherwise (.endIf read)
      | whileLoop | forLoop => cases followed
  | endLoop =>
    rcases building with ⟨body, _ | ⟨⟨opened, opener, around⟩, outer⟩⟩
    · cases followed
    · cases opener with
      | whileLoop condition =>
        cases followed
        exact .endLoop (.whileLoop condition) (.endLoop read)
      | forLoop name first last =>
        cases followed
        exact .endLoop (.forLoop name first last) (.endLoop read)
      | branch | otherwise => cases followed

theorem Takes.step_eq {building building' : Building} {line : SourceStatement}
    (takes : Takes building line building') : building.step line = .ok building' := by
  refine mapError_eq_ok.mpr (bind_eq_ok.mpr ?_)
  cases takes with
  | plain compiles =>
    cases compiles with
    | plain read => exact ⟨_, read, rfl⟩
  | openIf compiles room =>
    cases compiles with
    | openIf read compiled =>
      exact ⟨_, read, enter_eq_ok.mpr ⟨room, _, map_eq_ok.mpr ⟨_, compiled, rfl⟩, rfl⟩⟩
  | openLoop compiles room =>
    cases compiles with
    | openWhile read | openFor read => exact ⟨_, read, enter_eq_ok.mpr ⟨room, _, rfl, rfl⟩⟩
  | elseIf compiles =>
    cases compiles with
    | elseIf read compiled => exact ⟨_, read, bind_eq_ok.mpr ⟨_, compiled, rfl⟩⟩
  | otherwise compiles =>
    cases compiles with
    | otherwise read => exact ⟨_, read, rfl⟩
  | endBranch compiles | endOtherwise compiles =>
    cases compiles with
    | endIf read => exact ⟨_, read, rfl⟩
  | endLoop loop compiles =>
    cases compiles with
    | endLoop read =>
      cases loop with
      | whileLoop | forLoop => exact ⟨_, read, rfl⟩

/-- The steps of the reader are those that take a piece. -/
theorem step_eq_ok_iff {building building' : Building} {line : SourceStatement} :
    building.step line = .ok building' ↔ Takes building line building' :=
  ⟨Takes.of_step, Takes.step_eq⟩

end Building

end Statement

end SlashScript
