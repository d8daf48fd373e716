/-
This file says that the arguments of a call do not count against one another. Each of them is read
with the one level that the call takes away, just as it would be in parentheses of its own. So if
every argument is accepted in parentheses, the call is accepted, however many arguments there are
and however deep each of them is.

An argument must not be a list itself, since its commas would then divide the call. Parentheses
come in pairs in every phrase, so the commas that divide are those at depth zero.
-/

import SlashScript.Proofs.Arguments.Names
import SlashScript.Proofs.Grammar.Height
import SlashScript.Proofs.Grammar.Nesting

namespace SlashScript

open Productions

/-! ### Commas outside of parentheses -/

namespace Token

/-- By how much the token changes the number of open parentheses. -/
def turn : Token → Int
  | .openParen => 1
  | .closeParen => -1
  | _ => 0

/-- How many parentheses the tokens leave open. -/
def depth (tokens : List Token) : Int :=
  (tokens.map turn).sum

/-- The tokens that stand outside of all parentheses, if some are open before the first; an
opening parenthesis stands where it is opened. -/
def outside (before : Int) : List Token → List Token
  | [] => []
  | token :: rest =>
    if before = 0 then token :: outside (before + token.turn) rest
    else outside (before + token.turn) rest

theorem depth_nil : depth [] = 0 :=
  rfl

theorem depth_cons (token : Token) (rest : List Token) :
    depth (token :: rest) = token.turn + depth rest := by
  rw [depth, List.map_cons, List.sum_cons, ← depth]

theorem depth_append (first second : List Token) :
    depth (first ++ second) = depth first + depth second := by
  rw [depth, List.map_append, List.sum_append, ← depth, ← depth]

theorem outside_append (before : Int) (first second : List Token) :
    outside before (first ++ second) =
      outside before first ++ outside (before + depth first) second := by
  induction first generalizing before with
  | nil => rw [depth_nil, Int.add_zero, outside, List.nil_append, List.nil_append]
  | cons token first inductionHypothesis =>
    have place : before + depth (token :: first) = before + token.turn + depth first := by
      rw [depth_cons, Int.add_assoc]
    rw [List.cons_append, outside, outside, inductionHypothesis, place]
    split
    · rfl
    · rfl

theorem depth_flatMap {Item : Type} {write : Item → List Token} {items : List Item}
    (each : ∀ item ∈ items, depth (write item) = 0) : depth (items.flatMap write) = 0 := by
  induction items with
  | nil => rfl
  | cons item items inductionHypothesis =>
    obtain ⟨ofItem, ofItems⟩ := List.forall_mem_cons.mp each
    rw [List.flatMap_cons, depth_append, ofItem, inductionHypothesis ofItems]
    rfl

theorem depth_cons_of_turn {token : Token} (straight : token.turn = 0) (rest : List Token) :
    depth (token :: rest) = depth rest := by
  rw [depth_cons, straight, Int.zero_add]

end Token

theorem Written.depth_afterCommas {items : List Written}
    (each : ∀ item ∈ items, Token.depth item.tokens = 0) :
    Token.depth (afterCommas items) = 0 :=
  Token.depth_flatMap fun item member =>
    (Token.depth_cons_of_turn rfl item.tokens).trans (each item member)

theorem Written.depth_afterOperators {links : List (BinaryOperator × Written)}
    (each : ∀ link ∈ links, Token.depth link.2.tokens = 0) :
    Token.depth (afterOperators links) = 0 :=
  Token.depth_flatMap fun link member =>
    (Token.depth_cons_of_turn rfl link.2.tokens).trans (each link member)

/-- A phrase closes the parentheses that it opens. -/
theorem Derives.depth_eq_zero {phrase : Phrase} {tokens : List Token} {expression : Expression}
    (derives : Derives phrase tokens expression) : Token.depth tokens = 0 := by
  induction derives with
  | integer | real | text | named | callOfNothing => rfl
  | call identifier first others _ _ ofFirst ofOthers =>
    have ofItems := Written.depth_afterCommas ofOthers
    simp [Token.depth_cons, Token.depth_append, Token.depth_nil, Token.turn, ofFirst, ofItems]
  | parentheses _ inside =>
    simp [Token.depth_cons, Token.depth_append, Token.depth_nil, Token.turn, inside]
  | negated _ operand | denied _ operand | assignment _ _ _ operand =>
    simp [Token.depth_cons, Token.turn, operand]
  | operand _ same | unconditional _ same | unassigned _ same | single _ same => exact same
  | chain first links _ _ _ ofFirst ofLinks =>
    rw [Token.depth_append, ofFirst, Written.depth_afterOperators ofLinks]
    rfl
  | choice condition whenTrue whenFalse _ _ _ ofCondition ofTrue ofFalse =>
    simp [Token.depth_cons, Token.depth_append, Token.turn, ofCondition, ofTrue, ofFalse]
  | sequence first second others _ _ _ ofFirst ofSecond ofOthers =>
    have ofItems : ∀ item ∈ second :: others, Token.depth item.tokens = 0 :=
      List.forall_mem_cons.mpr ⟨ofSecond, ofOthers⟩
    rw [Token.depth_append, ofFirst, Written.depth_afterCommas ofItems]
    rfl

/-- A list without commas of its own is a single item. -/
theorem Builds.assign_of_no_comma {level : Nat} {tokens : List Token} {expression : Expression}
    (builds : Builds level .sequence tokens expression)
    (noComma : .comma ∉ Token.outside 0 tokens) : Builds level .assign tokens expression := by
  cases builds with
  | single item => exact item
  | sequence first second others ofFirst _ _ =>
    refine absurd ?_ noComma
    rw [Token.outside_append, ofFirst.derives.depth_eq_zero]
    exact List.mem_append_right _ (.head _)

/-! ### One level less -/

namespace Productions

variable {inner : Productions} {tokens : List Token} {reason : SyntaxError}

/-- What is refused within parentheses is refused with them. -/
theorem chain_openParen (refused : inner.sequence tokens = .error reason) (looseness : Nat) :
    chain inner looseness (.openParen :: tokens) = .error reason := by
  induction looseness with
  | zero =>
    show (inner.sequence tokens >>= _) = _
    rw [refused]
    rfl
  | succ looseness inductionHypothesis =>
    show (chain inner looseness (.openParen :: tokens) >>= _) = _
    rw [inductionHypothesis]
    rfl

theorem commaList_openParen (refused : inner.sequence tokens = .error reason) :
    commaList inner (.openParen :: tokens) = .error reason := by
  have ofChoice : choice inner (.openParen :: tokens) = .error reason := by
    show (chain inner loosest (.openParen :: tokens) >>= _) = _
    rw [chain_openParen refused]
    rfl
  have ofItems : separated (assignable inner) (.openParen :: tokens) = .error reason := by
    show (choice inner (.openParen :: tokens) >>= _) = _
    rw [ofChoice]
    rfl
  show (separated (assignable inner) (.openParen :: tokens) >>= _) = _
  rw [ofItems]
  rfl

end Productions

/-- A list that is accepted in parentheses needs one level less than there are. -/
theorem Builds.of_ofTokens_parentheses {tokens : List Token} {expression expression' : Expression}
    (builds : Builds maxDepth .sequence tokens expression)
    (accepted : Expression.ofTokens (.openParen :: (tokens ++ [.closeParen])) = .ok expression') :
    Builds (maxDepth - 1) .sequence tokens expression := by
  have ends : Phrase.sequence.Ends [.closeParen] := Phrase.ends_cons _ _ (by decide)
  have concedes := commaList_concedes_of_le (Nat.sub_le maxDepth 1) (tokens ++ [.closeParen])
  have reads : commaList (atLevel maxDepth) (tokens ++ [.closeParen]) =
      .ok (expression, [.closeParen]) := builds.parser_eq ends
  rcases concedes with tooDeep | same
  · -- The complaint would be the one about the whole text.
    obtain ⟨_, sequence, _⟩ := bind_eq_ok.mp accepted
    have inside : (atLevel maxDepth).sequence (tokens ++ [.closeParen]) =
        .error .nestedTooDeeply := tooDeep
    cases (commaList_openParen inside).symm.trans sequence
  · rw [reads] at same
    obtain ⟨used, whole, ofUsed⟩ := (sound (maxDepth - 1)).reads .sequence same
    rwa [← List.append_cancel_right whole] at ofUsed

/-! ### Calls -/

namespace Expression

/-- By itself and in parentheses the text is accepted, by itself as this expression, and no comma
divides it. -/
structure IsArgument (source : List Char) (argument : Expression) : Prop where
  accepted : parse source = .ok argument
  inParentheses : ∃ result, parse ('(' :: (source ++ [')'])) = .ok result
  noComma : ∀ tokens, Token.readAll source = .ok tokens → .comma ∉ Token.outside 0 tokens

theorem readAll_parentheses {source : List Char} {tokens : List Token}
    (read : Token.readAll source = .ok tokens) :
    Token.readAll ('(' :: (source ++ [')'])) = .ok (.openParen :: (tokens ++ [.closeParen])) := by
  have closing : Token.Lexes [')'] [.closeParen] := .token rfl rfl .nil
  have inside := (Token.readAll_eq_ok_iff.mp read).append (by decide) closing
  exact Token.readAll_eq_ok_iff.mpr (.token rfl rfl inside)

theorem IsArgument.exists_written {source : List Char} {argument : Expression}
    (isArgument : IsArgument source argument) :
    ∃ written : Written, WritesItem source written ∧ written.expression = argument ∧
      Builds (maxDepth - 1) .assign written.tokens written.expression := by
  obtain ⟨tokens, read, accepted⟩ := bind_eq_ok.mp isArgument.accepted
  obtain ⟨result, parsed⟩ := isArgument.inParentheses
  obtain ⟨tokens', readBoth, acceptedBoth⟩ := bind_eq_ok.mp parsed
  cases (readAll_parentheses read).symm.trans readBoth
  have builds := (ofTokens_eq_ok_iff.mp accepted).of_ofTokens_parentheses acceptedBoth
  have item := builds.assign_of_no_comma (isArgument.noComma tokens read)
  exact ⟨⟨tokens, argument⟩,
    ⟨Token.readAll_eq_ok_iff.mp read, item.mono (Nat.sub_le maxDepth 1)⟩, rfl, item⟩

/-- A call is accepted if each of its arguments is, by itself and in parentheses. There may be any
number of them. -/
theorem parse_call_of_arguments {name : String} (isName : IsName name)
    {sources : List (List Char)} {arguments : List Expression}
    (areArguments : List.Forall₂ IsArgument sources arguments) (nonempty : sources ≠ []) :
    parse (name.toList ++ '(' :: (joined sources ++ [')'])) = .ok (.call name arguments) := by
  obtain ⟨written, areWritten, rfl, each⟩ := exists_written IsArgument.exists_written areArguments
  cases areWritten with
  | nil => exact absurd rfl nonempty
  | @cons _ first _ others ofFirst ofOthers =>
    obtain ⟨buildsFirst, buildsOthers⟩ := List.forall_mem_cons.mp each
    have read := Token.readAll_eq_ok_iff.mpr (isName.lexes_call (lexes_joined ofFirst ofOthers))
    have call : Builds maxDepth .primary _ _ := .call name first others buildsFirst buildsOthers
    have chain : Builds maxDepth (.chain loosest) _ _ := call.operand.looser (Nat.zero_le loosest)
    exact bind_eq_ok.mpr
      ⟨_, read, ofTokens_eq_ok_iff.mpr (.single (.unassigned (.unconditional chain)))⟩

/-- The comma of an inner call does not divide the argument. -/
theorem parse_call_of_two_arguments :
    parse "f(-(1), g(2, x = 3))".toList = .ok (.call "f"
      [.unary .neg (.literal (.integer 1)),
        .call "g" [.literal (.integer 2), .assign "x" .set (.literal (.integer 3))]]) := by
  have isName : IsName "f" := rfl
  have isFirst : IsArgument "-(1)".toList (.unary .neg (.literal (.integer 1))) := by
    have read : Token.readAll "-(1)".toList =
        .ok [.operator .sub, .openParen, .integer 1, .closeParen] :=
      Token.readAll_eq_ok_iff.mpr <| .token rfl rfl <| .token rfl rfl <| .token rfl rfl <|
        .token rfl rfl .nil
    refine ⟨bind_eq_ok.mpr ⟨_, read, rfl⟩,
      ⟨_, bind_eq_ok.mpr ⟨_, readAll_parentheses read, rfl⟩⟩, ?_⟩
    intro tokens read'
    cases read.symm.trans read'
    simp [Token.outside, Token.turn]
  have isSecond : IsArgument "g(2, x = 3)".toList
      (.call "g" [.literal (.integer 2), .assign "x" .set (.literal (.integer 3))]) := by
    have read : Token.readAll "g(2, x = 3)".toList =
        .ok [.name "g", .openParen, .integer 2, .comma, .name "x", .assignment .set, .integer 3,
          .closeParen] :=
      Token.readAll_eq_ok_iff.mpr <| .token rfl rfl <| .token rfl rfl <| .token rfl rfl <|
        .token rfl rfl <| .blank rfl <| .token rfl rfl <| .blank rfl <| .token rfl rfl <|
          .blank rfl <| .token rfl rfl <| .token rfl rfl .nil
    refine ⟨bind_eq_ok.mpr ⟨_, read, rfl⟩,
      ⟨_, bind_eq_ok.mpr ⟨_, readAll_parentheses read, rfl⟩⟩, ?_⟩
    intro tokens read'
    cases read.symm.trans read'
    simp [Token.outside, Token.turn]
  exact parse_call_of_arguments isName (.cons isFirst (.cons isSecond .nil))
    (List.cons_ne_nil _ _)

end Expression

end SlashScript
