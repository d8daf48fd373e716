/-
This file compares the readers of two limits. The one with the lower limit gives the same answer
or complains about the nesting. Together with completeness, tokens that derive an expression are
read as that expression, and nothing but their nesting can be held against them.
-/

import SlashScript.Proofs.Grammar.Completeness
import SlashScript.Proofs.Grammar.Spelling

namespace SlashScript

open Productions

/-- The first of two answers is the second, or else a complaint about the nesting. -/
def Concedes {Result : Type} (first second : Except SyntaxError Result) : Prop :=
  first = .error .nestedTooDeeply ∨ first = second

section

variable {Result Result' : Type} {inner outer : Productions}

theorem Concedes.refl (answer : Except SyntaxError Result) : Concedes answer answer :=
  .inr rfl

theorem Concedes.trans {first second third : Except SyntaxError Result}
    (concedes : Concedes first second) (further : Concedes second third) :
    Concedes first third := by
  rcases concedes with tooDeep | rfl
  · exact .inl tooDeep
  · exact further

theorem Concedes.bind {first second : Except SyntaxError Result}
    {next next' : Result → Except SyntaxError Result'} (concedes : Concedes first second)
    (each : ∀ result, Concedes (next result) (next' result)) :
    Concedes (first >>= next) (second >>= next') := by
  rcases concedes with rfl | rfl
  · exact .inl rfl
  · cases first with
    | error reason => exact .refl _
    | ok result => exact each result

/-- Whatever the first productions answer, the second answer too, complaints about the nesting
apart. -/
structure Productions.Within (inner outer : Productions) : Prop where
  sequence : ∀ tokens, Concedes (inner.sequence tokens) (outer.sequence tokens)
  assign : ∀ tokens, Concedes (inner.assign tokens) (outer.assign tokens)
  conditional : ∀ tokens, Concedes (inner.conditional tokens) (outer.conditional tokens)
  operand : ∀ looseness left operator tokens,
    Concedes (inner.operand looseness left operator tokens)
      (outer.operand looseness left operator tokens)
  unary : ∀ tokens, Concedes (inner.unary tokens) (outer.unary tokens)
  arguments : ∀ tokens, Concedes (inner.arguments tokens) (outer.arguments tokens)

theorem moreItems_concedes {item item' : TokenParser Expression}
    (each : ∀ tokens, Concedes (item tokens) (item' tokens)) (limit : Nat) (tokens : List Token) :
    Concedes (moreItems item limit tokens) (moreItems item' limit tokens) := by
  induction limit generalizing tokens with
  | zero => exact .refl _
  | succ limit inductionHypothesis =>
    unfold moreItems
    split
    · rename_i limit' after _
      cases ‹_ = limit' + 1›
      exact (each _).bind fun first => (inductionHypothesis _).bind fun _ => .refl _
    · exact .refl _

theorem separated_concedes {item item' : TokenParser Expression}
    (each : ∀ tokens, Concedes (item tokens) (item' tokens)) (tokens : List Token) :
    Concedes (separated item tokens) (separated item' tokens) :=
  (each tokens).bind fun _ => (moreItems_concedes each _ _).bind fun _ => .refl _

theorem primary_concedes (within : inner.Within outer) (tokens : List Token) :
    Concedes (Productions.primary inner tokens) (Productions.primary outer tokens) := by
  unfold Productions.primary
  split
  all_goals first | exact .refl _ | skip
  · exact (within.arguments _).bind fun _ => .refl _
  · exact (within.sequence _).bind fun _ => .refl _

theorem signed_concedes (within : inner.Within outer) (tokens : List Token) :
    Concedes (signed inner tokens) (signed outer tokens) := by
  unfold signed
  split
  · exact (within.unary _).bind fun _ => .refl _
  · exact (within.unary _).bind fun _ => .refl _
  · exact primary_concedes within _

theorem chainRest_concedes (within : inner.Within outer) (looseness : Nat) (left : Expression)
    (tokens : List Token) :
    Concedes (chainRest inner looseness left tokens) (chainRest outer looseness left tokens) := by
  unfold chainRest
  split
  · split
    · exact within.operand _ _ _ _
    · exact .refl _
  · exact .refl _

theorem chain_concedes (within : inner.Within outer) (looseness : Nat) (tokens : List Token) :
    Concedes (Productions.chain inner looseness tokens)
      (Productions.chain outer looseness tokens) := by
  induction looseness generalizing tokens with
  | zero => exact signed_concedes within tokens
  | succ looseness inductionHypothesis =>
    exact (inductionHypothesis tokens).bind fun _ => chainRest_concedes within _ _ _

theorem choice_concedes (within : inner.Within outer) (tokens : List Token) :
    Concedes (choice inner tokens) (choice outer tokens) := by
  refine (chain_concedes within loosest tokens).bind fun condition => ?_
  dsimp only
  split
  · refine (chain_concedes within loosest _).bind fun whenTrue => ?_
    split
    · exact (within.conditional _).bind fun _ => .refl _
    · exact .refl _
  · exact .refl _

theorem assignable_concedes (within : inner.Within outer) (tokens : List Token) :
    Concedes (assignable inner tokens) (assignable outer tokens) := by
  unfold assignable
  split
  · exact (within.assign _).bind fun _ => .refl _
  · exact choice_concedes within _

theorem commaList_concedes (within : inner.Within outer) (tokens : List Token) :
    Concedes (commaList inner tokens) (commaList outer tokens) :=
  (separated_concedes (assignable_concedes within) tokens).bind fun _ => .refl _

theorem argumentList_concedes (within : inner.Within outer) (tokens : List Token) :
    Concedes (argumentList inner tokens) (argumentList outer tokens) := by
  unfold argumentList
  split
  · exact .refl _
  · exact separated_concedes (assignable_concedes within) _

end

theorem within_succ (level : Nat) : (atLevel level).Within (atLevel (level + 1)) := by
  induction level with
  | zero =>
    exact ⟨fun _ => .inl rfl, fun _ => .inl rfl, fun _ => .inl rfl, fun _ _ _ _ => .inl rfl,
      fun _ => .inl rfl, fun _ => .inl rfl⟩
  | succ level inductionHypothesis =>
    exact ⟨commaList_concedes inductionHypothesis, assignable_concedes inductionHypothesis,
      choice_concedes inductionHypothesis,
      fun looseness left operator tokens => (chain_concedes inductionHypothesis _ _).bind
        fun _ => chainRest_concedes inductionHypothesis _ _ _,
      signed_concedes inductionHypothesis, argumentList_concedes inductionHypothesis⟩

/-- What a level answers, every lower level answers too or finds nested too deeply. -/
theorem commaList_concedes_of_le {level level' : Nat} (lower : level ≤ level')
    (tokens : List Token) :
    Concedes (commaList (atLevel level) tokens) (commaList (atLevel level') tokens) := by
  induction lower with
  | refl => exact .refl _
  | @step level' _ inductionHypothesis =>
    exact inductionHypothesis.trans (commaList_concedes (within_succ level') tokens)

/-! ### The expressions of a text -/

/-- Tokens that build an expression within some limit are read as it, or found nested too
deeply. -/
theorem Builds.ofTokens_concedes {level : Nat} {tokens : List Token} {expression : Expression}
    (builds : Builds level .sequence tokens expression) :
    Concedes (Expression.ofTokens tokens) (.ok expression) := by
  rcases Nat.le_total level maxDepth with within | beyond
  · exact .inr (Expression.ofTokens_eq_ok_iff.mpr (builds.mono within))
  · have reads : commaList (atLevel level) tokens = .ok (expression, []) := by
      have whole := builds.parser_eq (Phrase.ends_nil _)
      rwa [List.append_nil] at whole
    have concedes := commaList_concedes_of_le beyond tokens
    rw [reads] at concedes
    exact concedes.bind fun _ => .refl _

/-- A text that has tokens is read by the grammar: it is read as an expression only if its tokens
derive the expression, and if they do, it is read so if they build it within the limit, and found
nested too deeply if they do not. -/
theorem Expression.parse_derives {source : List Char} {tokens : List Token}
    (read : Token.readAll source = .ok tokens) :
    (∀ expression, Expression.parse source = .ok expression →
        Derives .sequence tokens expression) ∧
      ∀ expression, Derives .sequence tokens expression →
        Expression.parse source = .ok expression ∧ Builds maxDepth .sequence tokens expression ∨
          Expression.parse source = .error .nestedTooDeeply ∧
            ¬ Builds maxDepth .sequence tokens expression := by
  have parsed : Expression.parse source = Expression.ofTokens tokens := by
    rw [Expression.parse, read]
    rfl
  rw [parsed]
  refine ⟨fun expression result => (Expression.ofTokens_eq_ok_iff.mp result).derives,
    fun expression derives => ?_⟩
  by_cases within : Builds maxDepth .sequence tokens expression
  · exact .inl ⟨Expression.ofTokens_eq_ok_iff.mpr within, within⟩
  · obtain ⟨level, builds⟩ := derives.exists_builds
    rcases builds.ofTokens_concedes with tooDeep | result
    · exact .inr ⟨tooDeep, within⟩
    · exact absurd (Expression.ofTokens_eq_ok_iff.mp result) within

theorem Expression.parse_derives_sum :
    Derives .sequence [.operator .sub, .name "x", .operator .add, .name "x", .operator .mul,
        .name "x"]
      (.binary .add (.unary .neg (.named "x")) (.binary .mul (.named "x") (.named "x"))) ∧
    Expression.parse "- x + x * x ".toList =
      .ok (.binary .add (.unary .neg (.named "x")) (.binary .mul (.named "x") (.named "x"))) := by
  have each : ∀ pair ∈ [(['-', ' '], Token.operator .sub), (['x', ' '], .name "x"),
      (['+', ' '], .operator .add), (['x', ' '], .name "x"), (['*', ' '], .operator .mul),
      (['x', ' '], .name "x")], Token.Writes pair.1 pair.2 := by
    simp only [List.forall_mem_cons]
    exact ⟨Token.writes_operator .sub, Token.writes_name, Token.writes_operator .add,
      Token.writes_name, Token.writes_operator .mul, Token.writes_name, nofun⟩
  have operand (level : Nat) : Builds level (.chain 0) [.name "x"] (.named "x") :=
    .operand (.named "x")
  have product := Builds.binary ⟨_, _⟩ ⟨_, _⟩ (operand 1) (by decide : .mul ∈ _) (operand 0)
  have sum := Builds.binary ⟨_, _⟩ ⟨_, _⟩ ((Builds.negated (operand 1)).looser (Nat.zero_le 1))
    (by decide : .add ∈ _) product
  have builds : Builds maxDepth .sequence _ _ :=
    .mono (.single (.unassigned (.unconditional (sum.looser (by decide))))) (by decide : 2 ≤ _)
  refine ⟨builds.derives, ?_⟩
  rcases (Expression.parse_derives (Token.readAll_flatMap each)).2 _ builds.derives with
    ⟨accepted, _⟩ | ⟨_, beyond⟩
  · exact accepted
  · exact absurd builds beyond

end SlashScript
