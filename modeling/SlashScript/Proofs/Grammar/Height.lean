/-
This file measures the trees of the expressions that are read. The limit on open constructs is no
limit on the height of the tree: an operator of a chain is counted only for what follows it, but in
the tree it stands above what comes before it too, and that may use up the limit once more. In the
same way a choice is counted for its last part only.

On a way from the root to a leaf, then, all operators, choices, assignments and calls are counted
except those which the way leaves to something that was read before them. As five chains and a
choice can follow one another in this way before a new construct must be opened, no way is longer
than the square of the limit allows.
-/

import Mathlib.Logic.Function.Iterate
import SlashScript.Proofs.Grammar.Nesting
import SlashScript.Proofs.Grammar.Spelling

namespace SlashScript

open Productions (maxDepth)

namespace Expression

/-- A way from the root of an expression to a leaf. It is measured by its nodes, which are the
operators, choices, assignments and calls on it, and by those among them that it leaves aside: the
operators that it leaves to the left and the choices that it leaves to their condition or to their
first branch. -/
inductive Path : Expression → Nat → Nat → Prop where
  | literal (value : Value) : Path (.literal value) 0 0
  | named (name : String) : Path (.named name) 0 0
  | unary {operator : UnaryOperator} {operand : Expression} {nodes aside : Nat}
    (path : Path operand nodes aside) : Path (.unary operator operand) (nodes + 1) aside
  | left {operator : BinaryOperator} {left right : Expression} {nodes aside : Nat}
    (path : Path left nodes aside) : Path (.binary operator left right) (nodes + 1) (aside + 1)
  | right {operator : BinaryOperator} {left right : Expression} {nodes aside : Nat}
    (path : Path right nodes aside) : Path (.binary operator left right) (nodes + 1) aside
  | condition {condition whenTrue whenFalse : Expression} {nodes aside : Nat}
    (path : Path condition nodes aside) :
    Path (.conditional condition whenTrue whenFalse) (nodes + 1) (aside + 1)
  | whenTrue {condition whenTrue whenFalse : Expression} {nodes aside : Nat}
    (path : Path whenTrue nodes aside) :
    Path (.conditional condition whenTrue whenFalse) (nodes + 1) (aside + 1)
  | whenFalse {condition whenTrue whenFalse : Expression} {nodes aside : Nat}
    (path : Path whenFalse nodes aside) :
    Path (.conditional condition whenTrue whenFalse) (nodes + 1) aside
  | assign {name : String} {assignment : Assignment} {operand : Expression} {nodes aside : Nat}
    (path : Path operand nodes aside) : Path (.assign name assignment operand) (nodes + 1) aside
  | noArguments (name : String) : Path (.call name []) 1 0
  | argument {name : String} {arguments : List Expression} {argument : Expression}
    {nodes aside : Nat} (member : argument ∈ arguments) (path : Path argument nodes aside) :
    Path (.call name arguments) (nodes + 1) aside
  | noItems : Path (.sequence []) 0 0
  | item {items : List Expression} {item : Expression} {nodes aside : Nat} (member : item ∈ items)
    (path : Path item nodes aside) : Path (.sequence items) nodes aside

/-- No way to a leaf has more nodes than a bound says, apart from those that it leaves aside. -/
def Counted (bound : Nat) (expression : Expression) : Prop :=
  ∀ nodes aside, expression.Path nodes aside → nodes ≤ bound + aside

/-- No way to a leaf has more nodes than a bound says. -/
def Bounded (bound : Nat) (expression : Expression) : Prop :=
  ∀ nodes aside, expression.Path nodes aside → nodes ≤ bound

end Expression

/-! ### What is counted -/

theorem Expression.Counted.join {first : Expression} {links : List (BinaryOperator × Written)}
    {bound : Nat} (ofFirst : first.Counted bound)
    (ofLinks : ∀ link ∈ links, ∃ lower < bound, link.2.expression.Counted lower) :
    (Written.join first links).Counted bound := by
  induction links generalizing first with
  | nil => exact ofFirst
  | cons link links inductionHypothesis =>
    obtain ⟨⟨lower, isLower, ofLink⟩, ofLinks⟩ := List.forall_mem_cons.mp ofLinks
    refine inductionHypothesis (fun nodes aside path => ?_) ofLinks
    cases path with
    | left path => exact Nat.succ_le_succ (ofFirst _ _ path)
    | right path =>
      have counted := ofLink _ _ path
      omega

/-- The limit bounds what is counted. -/
theorem Builds.counted {level : Nat} {phrase : Phrase} {tokens : List Token}
    {expression : Expression} (builds : Builds level phrase tokens expression) :
    expression.Counted level := by
  induction builds with
  | integer | real | text | named =>
    intro nodes aside path
    cases path
    exact Nat.zero_le _
  | callOfNothing identifier =>
    intro nodes aside path
    cases path with
    | noArguments => omega
    | argument member => cases member
  | call identifier first others _ _ ofFirst ofOthers =>
    intro nodes aside path
    cases path with
    | argument member path =>
      have counted := List.forall_mem_cons.mpr ⟨ofFirst, List.forall_mem_map.mpr ofOthers⟩
        _ member _ _ path
      omega
  | parentheses _ inside =>
    intro nodes aside path
    have counted := inside _ _ path
    omega
  | negated _ operand | denied _ operand =>
    intro nodes aside path
    cases path with
    | unary path =>
      have counted := operand _ _ path
      omega
  | operand _ primary => exact primary
  | chain first links room _ _ _ ofFirst ofLinks =>
    refine ofFirst.join fun link member => ?_
    obtain ⟨index, found⟩ := List.getElem?_of_mem member
    obtain ⟨inside, _⟩ := List.getElem?_eq_some_iff.mp found
    exact ⟨_, by omega, ofLinks index link found⟩
  | unconditional _ chain => exact chain
  | choice condition whenTrue whenFalse _ _ _ ofCondition ofTrue ofFalse =>
    intro nodes aside path
    cases path with
    | condition path =>
      have counted := ofCondition _ _ path
      omega
    | whenTrue path =>
      have counted := ofTrue _ _ path
      omega
    | whenFalse path =>
      have counted := ofFalse _ _ path
      omega
  | unassigned _ conditional => exact conditional
  | assignment identifier symbol _ operand =>
    intro nodes aside path
    cases path with
    | assign path =>
      have counted := operand _ _ path
      omega
  | single _ item => exact item
  | sequence first second others _ _ _ ofFirst ofSecond ofOthers =>
    intro nodes aside path
    cases path with
    | item member path =>
      exact List.forall_mem_cons.mpr ⟨ofFirst, List.forall_mem_cons.mpr
        ⟨ofSecond, List.forall_mem_map.mpr ofOthers⟩⟩ _ member _ _ path

/-! ### How long a way may be -/

/-- The greatest number of nodes on a way, if `level` more constructs may be opened around the
expression. -/
def tallest : Nat → Nat
  | 0 => 0
  | level + 1 => tallest level + 5 * (level + 1) + 2

/-- The same for an operand without operators between operands. -/
def tallestOperand : Nat → Nat
  | 0 => 0
  | level + 1 => tallest level + 1

/-- The same for each phrase. -/
def Phrase.tallest (level : Nat) : Phrase → Nat
  | primary => tallestOperand level
  | chain looseness => tallestOperand level + looseness * level
  | conditional | assign | sequence => SlashScript.tallest level

theorem tallest_succ (level : Nat) :
    tallest (level + 1) = tallestOperand (level + 1) + 5 * (level + 1) + 1 := by
  rw [tallest, tallestOperand]
  omega

theorem tallestOperand_le (level : Nat) : tallestOperand level + 5 * level ≤ tallest level := by
  cases level with
  | zero => exact Nat.le_refl 0
  | succ level =>
    rw [tallest_succ]
    exact Nat.le_succ _

theorem tallestOperand_le_succ (level : Nat) :
    tallestOperand level ≤ tallestOperand (level + 1) := by
  rw [tallestOperand]
  have := tallestOperand_le level
  omega

theorem tallestOperand_mono {level level' : Nat} (lower : level ≤ level') :
    tallestOperand level ≤ tallestOperand level' := by
  induction lower with
  | refl => exact Nat.le_refl _
  | step _ inductionHypothesis => exact Nat.le_trans inductionHypothesis (tallestOperand_le_succ _)

/-- Every operator of a chain may stand above all operands that come before it. -/
theorem Expression.Bounded.join {first : Expression} {links : List (BinaryOperator × Written)}
    {bound : Nat} (ofFirst : first.Bounded bound)
    (ofLinks : ∀ link ∈ links, link.2.expression.Bounded bound) :
    (Written.join first links).Bounded (bound + links.length) := by
  induction links generalizing first bound with
  | nil => exact ofFirst
  | cons link links inductionHypothesis =>
    obtain ⟨ofLink, ofLinks⟩ := List.forall_mem_cons.mp ofLinks
    have joined : (Expression.binary link.1 first link.2.expression).Bounded (bound + 1) := by
      intro nodes aside path
      cases path with
      | left path => exact Nat.succ_le_succ (ofFirst _ _ path)
      | right path => exact Nat.succ_le_succ (ofLink _ _ path)
    rw [List.length_cons, Nat.add_comm links.length 1, ← Nat.add_assoc]
    exact inductionHypothesis joined fun link member nodes aside path =>
      Nat.le_succ_of_le (ofLinks link member nodes aside path)

/-- The limit bounds the ways to the leaves. -/
theorem Builds.bounded {level : Nat} {phrase : Phrase} {tokens : List Token}
    {expression : Expression} (builds : Builds level phrase tokens expression) :
    expression.Bounded (phrase.tallest level) := by
  induction builds with
  | integer | real | text | named =>
    intro nodes aside path
    cases path
    exact Nat.zero_le _
  | @callOfNothing level identifier =>
    intro nodes aside path
    cases path with
    | noArguments => exact Nat.succ_le_succ (Nat.zero_le (tallest level))
    | argument member => cases member
  | call identifier first others _ _ ofFirst ofOthers =>
    intro nodes aside path
    cases path with
    | argument member path =>
      exact Nat.succ_le_succ (List.forall_mem_cons.mpr
        ⟨ofFirst, List.forall_mem_map.mpr ofOthers⟩ _ member _ _ path)
  | parentheses _ inside =>
    intro nodes aside path
    exact Nat.le_succ_of_le (inside _ _ path)
  | @negated level _ expression _ operand | @denied level _ expression _ operand =>
    intro nodes aside path
    cases path with
    | @unary _ _ nodes _ path =>
      have least := tallestOperand_le level
      have bounded : nodes ≤ tallestOperand level + 0 * level := operand _ _ path
      show nodes + 1 ≤ tallest level + 1 + 0 * (level + 1)
      omega
  | operand _ primary =>
    intro nodes aside path
    exact Nat.le_add_right_of_le (primary _ _ path)
  | @chain level looseness first links room _ _ _ ofFirst ofLinks =>
    have joined := ofFirst.join fun link member nodes aside path => by
      obtain ⟨index, found⟩ := List.getElem?_of_mem member
      have lower : level - (index + 1) ≤ level := Nat.sub_le _ _
      exact Nat.le_trans (ofLinks index link found _ _ path)
        (Nat.add_le_add (tallestOperand_mono lower) (Nat.mul_le_mul_left looseness lower))
    intro nodes aside path
    have bounded := joined _ _ path
    simp only [Phrase.tallest] at bounded ⊢
    rw [Nat.succ_mul, ← Nat.add_assoc]
    exact Nat.le_trans bounded (Nat.add_le_add_left room _)
  | @unconditional level _ _ _ chain =>
    intro nodes aside path
    exact Nat.le_trans (chain _ _ path) (tallestOperand_le level)
  | @choice level condition whenTrue whenFalse _ _ _ ofCondition ofTrue ofFalse =>
    have least := tallest_succ level
    intro nodes aside path
    cases path with
    | condition path =>
      have bounded := ofCondition _ _ path
      simp only [Phrase.tallest] at bounded ⊢
      omega
    | whenTrue path =>
      have bounded := ofTrue _ _ path
      simp only [Phrase.tallest] at bounded ⊢
      omega
    | whenFalse path =>
      have bounded := ofFalse _ _ path
      simp only [Phrase.tallest, tallest] at bounded ⊢
      omega
  | unassigned _ conditional => exact conditional
  | @assignment level identifier symbol _ _ _ operand =>
    intro nodes aside path
    cases path with
    | assign path =>
      have bounded := operand _ _ path
      simp only [Phrase.tallest, tallest] at bounded ⊢
      omega
  | single _ item => exact item
  | sequence first second others _ _ _ ofFirst ofSecond ofOthers =>
    intro nodes aside path
    cases path with
    | item member path =>
      exact List.forall_mem_cons.mpr ⟨ofFirst, List.forall_mem_cons.mpr
        ⟨ofSecond, List.forall_mem_map.mpr ofOthers⟩⟩ _ member _ _ path

/-! ### The trees of texts -/

theorem tallest_maxDepth : Phrase.sequence.tallest maxDepth = 41536 := by
  decide +kernel

/-- On no way to a leaf are there more nodes than the limit says, apart from those that the way
leaves aside; and all together they are never more than 41536. -/
theorem Expression.parse_path_le {source : List Char} {expression : Expression}
    (parsed : Expression.parse source = .ok expression) {nodes aside : Nat}
    (path : expression.Path nodes aside) : nodes ≤ maxDepth + aside ∧ nodes ≤ 41536 := by
  obtain ⟨tokens, _, read⟩ := bind_eq_ok.mp parsed
  have builds := Expression.ofTokens_eq_ok_iff.mp read
  exact ⟨builds.counted _ _ path, Nat.le_trans (builds.bounded _ _ path)
    (Nat.le_of_eq tallest_maxDepth)⟩

theorem Token.readAll_signs (count : Nat) :
    Token.readAll (List.replicate count '-' ++ "1+1".toList) =
      .ok (List.replicate count (.operator .sub) ++ [.integer 1, .operator .add, .integer 1]) := by
  induction count with
  | zero =>
    have one (rest : List Char) (follows : Token.read '1' rest = .ok (.integer 1, rest)) :
        Token.readAll ('1' :: rest) = (Token.readAll rest).map (.integer 1 :: ·) :=
      Token.readAll_cons (by decide) follows
    have plus : Token.readAll ['+', '1'] = (Token.readAll ['1']).map (.operator .add :: ·) :=
      Token.readAll_cons (by decide) rfl
    show Token.readAll ['1', '+', '1'] = _
    rw [one _ rfl, plus, one _ rfl, Token.readAll_eq]
    rfl
  | succ count inductionHypothesis =>
    have step : Token.read '-' (List.replicate count '-' ++ "1+1".toList) =
        .ok (.operator .sub, List.replicate count '-' ++ "1+1".toList) := by
      cases count with
      | zero => rfl
      | succ count => rfl
    rw [List.replicate_succ, List.cons_append, Token.readAll_cons (by decide) step,
      inductionHypothesis]
    rfl

theorem Builds.signs {level : Nat} {tokens : List Token} {expression : Expression}
    (builds : Builds level (.chain 0) tokens expression) (count : Nat) :
    Builds (level + count) (.chain 0) (List.replicate count (.operator .sub) ++ tokens)
      ((Expression.unary .neg)^[count] expression) := by
  induction count with
  | zero => exact builds
  | succ count inductionHypothesis =>
    rw [List.replicate_succ, List.cons_append, Function.iterate_succ_apply']
    exact .negated inductionHypothesis

theorem Expression.Path.signs {expression : Expression} {nodes aside : Nat}
    (path : expression.Path nodes aside) (count : Nat) :
    ((Expression.unary .neg)^[count] expression).Path (nodes + count) aside := by
  induction count with
  | zero => exact path
  | succ count inductionHypothesis =>
    rw [Function.iterate_succ_apply']
    exact .unary inductionHypothesis

/-- Signs that use up the limit are followed by one operator more. -/
theorem Expression.ofTokens_signs :
    Expression.ofTokens
        (List.replicate maxDepth (.operator .sub) ++ [.integer 1, .operator .add, .integer 1]) =
      .ok (.binary .add ((Expression.unary .neg)^[maxDepth] (.literal (.integer 1)))
        (.literal (.integer 1))) := by
  have one (level : Nat) : Builds level (.chain 0) [.integer 1] (.literal (.integer 1)) :=
    .operand (.integer 1)
  have signs := ((one 0).signs maxDepth).looser (Nat.zero_le 1)
  rw [Nat.zero_add] at signs
  have sum := Builds.binary ⟨_, _⟩ ⟨_, _⟩ signs (by decide : .add ∈ _)
    ((one 127).looser (Nat.zero_le 1))
  rw [List.append_assoc] at sum
  exact Expression.ofTokens_eq_ok_iff.mpr
    (.single (.unassigned (.unconditional (sum.looser (by decide)))))

theorem Expression.parse_signs :
    Expression.parse (List.replicate 128 '-' ++ "1+1".toList) =
      .ok (.binary .add ((Expression.unary .neg)^[maxDepth] (.literal (.integer 1)))
        (.literal (.integer 1))) :=
  bind_eq_ok.mpr ⟨_, Token.readAll_signs 128, Expression.ofTokens_signs⟩

/-- The way to the first operand leaves the operator aside, and leads through all signs. -/
theorem Expression.parse_path_le_signs : 129 ≤ maxDepth + 1 ∧ 129 ≤ 41536 :=
  Expression.parse_path_le Expression.parse_signs
    (.left ((Path.literal (.integer 1)).signs maxDepth))

theorem Expression.not_path_le_maxDepth :
    ¬ ∀ source expression nodes aside, Expression.parse source = .ok expression →
      expression.Path nodes aside → nodes ≤ maxDepth := by
  intro bounded
  have within := bounded _ _ _ _ Expression.parse_signs
    (.left ((Path.literal (.integer 1)).signs maxDepth))
  exact absurd within (by decide)

end SlashScript
