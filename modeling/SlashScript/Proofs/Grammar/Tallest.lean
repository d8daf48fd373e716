/-
This file shows that the bound on the height of trees is attained. The tallest tree of a limit is a
choice; its condition is built of five chains, each with as many operators as may be opened; and
the first operand of them all is a call with the tallest tree of the next lower limit.
-/

import Mathlib.Order.Bounds.Basic
import SlashScript.Proofs.Grammar.Height

namespace SlashScript

open Productions (maxDepth loosest)

theorem Phrase.exists_operator {looseness : Nat} (inGrammar : looseness < loosest) :
    ∃ operator, operator ∈ Phrase.operators (looseness + 1) := by
  match looseness, inGrammar with
  | 0, _ => exact ⟨.mul, by decide⟩
  | 1, _ => exact ⟨.add, by decide⟩
  | 2, _ => exact ⟨.eq, by decide⟩
  | 3, _ => exact ⟨.and, by decide⟩
  | 4, _ => exact ⟨.or, by decide⟩

theorem Expression.Path.join {first : Expression} {nodes aside : Nat}
    (path : first.Path nodes aside) (links : List (BinaryOperator × Written)) :
    (Written.join first links).Path (nodes + links.length) (aside + links.length) := by
  induction links generalizing first nodes aside with
  | nil => exact path
  | cons link links inductionHypothesis =>
    rw [List.length_cons, Nat.add_comm links.length 1, ← Nat.add_assoc, ← Nat.add_assoc]
    exact inductionHypothesis (.left path)

/-- The smallest expression. -/
def Written.leaf : Written := ⟨[.name "x"], .named "x"⟩

theorem Written.leaf_builds (level looseness : Nat) :
    Builds level (.chain looseness) leaf.tokens leaf.expression :=
  (Builds.operand (.named "x")).looser (Nat.zero_le looseness)

/-- An expression that can be written and has a way as long as its phrase allows. -/
structure Written.Attains (written : Written) (level : Nat) (phrase : Phrase) : Prop where
  writable : ∀ token ∈ written.tokens, token.Writable
  builds : Builds level phrase written.tokens written.expression
  tall : ∃ aside, written.expression.Path (phrase.tallest level) aside

theorem Written.leaf_attains : leaf.Attains 0 (.chain 0) where
  writable := List.forall_mem_singleton.mpr ⟨_, Token.writes_name⟩
  builds := leaf_builds 0 0
  tall := ⟨0, .named "x"⟩

section

variable {written : Written} {level : Nat}

/-- The tallest operand is a call with the tallest argument. -/
theorem Written.Attains.call (attains : written.Attains level .assign) :
    ∃ written : Written, written.Attains (level + 1) (.chain 0) := by
  refine ⟨⟨_, _⟩, ?_, .operand (.call "x" written [] attains.builds
    fun _ member => absurd member List.not_mem_nil), ?_⟩
  · refine List.forall_mem_cons.mpr ⟨⟨_, Token.writes_name⟩, List.forall_mem_cons.mpr
      ⟨⟨_, Token.writes_openParen⟩, List.forall_mem_append.mpr
        ⟨?_, List.forall_mem_singleton.mpr ⟨_, Token.writes_closeParen⟩⟩⟩⟩
    rw [afterCommas, List.flatMap_nil, List.append_nil]
    exact attains.writable
  · obtain ⟨aside, path⟩ := attains.tall
    rw [Phrase.tallest, Nat.zero_mul]
    exact ⟨aside, .argument List.mem_cons_self path⟩

/-- The tallest chain has the tallest operand first, and as many operators as may be opened. -/
theorem Written.Attains.chain {looseness : Nat} (attains : written.Attains level (.chain looseness))
    (inGrammar : looseness < loosest) :
    ∃ written : Written, written.Attains level (.chain (looseness + 1)) := by
  obtain ⟨operator, own⟩ := Phrase.exists_operator inGrammar
  have writable : (Token.operator operator).Writable := ⟨_, Token.writes_operator operator⟩
  have each : ∀ link ∈ List.replicate level (operator, leaf), link = (operator, leaf) :=
    fun link member => List.eq_of_mem_replicate member
  refine ⟨⟨_, _⟩, ?_, .chain written (List.replicate level (operator, leaf))
    (Nat.le_of_eq List.length_replicate) attains.builds ?_ ?_, ?_⟩
  · refine List.forall_mem_append.mpr ⟨attains.writable, fun token member => ?_⟩
    obtain ⟨link, isLink, member⟩ := List.mem_flatMap.mp member
    cases each link isLink
    exact List.forall_mem_cons.mpr ⟨writable, leaf_attains.writable⟩ token member
  · intro link member
    cases each link member
    exact own
  · intro index link found
    cases each link (List.mem_of_getElem? found)
    exact leaf_builds _ _
  · obtain ⟨aside, path⟩ := attains.tall
    have joined := path.join (List.replicate level (operator, leaf))
    rw [List.length_replicate] at joined
    rw [Phrase.tallest, Nat.succ_mul, ← Nat.add_assoc]
    exact ⟨_, joined⟩

/-- The tallest choice has the tallest condition. -/
theorem Written.Attains.choice (attains : written.Attains (level + 1) (.chain loosest)) :
    ∃ written : Written, written.Attains (level + 1) .assign := by
  refine ⟨⟨_, _⟩, ?_, .unassigned (.choice written leaf leaf attains.builds (leaf_builds _ _)
    (.unconditional (leaf_builds _ _))), ?_⟩
  · exact List.forall_mem_append.mpr ⟨attains.writable, List.forall_mem_cons.mpr
      ⟨⟨_, Token.writes_question⟩, List.forall_mem_append.mpr
        ⟨leaf_attains.writable, List.forall_mem_cons.mpr
          ⟨⟨_, Token.writes_colon⟩, leaf_attains.writable⟩⟩⟩⟩
  · obtain ⟨aside, path⟩ := attains.tall
    rw [Phrase.tallest, tallest_succ]
    exact ⟨_, .condition path⟩

theorem Written.Attains.chains (attains : written.Attains level (.chain 0)) {looseness : Nat}
    (inGrammar : looseness ≤ loosest) :
    ∃ written : Written, written.Attains level (.chain looseness) := by
  induction looseness with
  | zero => exact ⟨written, attains⟩
  | succ looseness inductionHypothesis =>
    obtain ⟨written, attains⟩ := inductionHypothesis (Nat.le_of_succ_le inGrammar)
    exact attains.chain inGrammar

end

theorem Written.exists_attains (level : Nat) :
    ∃ written : Written, written.Attains level .assign := by
  induction level with
  | zero =>
    exact ⟨leaf, leaf_attains.writable, .unassigned (.unconditional (leaf_builds 0 5)),
      leaf_attains.tall⟩
  | succ level inductionHypothesis =>
    obtain ⟨argument, attains⟩ := inductionHypothesis
    obtain ⟨operand, attains⟩ := attains.call
    obtain ⟨condition, attains⟩ := attains.chains (Nat.le_refl loosest)
    exact attains.choice

/-- The longest ways to the leaves of the expressions that are read from texts have 41536 nodes,
more than three hundred times as many as the limit says. -/
theorem Expression.isGreatest_nodes :
    IsGreatest {nodes | ∃ source expression aside,
      Expression.parse source = .ok expression ∧ expression.Path nodes aside} 41536 := by
  constructor
  · obtain ⟨written, writable, builds, aside, path⟩ := Written.exists_attains maxDepth
    obtain ⟨source, read⟩ := Token.exists_text writable
    refine ⟨source, written.expression, aside, ?_, ?_⟩
    · exact bind_eq_ok.mpr ⟨_, read, Expression.ofTokens_eq_ok_iff.mpr (.single builds)⟩
    · rw [← tallest_maxDepth]
      exact path
  · rintro nodes ⟨source, expression, aside, parsed, path⟩
    obtain ⟨tokens, _, read⟩ := bind_eq_ok.mp parsed
    have bounded := (Expression.ofTokens_eq_ok_iff.mp read).bounded _ _ path
    rwa [tallest_maxDepth] at bounded

end SlashScript
