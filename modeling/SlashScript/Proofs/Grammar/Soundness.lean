/-
This file shows that what a production returns is built by the tokens that it has used up, within
the limit under which it was called. A production of one level asks those of the level below for
whatever it opens, so the proof is by induction on the level, and within a level by the order of
the productions.
-/

import SlashScript.Proofs.Grammar.Basic
import SlashScript.Proofs.Success

namespace SlashScript

open Productions

/-- The reader of a phrase, with these productions for what it opens. -/
def Phrase.parser (inner : Productions) : Phrase → TokenParser Expression
  | .sequence => commaList inner
  | .assign => assignable inner
  | .conditional => choice inner
  | .chain looseness => Productions.chain inner looseness
  | .primary => Productions.primary inner

/-- What the reader returns is built by the tokens that it has used up. -/
def Reads (level : Nat) (phrase : Phrase) (parser : TokenParser Expression) : Prop :=
  ∀ {tokens : List Token} {expression : Expression} {rest : List Token},
    parser tokens = .ok (expression, rest) →
      ∃ used, tokens = used ++ rest ∧ Builds level phrase used expression

/-- What the reader of several items returns is built, one item after the other. -/
def ReadsItems (level : Nat) (tokens : List Token) (expressions : List Expression)
    (rest : List Token) : Prop :=
  ∃ (first : Written) (others : List Written),
    tokens = first.tokens ++ Written.afterCommas others ++ rest ∧
      expressions = first.expression :: others.map Written.expression ∧
        Builds level .assign first.tokens first.expression ∧
          ∀ item ∈ others, Builds level .assign item.tokens item.expression

/-- What the reader of the rest of a chain returns is the chain with some links added. -/
def ReadsLinks (level looseness : Nat) (left : Expression) (parser : TokenParser Expression) :
    Prop :=
  ∀ {tokens : List Token} {expression : Expression} {rest : List Token},
    parser tokens = .ok (expression, rest) →
      ∃ links : List (BinaryOperator × Written),
        tokens = Written.afterOperators links ++ rest ∧ expression = Written.join left links ∧
          links.length ≤ level ∧
            (∀ link ∈ links, link.1 ∈ Phrase.operators (looseness + 1)) ∧
              ∀ index link, links[index]? = some link →
                Builds (level - (index + 1)) (.chain looseness) link.2.tokens link.2.expression

/-- The productions of a level return what is built with that level. -/
structure Sound (level : Nat) : Prop where
  reads : ∀ phrase, Reads level phrase (phrase.parser (atLevel level))
  readsLinks : ∀ looseness left,
    ReadsLinks level looseness left (chainRest (atLevel level) (looseness + 1) left)

section

variable {level : Nat} {tokens rest : List Token}

theorem moreItems_reads {item : TokenParser Expression} (reads : Reads level .assign item)
    {limit : Nat} {expressions : List Expression}
    (result : moreItems item limit tokens = .ok (expressions, rest)) :
    ∃ items : List Written, tokens = Written.afterCommas items ++ rest ∧
      expressions = items.map Written.expression ∧
        ∀ item ∈ items, Builds level .assign item.tokens item.expression := by
  induction limit generalizing tokens expressions with
  | zero =>
    cases result
    exact ⟨[], rfl, rfl, fun _ member => absurd member List.not_mem_nil⟩
  | succ limit inductionHypothesis =>
    unfold moreItems at result
    split at result
    · rename_i limit' after _
      cases ‹_ = limit' + 1›
      obtain ⟨⟨expression, middle⟩, first, result⟩ := bind_eq_ok.mp result
      obtain ⟨⟨others, rest'⟩, more, result⟩ := bind_eq_ok.mp result
      cases result
      obtain ⟨used, rfl, builds⟩ := reads first
      obtain ⟨items, rfl, rfl, each⟩ := inductionHypothesis more
      refine ⟨⟨used, expression⟩ :: items, ?_, rfl, List.forall_mem_cons.mpr ⟨builds, each⟩⟩
      simp [Written.afterCommas]
    · cases result
      exact ⟨[], rfl, rfl, fun _ member => absurd member List.not_mem_nil⟩

theorem separated_reads {item : TokenParser Expression} (reads : Reads level .assign item)
    {expressions : List Expression} (result : separated item tokens = .ok (expressions, rest)) :
    ReadsItems level tokens expressions rest := by
  obtain ⟨⟨expression, middle⟩, first, result⟩ := bind_eq_ok.mp result
  obtain ⟨⟨others, rest'⟩, more, result⟩ := bind_eq_ok.mp result
  cases result
  obtain ⟨used, rfl, builds⟩ := reads first
  obtain ⟨items, rfl, rfl, each⟩ := moreItems_reads reads more
  exact ⟨⟨used, expression⟩, items, (List.append_assoc _ _ _).symm, rfl, builds, each⟩

theorem commaList_reads {inner : Productions} (reads : Reads level .assign (assignable inner)) :
    Reads level .sequence (commaList inner) := by
  intro tokens expression rest result
  obtain ⟨⟨expressions, rest'⟩, several, result⟩ := bind_eq_ok.mp result
  obtain ⟨first, others, rfl, rfl, ofFirst, ofOthers⟩ := separated_reads reads several
  cases others with
  | nil =>
    cases result
    exact ⟨first.tokens, by simp [Written.afterCommas], .single ofFirst⟩
  | cons second others =>
    cases result
    obtain ⟨ofSecond, ofOthers⟩ := List.forall_mem_cons.mp ofOthers
    exact ⟨_, rfl, .sequence first second others ofFirst ofSecond ofOthers⟩

/-- The productions that a level uses for what it opens are those of the level below. -/
theorem arguments_reads (below : ∀ lower, level = lower + 1 → Sound lower)
    {expressions : List Expression}
    (result : (atLevel level).arguments tokens = .ok (expressions, .closeParen :: rest)) :
    ∃ lower, level = lower + 1 ∧
      (expressions = [] ∧ tokens = .closeParen :: rest ∨
        ReadsItems lower tokens expressions (.closeParen :: rest)) := by
  cases level with
  | zero => cases result
  | succ lower =>
    refine ⟨lower, rfl, ?_⟩
    have result : argumentList (atLevel lower) tokens = .ok (expressions, .closeParen :: rest) :=
      result
    unfold argumentList at result
    split at result
    · cases result
      exact .inl ⟨rfl, rfl⟩
    · exact .inr (separated_reads ((below lower rfl).reads .assign) result)

theorem primary_reads (below : ∀ lower, level = lower + 1 → Sound lower) :
    Reads level .primary (Productions.primary (atLevel level)) := by
  intro tokens expression rest result
  unfold Productions.primary at result
  split at result
  · cases result
    exact ⟨[_], rfl, .integer _⟩
  · cases result
    exact ⟨[_], rfl, .real _⟩
  · cases result
    exact ⟨[_], rfl, .text _⟩
  · obtain ⟨⟨expressions, rest'⟩, arguments, result⟩ := bind_eq_ok.mp result
    dsimp only at result
    split at result
    · cases result
      obtain ⟨lower, rfl, ⟨rfl, rfl⟩ | ⟨first, others, rfl, rfl, ofFirst, ofOthers⟩⟩ :=
        arguments_reads below arguments
      · exact ⟨[_, _, _], rfl, .callOfNothing _⟩
      · exact ⟨_ :: _ :: (_ ++ [_]), by simp, .call _ first others ofFirst ofOthers⟩
    · cases result
  · cases result
    exact ⟨[_], rfl, .named _⟩
  · obtain ⟨⟨inside, rest'⟩, sequence, result⟩ := bind_eq_ok.mp result
    dsimp only at result
    split at result
    · cases result
      cases level with
      | zero => cases sequence
      | succ lower =>
        obtain ⟨used, rfl, builds⟩ := (below lower rfl).reads .sequence sequence
        exact ⟨_ :: (used ++ [_]), by simp, .parentheses builds⟩
    · cases result
  · cases result
  · cases result
  · cases result

theorem signed_reads (below : ∀ lower, level = lower + 1 → Sound lower) :
    Reads level (.chain 0) (signed (atLevel level)) := by
  intro tokens expression rest result
  unfold signed at result
  split at result
  · obtain ⟨⟨inside, rest'⟩, unary, result⟩ := bind_eq_ok.mp result
    cases result
    cases level with
    | zero => cases unary
    | succ lower =>
      obtain ⟨used, rfl, builds⟩ := (below lower rfl).reads (.chain 0) unary
      exact ⟨_ :: used, rfl, .negated builds⟩
  · obtain ⟨⟨inside, rest'⟩, unary, result⟩ := bind_eq_ok.mp result
    cases result
    cases level with
    | zero => cases unary
    | succ lower =>
      obtain ⟨used, rfl, builds⟩ := (below lower rfl).reads (.chain 0) unary
      exact ⟨_ :: used, rfl, .denied builds⟩
  · obtain ⟨used, rfl, builds⟩ := primary_reads below result
    exact ⟨used, rfl, .operand builds⟩

theorem chainRest_reads (below : ∀ lower, level = lower + 1 → Sound lower) (looseness : Nat)
    (left : Expression) :
    ReadsLinks level looseness left (chainRest (atLevel level) (looseness + 1) left) := by
  intro tokens expression rest result
  unfold chainRest at result
  split at result
  · rename_i operator tokens
    split at result
    · rename_i own
      cases level with
      | zero => cases result
      | succ lower =>
        obtain ⟨⟨right, middle⟩, operand, further⟩ := bind_eq_ok.mp result
        obtain ⟨used, rfl, builds⟩ := (below lower rfl).reads (.chain looseness) operand
        obtain ⟨links, rfl, rfl, room, allOwn, each⟩ :=
          (below lower rfl).readsLinks looseness _ further
        refine ⟨(operator, ⟨used, right⟩) :: links, by simp [Written.afterOperators], rfl,
          Nat.succ_le_succ room,
          List.forall_mem_cons.mpr ⟨Phrase.mem_operators_iff.mpr own, allOwn⟩,
          fun index link found => ?_⟩
        cases index with
        | zero =>
          cases found
          exact builds
        | succ index =>
          rw [Nat.add_sub_add_right]
          exact each index link found
    · cases result
      exact ⟨[], rfl, rfl, Nat.zero_le _, fun _ member => absurd member List.not_mem_nil,
        fun _ _ found => nomatch found⟩
  · cases result
    exact ⟨[], rfl, rfl, Nat.zero_le _, fun _ member => absurd member List.not_mem_nil,
      fun _ _ found => nomatch found⟩

theorem chain_reads (below : ∀ lower, level = lower + 1 → Sound lower) (looseness : Nat) :
    Reads level (.chain looseness) (Productions.chain (atLevel level) looseness) := by
  induction looseness with
  | zero => exact signed_reads below
  | succ looseness inductionHypothesis =>
    intro tokens expression rest result
    obtain ⟨⟨left, middle⟩, first, further⟩ := bind_eq_ok.mp result
    obtain ⟨used, rfl, builds⟩ := inductionHypothesis first
    obtain ⟨links, rfl, rfl, room, own, each⟩ := chainRest_reads below looseness left further
    exact ⟨_, (List.append_assoc _ _ _).symm, .chain ⟨used, left⟩ links room builds own each⟩

theorem choice_reads (below : ∀ lower, level = lower + 1 → Sound lower) :
    Reads level .conditional (choice (atLevel level)) := by
  intro tokens expression rest result
  obtain ⟨⟨condition, middle⟩, first, further⟩ := bind_eq_ok.mp result
  obtain ⟨used, rfl, ofCondition⟩ := chain_reads below loosest first
  dsimp only at further
  split at further
  · obtain ⟨⟨whenTrue, middle⟩, second, last⟩ := bind_eq_ok.mp further
    obtain ⟨used', rfl, ofTrue⟩ := chain_reads below loosest second
    dsimp only at last
    split at last
    · obtain ⟨⟨whenFalse, middle⟩, third, last⟩ := bind_eq_ok.mp last
      cases last
      cases level with
      | zero => cases third
      | succ lower =>
        obtain ⟨used'', rfl, ofFalse⟩ := (below lower rfl).reads .conditional third
        exact ⟨_, by simp, .choice ⟨used, condition⟩ ⟨used', whenTrue⟩ ⟨used'', whenFalse⟩
          ofCondition ofTrue ofFalse⟩
    · cases last
  · cases further
    exact ⟨used, rfl, .unconditional ofCondition⟩

theorem assignable_reads (below : ∀ lower, level = lower + 1 → Sound lower) :
    Reads level .assign (assignable (atLevel level)) := by
  intro tokens expression rest result
  unfold assignable at result
  split at result
  · obtain ⟨⟨operand, middle⟩, assign, result⟩ := bind_eq_ok.mp result
    cases result
    cases level with
    | zero => cases assign
    | succ lower =>
      obtain ⟨used, rfl, builds⟩ := (below lower rfl).reads .assign assign
      exact ⟨_ :: _ :: used, rfl, .assignment _ _ builds⟩
  · obtain ⟨used, rfl, builds⟩ := choice_reads below result
    exact ⟨used, rfl, .unassigned builds⟩

theorem Sound.of_below (below : ∀ lower, level = lower + 1 → Sound lower) : Sound level where
  reads phrase := by
    cases phrase with
    | sequence => exact commaList_reads (assignable_reads below)
    | assign => exact assignable_reads below
    | conditional => exact choice_reads below
    | chain looseness => exact chain_reads below looseness
    | primary => exact primary_reads below
  readsLinks := chainRest_reads below

end

/-- The productions of every level return what is built with it. -/
theorem sound (level : Nat) : Sound level := by
  induction level with
  | zero => exact .of_below fun _ isSucc => nomatch isSucc
  | succ level inductionHypothesis =>
    refine .of_below fun lower isSucc => ?_
    cases isSucc
    exact inductionHypothesis

end SlashScript
