/-
This file gives the grammar of expressions as a relation between tokens and trees, apart from the
way in which expressions are read:

    sequence    :=  assign (',' assign)*
    assign      :=  name assignment assign  |  conditional
    conditional :=  chain 5  |  chain 5 '?' chain 5 ':' conditional
    chain n     :=  chain (n - 1) (operator of chain n, chain (n - 1))*
    chain 0     :=  ('-' | '!') chain 0  |  primary
    primary     :=  literal  |  name  |  name '(' [assign (',' assign)*] ')'  |  '(' sequence ')'

Parentheses leave nothing behind in the tree, and neither does a sequence of one item.

A second relation is the same grammar with a count of the constructs that may be opened inside
one another. A phrase has a derivation exactly if it has one with some count.
-/

import SlashScript.Expression.Parser

namespace SlashScript

/-- The productions of the grammar. -/
inductive Phrase where
  | sequence
  | assign
  | conditional
  /-- Operands joined by operators that bind equally; the operands of chain 0 are those with
  signs. -/
  | chain (looseness : Nat)
  | primary

namespace Phrase

/-- The operators of each chain. -/
def operators : Nat → List BinaryOperator
  | 1 => [.mul, .div, .rem]
  | 2 => [.add, .sub]
  | 3 => [.eq, .ne, .lt, .le, .gt, .ge, .glob, .notGlob, .regex, .notRegex]
  | 4 => [.and]
  | 5 => [.or]
  | _ => []

theorem mem_operators_iff {operator : BinaryOperator} {looseness : Nat} :
    operator ∈ operators looseness ↔ operator.looseness = looseness := by
  constructor
  · intro member
    match looseness, member with
    | 1, member | 2, member | 3, member | 4, member | 5, member =>
      revert member
      cases operator <;> decide
  · rintro rfl
    cases operator <;> decide

end Phrase

/-- An expression together with tokens that write it. -/
structure Written where
  tokens : List Token
  expression : Expression

namespace Written

/-- The tokens of further items, a comma before each. -/
def afterCommas (items : List Written) : List Token :=
  items.flatMap fun item => .comma :: item.tokens

/-- The tokens of further operands, an operator before each. -/
def afterOperators (links : List (BinaryOperator × Written)) : List Token :=
  links.flatMap fun link => .operator link.1 :: link.2.tokens

/-- The tree of a chain, which groups from the left. -/
def join (first : Expression) (links : List (BinaryOperator × Written)) : Expression :=
  links.foldl (fun left link => .binary link.1 left link.2.expression) first

end Written

/-- The grammar: the tokens derive the expression as a phrase of this kind. -/
inductive Derives : Phrase → List Token → Expression → Prop where
  | integer (number : Int64) : Derives .primary [.integer number] (.literal (.integer number))
  | real (number : Float) : Derives .primary [.real number] (.literal (.real number))
  | text (content : String) : Derives .primary [.text content] (.literal (.text content))
  | named (identifier : String) : Derives .primary [.name identifier] (.named identifier)
  | callOfNothing (identifier : String) :
    Derives .primary [.name identifier, .openParen, .closeParen] (.call identifier [])
  | call (identifier : String) (first : Written) (others : List Written)
    (ofFirst : Derives .assign first.tokens first.expression)
    (ofOthers : ∀ item ∈ others, Derives .assign item.tokens item.expression) :
    Derives .primary
      (.name identifier :: .openParen ::
        (first.tokens ++ Written.afterCommas others ++ [.closeParen]))
      (.call identifier (first.expression :: others.map Written.expression))
  | parentheses {tokens : List Token} {expression : Expression}
    (inside : Derives .sequence tokens expression) :
    Derives .primary (.openParen :: (tokens ++ [.closeParen])) expression
  | negated {tokens : List Token} {expression : Expression}
    (operand : Derives (.chain 0) tokens expression) :
    Derives (.chain 0) (.operator .sub :: tokens) (.unary .neg expression)
  | denied {tokens : List Token} {expression : Expression}
    (operand : Derives (.chain 0) tokens expression) :
    Derives (.chain 0) (.bang :: tokens) (.unary .not expression)
  | operand {tokens : List Token} {expression : Expression}
    (primary : Derives .primary tokens expression) : Derives (.chain 0) tokens expression
  | chain {looseness : Nat} (first : Written) (links : List (BinaryOperator × Written))
    (ofFirst : Derives (.chain looseness) first.tokens first.expression)
    (own : ∀ link ∈ links, link.1 ∈ Phrase.operators (looseness + 1))
    (ofLinks : ∀ link ∈ links, Derives (.chain looseness) link.2.tokens link.2.expression) :
    Derives (.chain (looseness + 1)) (first.tokens ++ Written.afterOperators links)
      (Written.join first.expression links)
  | unconditional {tokens : List Token} {expression : Expression}
    (chain : Derives (.chain 5) tokens expression) : Derives .conditional tokens expression
  | choice (condition whenTrue whenFalse : Written)
    (ofCondition : Derives (.chain 5) condition.tokens condition.expression)
    (ofTrue : Derives (.chain 5) whenTrue.tokens whenTrue.expression)
    (ofFalse : Derives .conditional whenFalse.tokens whenFalse.expression) :
    Derives .conditional
      (condition.tokens ++ .question :: (whenTrue.tokens ++ .colon :: whenFalse.tokens))
      (.conditional condition.expression whenTrue.expression whenFalse.expression)
  | unassigned {tokens : List Token} {expression : Expression}
    (conditional : Derives .conditional tokens expression) : Derives .assign tokens expression
  | assignment (identifier : String) (symbol : Assignment) {tokens : List Token}
    {expression : Expression} (operand : Derives .assign tokens expression) :
    Derives .assign (.name identifier :: .assignment symbol :: tokens)
      (.assign identifier symbol expression)
  | single {tokens : List Token} {expression : Expression}
    (item : Derives .assign tokens expression) : Derives .sequence tokens expression
  | sequence (first second : Written) (others : List Written)
    (ofFirst : Derives .assign first.tokens first.expression)
    (ofSecond : Derives .assign second.tokens second.expression)
    (ofOthers : ∀ item ∈ others, Derives .assign item.tokens item.expression) :
    Derives .sequence (first.tokens ++ Written.afterCommas (second :: others))
      (.sequence (first.expression :: second.expression :: others.map Written.expression))

/-- The grammar with a limit on the constructs that are open at one place: the tokens derive the
expression, and `level` more constructs may be opened around each of them. An operator of a chain
counts for everything after it in its chain. -/
inductive Builds : Nat → Phrase → List Token → Expression → Prop where
  | integer {level : Nat} (number : Int64) :
    Builds level .primary [.integer number] (.literal (.integer number))
  | real {level : Nat} (number : Float) :
    Builds level .primary [.real number] (.literal (.real number))
  | text {level : Nat} (content : String) :
    Builds level .primary [.text content] (.literal (.text content))
  | named {level : Nat} (identifier : String) :
    Builds level .primary [.name identifier] (.named identifier)
  | callOfNothing {level : Nat} (identifier : String) :
    Builds (level + 1) .primary [.name identifier, .openParen, .closeParen] (.call identifier [])
  | call {level : Nat} (identifier : String) (first : Written) (others : List Written)
    (ofFirst : Builds level .assign first.tokens first.expression)
    (ofOthers : ∀ item ∈ others, Builds level .assign item.tokens item.expression) :
    Builds (level + 1) .primary
      (.name identifier :: .openParen ::
        (first.tokens ++ Written.afterCommas others ++ [.closeParen]))
      (.call identifier (first.expression :: others.map Written.expression))
  | parentheses {level : Nat} {tokens : List Token} {expression : Expression}
    (inside : Builds level .sequence tokens expression) :
    Builds (level + 1) .primary (.openParen :: (tokens ++ [.closeParen])) expression
  | negated {level : Nat} {tokens : List Token} {expression : Expression}
    (operand : Builds level (.chain 0) tokens expression) :
    Builds (level + 1) (.chain 0) (.operator .sub :: tokens) (.unary .neg expression)
  | denied {level : Nat} {tokens : List Token} {expression : Expression}
    (operand : Builds level (.chain 0) tokens expression) :
    Builds (level + 1) (.chain 0) (.bang :: tokens) (.unary .not expression)
  | operand {level : Nat} {tokens : List Token} {expression : Expression}
    (primary : Builds level .primary tokens expression) : Builds level (.chain 0) tokens expression
  | chain {level looseness : Nat} (first : Written) (links : List (BinaryOperator × Written))
    (room : links.length ≤ level)
    (ofFirst : Builds level (.chain looseness) first.tokens first.expression)
    (own : ∀ link ∈ links, link.1 ∈ Phrase.operators (looseness + 1))
    (ofLinks : ∀ index link, links[index]? = some link →
      Builds (level - (index + 1)) (.chain looseness) link.2.tokens link.2.expression) :
    Builds level (.chain (looseness + 1)) (first.tokens ++ Written.afterOperators links)
      (Written.join first.expression links)
  | unconditional {level : Nat} {tokens : List Token} {expression : Expression}
    (chain : Builds level (.chain 5) tokens expression) :
    Builds level .conditional tokens expression
  | choice {level : Nat} (condition whenTrue whenFalse : Written)
    (ofCondition : Builds (level + 1) (.chain 5) condition.tokens condition.expression)
    (ofTrue : Builds (level + 1) (.chain 5) whenTrue.tokens whenTrue.expression)
    (ofFalse : Builds level .conditional whenFalse.tokens whenFalse.expression) :
    Builds (level + 1) .conditional
      (condition.tokens ++ .question :: (whenTrue.tokens ++ .colon :: whenFalse.tokens))
      (.conditional condition.expression whenTrue.expression whenFalse.expression)
  | unassigned {level : Nat} {tokens : List Token} {expression : Expression}
    (conditional : Builds level .conditional tokens expression) :
    Builds level .assign tokens expression
  | assignment {level : Nat} (identifier : String) (symbol : Assignment) {tokens : List Token}
    {expression : Expression} (operand : Builds level .assign tokens expression) :
    Builds (level + 1) .assign (.name identifier :: .assignment symbol :: tokens)
      (.assign identifier symbol expression)
  | single {level : Nat} {tokens : List Token} {expression : Expression}
    (item : Builds level .assign tokens expression) : Builds level .sequence tokens expression
  | sequence {level : Nat} (first second : Written) (others : List Written)
    (ofFirst : Builds level .assign first.tokens first.expression)
    (ofSecond : Builds level .assign second.tokens second.expression)
    (ofOthers : ∀ item ∈ others, Builds level .assign item.tokens item.expression) :
    Builds level .sequence (first.tokens ++ Written.afterCommas (second :: others))
      (.sequence (first.expression :: second.expression :: others.map Written.expression))

/-! ### The grammar and its limits -/

namespace Builds

variable {level : Nat} {phrase : Phrase} {tokens : List Token} {expression : Expression}

/-- A limit only takes derivations away. -/
theorem derives (builds : Builds level phrase tokens expression) :
    Derives phrase tokens expression := by
  induction builds with
  | integer number => exact .integer number
  | real number => exact .real number
  | text content => exact .text content
  | named identifier => exact .named identifier
  | callOfNothing identifier => exact .callOfNothing identifier
  | call identifier first others _ _ ofFirst ofOthers =>
    exact .call identifier first others ofFirst ofOthers
  | parentheses _ inside => exact .parentheses inside
  | negated _ operand => exact .negated operand
  | denied _ operand => exact .denied operand
  | operand _ primary => exact .operand primary
  | chain first links _ _ own _ ofFirst ofLinks =>
    refine .chain first links ofFirst own fun link member => ?_
    obtain ⟨index, found⟩ := List.getElem?_of_mem member
    exact ofLinks index link found
  | unconditional _ chain => exact .unconditional chain
  | choice condition whenTrue whenFalse _ _ _ ofCondition ofTrue ofFalse =>
    exact .choice condition whenTrue whenFalse ofCondition ofTrue ofFalse
  | unassigned _ conditional => exact .unassigned conditional
  | assignment identifier symbol _ operand => exact .assignment identifier symbol operand
  | single _ item => exact .single item
  | sequence first second others _ _ _ ofFirst ofSecond ofOthers =>
    exact .sequence first second others ofFirst ofSecond ofOthers

theorem succ (builds : Builds level phrase tokens expression) :
    Builds (level + 1) phrase tokens expression := by
  induction builds with
  | integer number => exact .integer number
  | real number => exact .real number
  | text content => exact .text content
  | named identifier => exact .named identifier
  | callOfNothing identifier => exact .callOfNothing identifier
  | call identifier first others _ _ ofFirst ofOthers =>
    exact .call identifier first others ofFirst ofOthers
  | parentheses _ inside => exact .parentheses inside
  | negated _ operand => exact .negated operand
  | denied _ operand => exact .denied operand
  | operand _ primary => exact .operand primary
  | @chain level looseness first links room _ own _ ofFirst ofLinks =>
    refine .chain first links (Nat.le_succ_of_le room) ofFirst own fun index link found => ?_
    have inside : index < links.length := (List.getElem?_eq_some_iff.mp found).1
    have levels : level + 1 - (index + 1) = level - (index + 1) + 1 := by omega
    rw [levels]
    exact ofLinks index link found
  | unconditional _ chain => exact .unconditional chain
  | choice condition whenTrue whenFalse _ _ _ ofCondition ofTrue ofFalse =>
    exact .choice condition whenTrue whenFalse ofCondition ofTrue ofFalse
  | unassigned _ conditional => exact .unassigned conditional
  | assignment identifier symbol _ operand => exact .assignment identifier symbol operand
  | single _ item => exact .single item
  | sequence first second others _ _ _ ofFirst ofSecond ofOthers =>
    exact .sequence first second others ofFirst ofSecond ofOthers

/-- What may be built within a limit may be built within every greater one. -/
theorem mono (builds : Builds level phrase tokens expression) {level' : Nat}
    (greater : level ≤ level') : Builds level' phrase tokens expression := by
  induction greater with
  | refl => exact builds
  | step _ inductionHypothesis => exact inductionHypothesis.succ

/-- Several derivations with limits of their own keep one limit together. -/
theorem exists_common {phrase : Phrase} (items : List Written)
    (each : ∀ item ∈ items, ∃ level, Builds level phrase item.tokens item.expression) :
    ∃ level, ∀ item ∈ items, Builds level phrase item.tokens item.expression := by
  induction items with
  | nil => exact ⟨0, fun _ member => absurd member List.not_mem_nil⟩
  | cons first others inductionHypothesis =>
    obtain ⟨ofFirst, ofOthers⟩ := List.forall_mem_cons.mp each
    obtain ⟨level, builds⟩ := ofFirst
    obtain ⟨level', othersBuild⟩ := inductionHypothesis ofOthers
    refine ⟨max level level', List.forall_mem_cons.mpr ⟨builds.mono (Nat.le_max_left _ _), ?_⟩⟩
    exact fun item member => (othersBuild item member).mono (Nat.le_max_right _ _)

/-- An operand of a chain is a chain without operators. -/
theorem looser {level looseness looseness' : Nat} {tokens : List Token}
    {expression : Expression} (builds : Builds level (.chain looseness) tokens expression)
    (looser : looseness ≤ looseness') : Builds level (.chain looseness') tokens expression := by
  induction looser with
  | refl => exact builds
  | step _ inductionHypothesis =>
    rw [← List.append_nil tokens]
    exact .chain ⟨tokens, expression⟩ [] (Nat.zero_le _) inductionHypothesis
      (fun _ member => absurd member List.not_mem_nil) fun _ _ found => nomatch found

/-- A chain of two operands. -/
theorem binary {level looseness : Nat} {operator : BinaryOperator} (left right : Written)
    (ofLeft : Builds (level + 1) (.chain looseness) left.tokens left.expression)
    (own : operator ∈ Phrase.operators (looseness + 1))
    (ofRight : Builds level (.chain looseness) right.tokens right.expression) :
    Builds (level + 1) (.chain (looseness + 1)) (left.tokens ++ .operator operator :: right.tokens)
      (.binary operator left.expression right.expression) := by
  rw [← List.append_nil right.tokens]
  refine .chain left [(operator, right)] (Nat.succ_le_succ (Nat.zero_le level)) ofLeft
    (List.forall_mem_singleton.mpr own) fun index link found => ?_
  cases index with
  | zero =>
    cases found
    exact ofRight
  | succ index => nomatch found

end Builds

/-- Every derivation keeps some limit. -/
theorem Derives.exists_builds {phrase : Phrase} {tokens : List Token} {expression : Expression}
    (derives : Derives phrase tokens expression) :
    ∃ level, Builds level phrase tokens expression := by
  induction derives with
  | integer number => exact ⟨0, .integer number⟩
  | real number => exact ⟨0, .real number⟩
  | text content => exact ⟨0, .text content⟩
  | named identifier => exact ⟨0, .named identifier⟩
  | callOfNothing identifier => exact ⟨1, .callOfNothing identifier⟩
  | call identifier first others _ _ ofFirst ofOthers =>
    obtain ⟨level, each⟩ := Builds.exists_common (first :: others)
      (List.forall_mem_cons.mpr ⟨ofFirst, ofOthers⟩)
    obtain ⟨ofFirst, ofOthers⟩ := List.forall_mem_cons.mp each
    exact ⟨level + 1, .call identifier first others ofFirst ofOthers⟩
  | parentheses _ inside =>
    obtain ⟨level, inside⟩ := inside
    exact ⟨level + 1, .parentheses inside⟩
  | negated _ operand =>
    obtain ⟨level, operand⟩ := operand
    exact ⟨level + 1, .negated operand⟩
  | denied _ operand =>
    obtain ⟨level, operand⟩ := operand
    exact ⟨level + 1, .denied operand⟩
  | operand _ primary =>
    obtain ⟨level, primary⟩ := primary
    exact ⟨level, .operand primary⟩
  | chain first links _ own _ ofFirst ofLinks =>
    obtain ⟨level, each⟩ := Builds.exists_common (first :: links.map Prod.snd)
      (List.forall_mem_cons.mpr ⟨ofFirst, List.forall_mem_map.mpr ofLinks⟩)
    obtain ⟨ofFirst, ofLinks⟩ := List.forall_mem_cons.mp each
    -- The last link is left with the common limit, the first operand with the most.
    refine ⟨level + links.length, .chain first links (Nat.le_add_left _ _)
      (ofFirst.mono (Nat.le_add_right _ _)) own fun index link found => ?_⟩
    obtain ⟨inside, _⟩ := List.getElem?_eq_some_iff.mp found
    have ofLink := List.forall_mem_map.mp ofLinks link (List.mem_of_getElem? found)
    exact ofLink.mono (by omega)
  | unconditional _ chain =>
    obtain ⟨level, chain⟩ := chain
    exact ⟨level, .unconditional chain⟩
  | choice condition whenTrue whenFalse _ _ _ ofCondition ofTrue ofFalse =>
    obtain ⟨level, each⟩ := Builds.exists_common [condition, whenTrue]
      (List.forall_mem_cons.mpr ⟨ofCondition, List.forall_mem_singleton.mpr ofTrue⟩)
    obtain ⟨ofCondition, ofTrue⟩ := List.forall_mem_cons.mp each
    obtain ⟨level', ofFalse⟩ := ofFalse
    refine ⟨max level level' + 1, .choice condition whenTrue whenFalse
      (ofCondition.mono ?_) ((List.forall_mem_singleton.mp ofTrue).mono ?_) (ofFalse.mono ?_)⟩
    all_goals omega
  | unassigned _ conditional =>
    obtain ⟨level, conditional⟩ := conditional
    exact ⟨level, .unassigned conditional⟩
  | assignment identifier symbol _ operand =>
    obtain ⟨level, operand⟩ := operand
    exact ⟨level + 1, .assignment identifier symbol operand⟩
  | single _ item =>
    obtain ⟨level, item⟩ := item
    exact ⟨level, .single item⟩
  | sequence first second others _ _ _ ofFirst ofSecond ofOthers =>
    obtain ⟨level, each⟩ := Builds.exists_common (first :: second :: others)
      (List.forall_mem_cons.mpr ⟨ofFirst, List.forall_mem_cons.mpr ⟨ofSecond, ofOthers⟩⟩)
    obtain ⟨ofFirst, each⟩ := List.forall_mem_cons.mp each
    obtain ⟨ofSecond, ofOthers⟩ := List.forall_mem_cons.mp each
    exact ⟨level, .sequence first second others ofFirst ofSecond ofOthers⟩

end SlashScript
