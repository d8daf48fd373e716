/-
This file shows the converse of soundness: tokens that build an expression within a limit are read
as that expression, if what follows them cannot belong to them. What may follow a phrase is said
by ranks: a token ends every phrase whose rank is lower than the reach of the token.

So the lists of tokens that are read as expressions are those that build them within the limit.
-/

import SlashScript.Proofs.Grammar.Soundness

namespace SlashScript

open Productions

/-! ### Where phrases end -/

/-- How far out a phrase stands in the grammar. -/
def Phrase.rank : Phrase → Nat
  | primary => 0
  | chain looseness => looseness
  | conditional => 6
  | assign => 7
  | sequence => 8

/-- How far out a token reaches: it ends every phrase of a lower rank. -/
def Token.reach : Token → Nat
  | .openParen => 0
  | .assignment _ => 0
  | .operator symbol => symbol.looseness
  | .question => 6
  | .comma => 8
  | _ => 9

/-- The phrase ends before these tokens: the first of them, if there is one, cannot belong to
it. -/
def Phrase.Ends (phrase : Phrase) (rest : List Token) : Prop :=
  ∀ token ∈ rest.head?, phrase.rank < token.reach

theorem Phrase.Ends.inside {phrase phrase' : Phrase} {rest : List Token} (ends : phrase.Ends rest)
    (inner : phrase'.rank ≤ phrase.rank) : phrase'.Ends rest :=
  fun token first => Nat.lt_of_le_of_lt inner (ends token first)

theorem Phrase.ends_cons {phrase : Phrase} (token : Token) (rest : List Token)
    (reaches : phrase.rank < token.reach) : phrase.Ends (token :: rest) := by
  intro first isFirst
  cases isFirst
  exact reaches

theorem Phrase.ends_nil (phrase : Phrase) : phrase.Ends [] :=
  fun _ first => nomatch first

/-- An item of a list ends before a comma and where the list ends. -/
theorem Phrase.ends_afterCommas (items : List Written) {rest : List Token}
    (ends : Phrase.assign.Ends rest) : Phrase.assign.Ends (Written.afterCommas items ++ rest) := by
  cases items with
  | nil => exact ends
  | cons item items => exact ends_cons _ _ (by decide)

/-- An operand of a chain ends before an operator of the chain and where the chain ends. -/
theorem Phrase.ends_afterOperators {looseness : Nat} (links : List (BinaryOperator × Written))
    (own : ∀ link ∈ links, link.1 ∈ Phrase.operators (looseness + 1)) {rest : List Token}
    (ends : (Phrase.chain (looseness + 1)).Ends rest) :
    (Phrase.chain looseness).Ends (Written.afterOperators links ++ rest) := by
  cases links with
  | nil => exact ends.inside (Nat.le_succ looseness)
  | cons link links =>
    refine ends_cons _ _ ?_
    have isOwn := Phrase.mem_operators_iff.mp (own link List.mem_cons_self)
    show looseness < link.1.looseness
    omega

/-- No phrase starts with a closing parenthesis. -/
theorem Derives.ne_closeParen {phrase : Phrase} {tokens : List Token} {expression : Expression}
    (derives : Derives phrase tokens expression) (rest after : List Token) :
    tokens ++ rest ≠ .closeParen :: after := by
  induction derives generalizing rest with
  | integer | real | text | named | callOfNothing | call | parentheses | negated | denied
  | assignment =>
    intro same
    cases same
  | operand _ inductionHypothesis | unconditional _ inductionHypothesis
  | unassigned _ inductionHypothesis | single _ inductionHypothesis =>
    exact inductionHypothesis rest
  | chain _ _ _ _ _ ofFirst | choice _ _ _ _ _ _ ofFirst | sequence _ _ _ _ _ _ ofFirst =>
    rw [List.append_assoc]
    exact ofFirst _

/-- A phrase that is no assignment does not start like one, unless an assignment sign follows
it. -/
theorem Derives.ne_assignment {phrase : Phrase} {tokens : List Token} {expression : Expression}
    (derives : Derives phrase tokens expression) (inner : phrase.rank ≤ Phrase.conditional.rank)
    {rest : List Token} (ends : Phrase.primary.Ends rest) (identifier : String)
    (symbol : Assignment) (after : List Token) :
    tokens ++ rest ≠ .name identifier :: .assignment symbol :: after := by
  induction derives generalizing rest with
  | integer | real | text | callOfNothing | call | parentheses | negated | denied =>
    intro same
    cases same
  | named =>
    intro same
    have following : rest = .assignment symbol :: after := (List.cons.inj same).2
    rw [following] at ends
    exact absurd (ends _ rfl) (Nat.not_lt_zero 0)
  | operand _ inductionHypothesis => exact inductionHypothesis (Nat.zero_le _) ends
  | unconditional _ inductionHypothesis => exact inductionHypothesis (by decide) ends
  | chain first links _ own _ ofFirst =>
    rw [List.append_assoc]
    refine ofFirst (Nat.le_of_succ_le inner) ?_
    cases links with
    | nil => exact ends
    | cons link links =>
      refine Phrase.ends_cons _ _ ?_
      rw [Token.reach, Phrase.mem_operators_iff.mp (own link List.mem_cons_self)]
      exact Nat.succ_pos _
  | choice _ _ _ _ _ _ ofCondition =>
    rw [List.append_assoc]
    exact ofCondition (by decide) (Phrase.ends_cons _ _ (by decide))
  | unassigned | assignment | single | sequence => exact absurd inner (by decide)

/-! ### What is built is read -/

section

variable {level : Nat} {rest : List Token}

theorem moreItems_of_builds {item : TokenParser Expression} {items : List Written}
    (reads : ∀ written ∈ items, ∀ rest, Phrase.assign.Ends rest →
      item (written.tokens ++ rest) = .ok (written.expression, rest))
    (ends : Phrase.sequence.Ends rest) {limit : Nat} (enough : items.length ≤ limit) :
    moreItems item limit (Written.afterCommas items ++ rest) =
      .ok (items.map Written.expression, rest) := by
  induction items generalizing limit with
  | nil =>
    show moreItems item limit rest = _
    unfold moreItems
    split
    · exact absurd (ends _ rfl) (Nat.lt_irrefl _)
    · rfl
  | cons written items inductionHypothesis =>
    cases limit with
    | zero => cases enough
    | succ limit =>
      obtain ⟨ofFirst, ofOthers⟩ := List.forall_mem_cons.mp reads
      have first := ofFirst (Written.afterCommas items ++ rest)
        (Phrase.ends_afterCommas items (ends.inside (by decide)))
      have others := inductionHypothesis ofOthers (Nat.le_of_succ_le_succ enough)
      have unrolled : Written.afterCommas (written :: items) ++ rest =
          .comma :: (written.tokens ++ (Written.afterCommas items ++ rest)) := by
        simp [Written.afterCommas]
      rw [unrolled, moreItems, first]
      show (moreItems item limit (Written.afterCommas items ++ rest) >>= _) = _
      rw [others]
      rfl

theorem length_le_afterCommas (items : List Written) (rest : List Token) :
    items.length ≤ (Written.afterCommas items ++ rest).length := by
  induction items with
  | nil => exact Nat.zero_le _
  | cons item items inductionHypothesis =>
    simp only [Written.afterCommas, List.flatMap_cons, List.cons_append, List.append_assoc,
      List.length_cons, List.length_append] at inductionHypothesis ⊢
    omega

theorem separated_of_builds {item : TokenParser Expression} (first : Written)
    (others : List Written)
    (reads : ∀ written ∈ first :: others, ∀ rest, Phrase.assign.Ends rest →
      item (written.tokens ++ rest) = .ok (written.expression, rest))
    (ends : Phrase.sequence.Ends rest) :
    separated item (first.tokens ++ Written.afterCommas others ++ rest) =
      .ok (first.expression :: others.map Written.expression, rest) := by
  obtain ⟨ofFirst, ofOthers⟩ := List.forall_mem_cons.mp reads
  have firstRead := ofFirst (Written.afterCommas others ++ rest)
    (Phrase.ends_afterCommas others (ends.inside (by decide)))
  have othersRead := moreItems_of_builds ofOthers ends (length_le_afterCommas others rest)
  rw [List.append_assoc, separated, firstRead]
  show (moreItems item _ (Written.afterCommas others ++ rest) >>= _) = _
  rw [othersRead]
  rfl

theorem chainRest_of_end {inner : Productions} {looseness : Nat} {left : Expression}
    (ends : (Phrase.chain looseness).Ends rest) :
    chainRest inner looseness left rest = .ok (left, rest) := by
  unfold chainRest
  split
  · rename_i operator after
    have looser : looseness < operator.looseness := ends _ rfl
    rw [if_neg (Nat.ne_of_gt looser)]
  · rfl

theorem chainRest_of_builds {looseness : Nat} (left : Expression)
    {links : List (BinaryOperator × Written)} (room : links.length ≤ level)
    (own : ∀ link ∈ links, link.1 ∈ Phrase.operators (looseness + 1))
    (reads : ∀ index link, links[index]? = some link → ∀ rest, (Phrase.chain looseness).Ends rest →
      Productions.chain (atLevel (level - (index + 1))) looseness (link.2.tokens ++ rest) =
        .ok (link.2.expression, rest))
    (ends : (Phrase.chain (looseness + 1)).Ends rest) :
    chainRest (atLevel level) (looseness + 1) left (Written.afterOperators links ++ rest) =
      .ok (Written.join left links, rest) := by
  induction links generalizing level left with
  | nil => exact chainRest_of_end ends
  | cons link links inductionHypothesis =>
    cases level with
    | zero => cases room
    | succ lower =>
      obtain ⟨isOwn, allOwn⟩ := List.forall_mem_cons.mp own
      have operand : Productions.chain (atLevel lower) looseness _ = _ :=
        reads 0 link rfl (Written.afterOperators links ++ rest)
          (Phrase.ends_afterOperators links allOwn ends)
      have further : chainRest (atLevel lower) (looseness + 1)
          (.binary link.1 left link.2.expression) (Written.afterOperators links ++ rest) = _ :=
        inductionHypothesis _ (Nat.le_of_succ_le_succ room) allOwn fun index next found => by
          have later := reads (index + 1) next found
          rwa [Nat.add_sub_add_right] at later
      have unrolled : Written.afterOperators (link :: links) ++ rest =
          .operator link.1 :: (link.2.tokens ++ (Written.afterOperators links ++ rest)) := by
        simp [Written.afterOperators]
      rw [unrolled, chainRest, if_pos (Phrase.mem_operators_iff.mp isOwn)]
      show (Productions.chain (atLevel lower) looseness _ >>= _) = _
      rw [operand]
      exact further

theorem primary_named {inner : Productions} (identifier : String)
    (ends : Phrase.primary.Ends rest) :
    Productions.primary inner (.name identifier :: rest) = .ok (.named identifier, rest) := by
  cases rest with
  | nil => rfl
  | cons token after =>
    cases token with
    | openParen => exact absurd (ends _ rfl) (Nat.lt_irrefl _)
    | _ => rfl

theorem argumentList_of_builds {inner : Productions} {tokens : List Token}
    (opened : ∀ after, tokens ≠ .closeParen :: after) :
    argumentList inner tokens = separated (assignable inner) tokens := by
  unfold argumentList
  split
  · exact absurd rfl (opened _)
  · rfl

theorem assignable_of_builds {inner : Productions} {tokens : List Token}
    (unassigned : ∀ identifier symbol after,
      tokens ≠ .name identifier :: .assignment symbol :: after) :
    assignable inner tokens = choice inner tokens := by
  unfold assignable
  split
  · exact absurd rfl (unassigned _ _ _)
  · rfl

theorem signed_of_primary {inner : Productions} {tokens : List Token} {expression : Expression}
    (result : Productions.primary inner tokens = .ok (expression, rest)) :
    signed inner tokens = .ok (expression, rest) := by
  unfold signed
  split
  · cases result
  · cases result
  · exact result

/-- Tokens that build an expression within a limit are read as it under that limit, if the phrase
ends there. -/
theorem Builds.parser_eq {phrase : Phrase} {tokens : List Token} {expression : Expression}
    (builds : Builds level phrase tokens expression) (ends : phrase.Ends rest) :
    phrase.parser (atLevel level) (tokens ++ rest) = .ok (expression, rest) := by
  induction builds generalizing rest with
  | integer | real | text => rfl
  | named identifier => exact primary_named identifier ends
  | callOfNothing identifier => rfl
  | @call level identifier first others ofFirst _ readsFirst readsOthers =>
    have items := separated_of_builds first others
      (List.forall_mem_cons.mpr ⟨fun _ => readsFirst, fun item member _ => readsOthers item member⟩)
      (Phrase.ends_cons .closeParen rest (by decide))
    have arguments : (atLevel (level + 1)).arguments
        (first.tokens ++ Written.afterCommas others ++ .closeParen :: rest) =
          .ok (first.expression :: others.map Written.expression, .closeParen :: rest) := by
      refine (argumentList_of_builds ?_).trans items
      rw [List.append_assoc]
      exact ofFirst.derives.ne_closeParen _
    show Productions.primary (atLevel (level + 1)) (.name identifier :: .openParen ::
      (first.tokens ++ Written.afterCommas others ++ [.closeParen] ++ rest)) = _
    rw [List.append_assoc, List.singleton_append, Productions.primary, arguments]
    rfl
  | @parentheses level tokens expression _ inductionHypothesis =>
    have inside : (atLevel (level + 1)).sequence (tokens ++ .closeParen :: rest) = _ :=
      inductionHypothesis (Phrase.ends_cons .closeParen rest (by decide))
    show Productions.primary (atLevel (level + 1))
      (.openParen :: (tokens ++ [.closeParen] ++ rest)) = _
    rw [List.append_assoc, List.singleton_append, Productions.primary, inside]
    rfl
  | @negated level tokens expression _ inductionHypothesis =>
    have operand : (atLevel (level + 1)).unary (tokens ++ rest) = _ := inductionHypothesis ends
    show signed (atLevel (level + 1)) (.operator .sub :: (tokens ++ rest)) = _
    rw [signed, operand]
    rfl
  | @denied level tokens expression _ inductionHypothesis =>
    have operand : (atLevel (level + 1)).unary (tokens ++ rest) = _ := inductionHypothesis ends
    show signed (atLevel (level + 1)) (.bang :: (tokens ++ rest)) = _
    rw [signed, operand]
    rfl
  | operand _ inductionHypothesis => exact signed_of_primary (inductionHypothesis ends)
  | chain first links room _ own _ readsFirst readsLinks =>
    have head := readsFirst (Phrase.ends_afterOperators links own ends)
    have further := chainRest_of_builds first.expression room own
      (fun index link found _ => readsLinks index link found) ends
    rw [List.append_assoc]
    exact bind_eq_ok.mpr ⟨_, head, further⟩
  | unconditional _ inductionHypothesis =>
    refine bind_eq_ok.mpr ⟨_, inductionHypothesis (ends.inside (by decide)), ?_⟩
    dsimp only
    split
    · exact absurd (ends _ rfl) (Nat.lt_irrefl _)
    · rfl
  | @choice level condition whenTrue whenFalse _ _ _ readsCondition readsTrue readsFalse =>
    have first := readsCondition (Phrase.ends_cons .question
      (whenTrue.tokens ++ .colon :: (whenFalse.tokens ++ rest)) (by decide))
    have second := readsTrue (Phrase.ends_cons .colon (whenFalse.tokens ++ rest) (by decide))
    have third : (atLevel (level + 1)).conditional (whenFalse.tokens ++ rest) = _ :=
      readsFalse ends
    simp only [List.append_assoc, List.cons_append]
    exact bind_eq_ok.mpr ⟨_, first, bind_eq_ok.mpr ⟨_, second, bind_eq_ok.mpr ⟨_, third, rfl⟩⟩⟩
  | unassigned conditional inductionHypothesis =>
    have ends' : Phrase.conditional.Ends rest := ends.inside (by decide)
    exact (assignable_of_builds (conditional.derives.ne_assignment (Nat.le_refl _)
      (ends'.inside (Nat.zero_le _)))).trans (inductionHypothesis ends')
  | @assignment level identifier symbol tokens expression _ inductionHypothesis =>
    have operand : (atLevel (level + 1)).assign (tokens ++ rest) = _ := inductionHypothesis ends
    show assignable (atLevel (level + 1))
      (.name identifier :: .assignment symbol :: (tokens ++ rest)) = _
    rw [assignable, operand]
    rfl
  | @single level tokens expression _ inductionHypothesis =>
    have items := separated_of_builds ⟨tokens, expression⟩ []
      (List.forall_mem_singleton.mpr fun _ => inductionHypothesis) ends
    rw [Written.afterCommas, List.flatMap_nil, List.append_nil] at items
    exact bind_eq_ok.mpr ⟨_, items, rfl⟩
  | sequence first second others _ _ _ readsFirst readsSecond readsOthers =>
    have items := separated_of_builds first (second :: others)
      (List.forall_mem_cons.mpr ⟨fun _ => readsFirst, List.forall_mem_cons.mpr
        ⟨fun _ => readsSecond, fun item member _ => readsOthers item member⟩⟩) ends
    exact bind_eq_ok.mpr ⟨_, items, rfl⟩

end

/-- Tokens are read as an expression exactly if they build it within the limit. -/
theorem Expression.ofTokens_eq_ok_iff {tokens : List Token} {expression : Expression} :
    Expression.ofTokens tokens = .ok expression ↔ Builds maxDepth .sequence tokens expression := by
  constructor
  · intro result
    obtain ⟨⟨expression', rest⟩, sequence, finished⟩ := bind_eq_ok.mp result
    obtain ⟨used, rfl, builds⟩ := (sound maxDepth).reads .sequence sequence
    cases rest with
    | nil =>
      cases finished
      rw [List.append_nil]
      exact builds
    | cons token rest => cases finished
  · intro builds
    have sequence := builds.parser_eq (Phrase.ends_nil _)
    rw [List.append_nil] at sequence
    exact bind_eq_ok.mpr ⟨_, sequence, rfl⟩

example : Expression.ofTokens [.operator .sub, .name "x", .operator .add, .openParen, .name "y",
    .comma, .name "z", .closeParen, .operator .mul, .name "w"] =
      .ok (.binary .add (.unary .neg (.named "x"))
        (.binary .mul (.sequence [.named "y", .named "z"]) (.named "w"))) :=
  rfl

end SlashScript
