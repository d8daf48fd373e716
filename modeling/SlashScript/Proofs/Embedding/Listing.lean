/-
This file follows items that are joined by commas through the stages of reading and running. Each
item by itself is accepted by the production of assignments. A comma ends every token, so the tokens
of the joined text are those of the items with commas between them, and the expression is the
sequence of the items. The command that lists items evaluates and emits each of them in turn. Only
for a single item this can differ: parentheses leave nothing behind in a tree, so a sequence in
parentheses is then the same expression as the list of its parts, and the parts are emitted.
-/

import SlashScript.Proofs.Books
import SlashScript.Proofs.Embedding.Commands

namespace SlashScript

/-! ### Tokens of a joined text -/

namespace Token

/-- Two texts are read one after the other if the second begins with a character by which every
token ends. -/
theorem Lexes.append {stop : Char} (closing : closes stop = true) {text after : List Char}
    {first second : List Token} (lexes : Lexes text first)
    (ofAfter : Lexes (stop :: after) second) :
    Lexes (text ++ stop :: after) (first ++ second) := by
  induction lexes with
  | nil => exact ofAfter
  | blank isBlank _ ofRest => exact .blank isBlank ofRest
  | @token mark rest _ _ _ notBlank step _ ofRest =>
    refine .token notBlank ?_ ofRest
    rcases Bool.eq_false_or_eq_true (isQuotationMark mark) with isMark | notMark
    · rw [read_of_isQuotationMark _ isMark] at step
      obtain ⟨⟨content, _⟩, quoted, ⟨⟩⟩ := map_eq_ok.mp step
      obtain ⟨body, rfl, quotes⟩ := exists_of_readQuoted quoted
      show read mark ((body ++ mark :: _) ++ stop :: after) = _
      rw [read_of_isQuotationMark _ isMark, List.append_assoc, List.cons_append,
        quotes.readQuoted_append (ne_backslash_of_isQuotationMark isMark)]
      rfl
    · exact (read_append notMark closing rest after).trans (map_eq_ok.mpr ⟨_, step, rfl⟩)

end Token

namespace Expression

/-! ### Items and lists of them -/

/-- By itself the text is accepted as this expression by the production of assignments. -/
def IsItem (source : List Char) (item : Expression) : Prop :=
  ∃ tokens, Token.readAll source = .ok tokens ∧
    (Productions.atLevel (Productions.maxDepth + 1)).assign tokens = .ok (item, [])

/-- The tokens write an item of this text. -/
structure WritesItem (source : List Char) (written : Written) : Prop where
  lexes : Token.Lexes source written.tokens
  builds : Builds Productions.maxDepth .assign written.tokens written.expression

theorem IsItem.exists_written {source : List Char} {item : Expression}
    (isItem : IsItem source item) :
    ∃ written : Written, WritesItem source written ∧ written.expression = item ∧
      Builds Productions.maxDepth .assign written.tokens written.expression := by
  obtain ⟨tokens, read, assigned⟩ := isItem
  obtain ⟨used, whole, builds⟩ := (sound Productions.maxDepth).reads .assign assigned
  rw [List.append_nil] at whole
  subst whole
  exact ⟨⟨tokens, item⟩, ⟨Token.readAll_eq_ok_iff.mp read, builds⟩, rfl, builds⟩

/-- The items of a list as they are written. -/
def joined (sources : List (List Char)) : List Char :=
  [',', ' '].intercalate sources

/-- The expression of a list of items; a single one stands for itself. -/
def ofItems : List Expression → Expression
  | [single] => single
  | items => .sequence items

/-- The items of a list are found again, unless the only item is a list itself. -/
theorem items_ofItems {items : List Expression} (notSequence : ∀ parts, items ≠ [.sequence parts]) :
    (ofItems items).items = items := by
  rcases items with _ | ⟨single, _ | ⟨second, others⟩⟩
  · rfl
  · cases single with
    | sequence parts => exact absurd rfl (notSequence parts)
    | literal | named | unary | binary | conditional | assign | call => rfl
  · rfl

theorem joined_cons_cons (first second : List Char) (others : List (List Char)) :
    joined (first :: second :: others) = first ++ ',' :: ' ' :: joined (second :: others) := by
  unfold joined
  rw [List.intercalate_cons_cons, List.append_assoc]
  rfl

/-- The tokens of a list are those of its items, with commas between them. -/
theorem lexes_joined {source : List Char} {sources : List (List Char)} {first : Written}
    {others : List Written} (ofFirst : WritesItem source first)
    (ofOthers : List.Forall₂ WritesItem sources others) :
    Token.Lexes (joined (source :: sources)) (first.tokens ++ Written.afterCommas others) := by
  induction ofOthers generalizing source first with
  | nil =>
    rw [joined, List.intercalate_singleton, Written.afterCommas, List.flatMap_nil, List.append_nil]
    exact ofFirst.lexes
  | cons ofSecond _ inductionHypothesis =>
    rw [joined_cons_cons]
    refine ofFirst.lexes.append (by decide) (.token rfl rfl (.blank rfl ?_))
    exact inductionHypothesis ofSecond

theorem builds_ofItems {level : Nat} {first : Written} {others : List Written}
    (each : ∀ item ∈ first :: others, Builds level .assign item.tokens item.expression) :
    Builds level .sequence (first.tokens ++ Written.afterCommas others)
      (ofItems ((first :: others).map Written.expression)) := by
  obtain ⟨ofFirst, ofOthers⟩ := List.forall_mem_cons.mp each
  cases others with
  | nil =>
    rw [Written.afterCommas, List.flatMap_nil, List.append_nil]
    exact .single ofFirst
  | cons second others =>
    obtain ⟨ofSecond, ofOthers⟩ := List.forall_mem_cons.mp ofOthers
    exact .sequence first second others ofFirst ofSecond ofOthers

/-- If a reader accepts only texts whose tokens write an item within the limit, what it reads from
several texts is written by their tokens, text by text. -/
theorem exists_written {level : Nat} {Reads : List Char → Expression → Prop}
    (writes : ∀ {source item}, Reads source item → ∃ written : Written,
      WritesItem source written ∧ written.expression = item ∧
        Builds level .assign written.tokens written.expression)
    {sources : List (List Char)} {items : List Expression}
    (areRead : List.Forall₂ Reads sources items) :
    ∃ written, List.Forall₂ WritesItem sources written ∧
      written.map Written.expression = items ∧
        ∀ item ∈ written, Builds level .assign item.tokens item.expression := by
  induction areRead with
  | nil => exact ⟨[], .nil, rfl, nofun⟩
  | cons isRead _ inductionHypothesis =>
    obtain ⟨first, ofFirst, rfl, builds⟩ := writes isRead
    obtain ⟨others, ofOthers, rfl, each⟩ := inductionHypothesis
    exact ⟨first :: others, .cons ofFirst ofOthers, rfl, List.forall_mem_cons.mpr ⟨builds, each⟩⟩

/-- Items with commas between them are accepted as the list of the items. -/
theorem parse_joined {sources : List (List Char)} {items : List Expression}
    (areItems : List.Forall₂ IsItem sources items) (nonempty : sources ≠ []) :
    parse (joined sources) = .ok (ofItems items) := by
  obtain ⟨written, areWritten, rfl, each⟩ := exists_written IsItem.exists_written areItems
  cases areWritten with
  | nil => exact absurd rfl nonempty
  | cons ofFirst ofOthers =>
    have read := Token.readAll_eq_ok_iff.mpr (lexes_joined ofFirst ofOthers)
    exact bind_eq_ok.mpr ⟨_, read, ofTokens_eq_ok_iff.mpr (builds_ofItems each)⟩

theorem newline_not_mem_joined {sources : List (List Char)}
    (oneLine : ∀ source ∈ sources, '\n' ∉ source) : '\n' ∉ joined sources := by
  induction sources with
  | nil => nofun
  | cons first others inductionHypothesis =>
    obtain ⟨ofFirst, ofOthers⟩ := List.forall_mem_cons.mp oneLine
    cases others with
    | nil => simpa [joined] using ofFirst
    | cons second others => simpa [joined_cons_cons, ofFirst] using inductionHypothesis ofOthers

end Expression

/-- Two characters that stand side by side do so on one side of any third. -/
theorem Layout.pair_infix_append {first second between : Char} (notFirst : between ≠ first)
    (notSecond : between ≠ second) {before after : List Char}
    (isInfix : [first, second] <:+: before ++ between :: after) :
    [first, second] <:+: before ∨ [first, second] <:+: after := by
  obtain ⟨start, rest, whole⟩ := isInfix
  rw [List.append_assoc] at whole
  rcases List.append_eq_append_iff.mp whole with ⟨more, rfl, isRest⟩ | ⟨more, rfl, isRest⟩
  · rcases more with _ | ⟨_, _ | ⟨_, more⟩⟩
    · exact absurd (List.cons.inj isRest).1.symm notFirst
    · exact absurd (List.cons.inj (List.cons.inj isRest).2).1.symm notSecond
    · obtain ⟨rfl, isLater⟩ := List.cons.inj isRest
      obtain ⟨rfl, -⟩ := List.cons.inj isLater
      exact .inl ⟨start, more, List.append_assoc ..⟩
  · rcases more with _ | ⟨_, more⟩
    · exact absurd (List.cons.inj isRest).1 notFirst
    obtain ⟨-, rfl⟩ := List.cons.inj isRest
    exact .inr ⟨more, rest, List.append_assoc ..⟩

theorem Expression.no_separator_joined {sources : List (List Char)}
    (noSeparator : ∀ source ∈ sources, ¬ ['%', ';'] <:+: source) :
    ¬ ['%', ';'] <:+: joined sources := by
  induction sources with
  | nil => exact fun isInfix => absurd (List.infix_nil.mp isInfix) (List.cons_ne_nil _ _)
  | cons first others inductionHypothesis =>
    obtain ⟨ofFirst, ofOthers⟩ := List.forall_mem_cons.mp noSeparator
    rcases others with _ | ⟨second, others⟩
    · rwa [joined, List.intercalate_singleton]
    rw [joined_cons_cons]
    intro isInfix
    rcases Layout.pair_infix_append (by decide) (by decide) isInfix with inFirst | later
    · exact ofFirst inFirst
    -- The blank after the comma takes no part in a separator either.
    rcases @Layout.pair_infix_append '%' ';' ' ' (by decide) (by decide) [] _ later with
      never | inOthers
    · exact absurd (List.infix_nil.mp never) (List.cons_ne_nil _ _)
    · exact inductionHypothesis ofOthers inOthers

/-- A sequence in parentheses has at least two parts. -/
theorem Derives.two_le_length {phrase : Phrase} {tokens : List Token} {parts : List Expression}
    (derives : Derives phrase tokens (.sequence parts)) : 2 ≤ parts.length := by
  generalize isSequence : Expression.sequence parts = expression at derives
  induction derives with
  | integer | real | text | named | callOfNothing | call | negated | denied | choice
  | assignment => cases isSequence
  | parentheses _ same | operand _ same | unconditional _ same | unassigned _ same
  | single _ same => exact same isSequence
  | chain first links _ _ _ ofFirst =>
    rcases List.eq_nil_or_concat' links with rfl | ⟨before, last, rfl⟩
    · exact ofFirst isSequence
    · rw [Written.join, List.foldl_concat] at isSequence
      cases isSequence
  | sequence first second others =>
    cases isSequence
    simp

/-! ### Values one after the other -/

namespace Sink

variable {Outside : Type}

/-- The delivery after several values were handed over. -/
def pushAll (sink : Sink Outside) (invocation : Nat) (values : List Value)
    (delivery : Delivery Outside) : Delivery Outside :=
  values.foldl (fun delivery value => sink.push invocation value delivery) delivery

/-- The calls of a sink that gets several values, and what they do. -/
theorem pushAll_recorded (sink : Sink Outside) (invocation : Nat) (values : List Value)
    (outside : Outside) :
    sink.recorded.pushAll invocation values ⟨(outside, []), 0, 0⟩ =
      ⟨((OutputEvent.numbered invocation values).foldl (fun outside event =>
            sink.output event outside) outside,
          (OutputEvent.numbered invocation values).map .output), values.length, 0⟩ := by
  induction values using List.reverseRecOn with
  | nil => rfl
  | append_singleton values value inductionHypothesis =>
    rw [pushAll, List.foldl_concat, ← pushAll, inductionHypothesis, OutputEvent.numbered_append,
      List.foldl_concat, List.map_append, List.length_append]
    rfl

end Sink

theorem Evaluation.exists_of_bind {First Second : Type} {first : Evaluation First}
    {second : First → Evaluation Second} {workspace after : Workspace} {result : Second}
    (evaluates : first.bind second workspace = (.ok result, after)) :
    ∃ value between, first workspace = (.ok value, between) ∧
      second value between = (.ok result, after) := by
  rw [bind] at evaluates
  split at evaluates
  · next value between isFirst => exact ⟨value, between, isFirst, evaluates⟩
  · cases evaluates

theorem Expression.exists_of_evaluateAll_cons {first : Expression} {others : List Expression}
    {workspace after : Workspace} {values : List Value}
    (evaluates : evaluateAll (first :: others) workspace = (.ok values, after)) :
    ∃ value between more, first.evaluate workspace = (.ok value, between) ∧
      evaluateAll others between = (.ok more, after) ∧ values = value :: more := by
  rw [evaluateAll] at evaluates
  obtain ⟨value, between, isFirst, ofOthers⟩ := Evaluation.exists_of_bind evaluates
  obtain ⟨more, _, areOthers, isAll⟩ := Evaluation.exists_of_bind ofOthers
  cases isAll
  exact ⟨value, between, more, isFirst, areOthers, rfl⟩

/-- Each expression has its value. -/
theorem Expression.length_of_evaluateAll {items : List Expression} {workspace after : Workspace}
    {values : List Value} (evaluates : evaluateAll items workspace = (.ok values, after)) :
    values.length = items.length := by
  induction items generalizing workspace values with
  | nil =>
    cases evaluates
    rfl
  | cons first others inductionHypothesis =>
    obtain ⟨value, between, more, _, ofOthers, rfl⟩ := exists_of_evaluateAll_cons evaluates
    rw [List.length_cons, List.length_cons, inductionHypothesis ofOthers]

/-- Where no evaluation fails, a sink that cancels nothing gets all the values. -/
theorem Interpreter.serve_emitAll {Outside Result : Type} {sink : Sink Outside} (quiet : sink.Quiet)
    (action : ErrorAction) (invocation : Nat)
    (continuation : Flow → Workspace → Run Workspace Result)
    {items : List Expression} {workspace after : Workspace} {values : List Value}
    (evaluates : Expression.evaluateAll items workspace = (.ok values, after))
    {delivery : Delivery Outside} (live : sink.isCancelled delivery.outside = false) :
    ((emitAll items workspace).bind continuation).serve (sink.host action invocation) delivery =
      (continuation .normal after).serve (sink.host action invocation)
        (sink.pushAll invocation values delivery) := by
  induction items generalizing workspace values delivery with
  | nil =>
    cases evaluates
    rfl
  | cons first others inductionHypothesis =>
    obtain ⟨value, between, more, isFirst, ofOthers, rfl⟩ :=
      Expression.exists_of_evaluateAll_cons evaluates
    rw [emitAll, evaluating, isFirst]
    refine (Run.serve_emit_of_take (Sink.deliver_of_live live invocation value)).trans ?_
    exact inductionHypothesis ofOthers (quiet.push live invocation value)

/-! ### Scripts that list values -/

/-- What an invocation comes to that emits these values, leaves its workspace like this and does
nothing else. -/
def Session.emittedAll {Outside : Type} (sink : Sink Outside) (values : List Value)
    (after : Workspace) (session : Session Outside) : Upshot Outside where
  result := .ok ⟨session.engine.next, values.length, 0⟩
  inside := after
  session := ⟨session.advanced, after.leave session.workspace,
    (OutputEvent.numbered session.engine.next values).foldl (fun outside event =>
      sink.output event outside) session.outside⟩
  calls := (OutputEvent.numbered session.engine.next values).map .output

/-- In every session in which the expressions can be evaluated one after the other, the script emits
the value of each, under every sink that cancels nothing, and does nothing else. -/
def Script.EmitsEach (script : Script) (items : List Expression) : Prop :=
  ∀ {Outside : Type} (sink : Sink Outside) (session : Session Outside) (request : Request),
    request.script = script → sink.Quiet → sink.isCancelled session.outside = false →
      ∀ {values : List Value} {after : Workspace},
        Expression.evaluateAll items (session.workspace.enter request.mode request.arguments) =
            (.ok values, after) →
          values.length = items.length ∧
            session.upshot sink request = session.emittedAll sink values after ∧
              ∀ upshot, session.Yields sink request upshot →
                upshot = session.emittedAll sink values after

theorem Script.emitsEach {script : Script} {items : List Expression}
    (single : script.statements = [.emit items]) : script.EmitsEach items := by
  rintro Outside sink session request rfl quiet live values after evaluates
  have served : session.recording.served sink.recorded request =
      ⟨.finished (), after, sink.recorded.pushAll session.engine.next values
        ⟨(session.outside, []), 0, 0⟩⟩ := by
    have liveRecorded : sink.recorded.isCancelled session.recording.outside = false := live
    unfold Session.served Session.run Interpreter.runScript
    rw [single, Interpreter.runBlock, Run.bind, Run.serve, Run.bind_assoc]
    refine (if_neg (ne_true_of_eq_false liveRecorded)).trans ?_
    exact Interpreter.serve_emitAll quiet.recorded _ _ _ evaluates liveRecorded
  have atOnce : session.upshot sink request = session.emittedAll sink values after := by
    rw [Session.upshot_of_live live, served, Sink.pushAll_recorded]
    rfl
  refine ⟨Expression.length_of_evaluateAll evaluates, atOnce, fun upshot yields => ?_⟩
  rw [yields.eq_of_quiet quiet, atOnce]

/-- The command that lists items, joined by commas, emits the value of each in turn. It does so for
a single item as well, unless the item is a sequence in parentheses; then it emits the value of each
part of the sequence. -/
theorem Script.compile_joined {sources : List (List Char)} {items : List Expression}
    (areItems : List.Forall₂ Expression.IsItem sources items) (nonempty : sources ≠ [])
    (oneLine : ∀ source ∈ sources, '\n' ∉ source)
    (noSeparator : ∀ source ∈ sources, ¬ ['%', ';'] <:+: source) :
    ∃ script, compile ("/emit " ++ String.ofList (Expression.joined sources)) = .ok script ∧
      ((∀ parts, items ≠ [.sequence parts]) →
        script.statements = [.emit items] ∧ script.EmitsEach items) ∧
        ∀ parts, items = [.sequence parts] → 2 ≤ parts.length ∧
          script.statements = [.emit parts] ∧ script.EmitsEach parts := by
  have source : ("/emit " ++ String.ofList (Expression.joined sources)).toList =
      Statement.commanding "emit" (Expression.joined sources) := by
    simp [Statement.commanding]
  have accepted := Expression.parse_joined areItems nonempty
  have whole := Layout.splitStatements_of_quoting (Expression.quoting_of_parse accepted)
    (.inr (Expression.no_separator_joined noSeparator))
  have oneLineJoined := Expression.newline_not_mem_joined oneLine
  have parsed := (Statement.parse_commanding Statement.emit_takesExpression oneLineJoined
    accepted).1 whole
  rw [← source] at parsed
  refine ⟨_, map_eq_ok.mpr ⟨_, parsed, rfl⟩, fun notSequence => ?_, ?_⟩
  · rw [Expression.items_ofItems notSequence]
    exact ⟨rfl, emitsEach rfl⟩
  · rintro parts rfl
    cases areItems with
    | cons isItem _ =>
      obtain ⟨⟨_, _⟩, ofItem, rfl, _⟩ := isItem.exists_written
      exact ⟨ofItem.builds.derives.two_le_length, rfl, emitsEach rfl⟩

theorem Expression.isItem_pair :
    IsItem "(1, 2)".toList (.sequence [.literal (.integer 1), .literal (.integer 2)]) :=
  ⟨[.openParen, .integer 1, .comma, .integer 2, .closeParen],
    Token.readAll_eq_ok_iff.mpr <| .token rfl rfl <| .token rfl rfl <| .token rfl rfl <|
      .blank rfl <| .token rfl rfl <| .token rfl rfl .nil, rfl⟩

/-- Beside another item a sequence in parentheses counts as one. -/
theorem Script.compile_joined_pair :
    ∃ script, compile "/emit (1, 2), x = 3" = .ok script ∧
      script.EmitsEach [.sequence [.literal (.integer 1), .literal (.integer 2)],
        .assign "x" .set (.literal (.integer 3))] := by
  have isSecond : Expression.IsItem "x = 3".toList (.assign "x" .set (.literal (.integer 3))) :=
    ⟨[.name "x", .assignment .set, .integer 3],
      Token.readAll_eq_ok_iff.mpr <| .token rfl rfl <| .blank rfl <| .token rfl rfl <|
        .blank rfl <| .token rfl rfl .nil, rfl⟩
  obtain ⟨script, compiled, each, _⟩ := compile_joined
    (.cons Expression.isItem_pair (.cons isSecond .nil)) (List.cons_ne_nil _ _) (by decide)
    (by decide)
  refine ⟨script, compiled, (each fun parts alone => ?_).2⟩
  exact List.cons_ne_nil _ _ (List.tail_eq_of_cons_eq alone)

/-- By itself it does not. -/
theorem Script.not_compile_joined :
    Expression.IsItem "(1, 2)".toList
        (.sequence [.literal (.integer 1), .literal (.integer 2)]) ∧
      '\n' ∉ "(1, 2)".toList ∧ ¬ ['%', ';'] <:+: "(1, 2)".toList ∧
        ¬ ∃ script, compile "/emit (1, 2)" = .ok script ∧
          script.EmitsEach [.sequence [.literal (.integer 1), .literal (.integer 2)]] := by
  refine ⟨Expression.isItem_pair, by decide, by decide, ?_⟩
  rintro ⟨script, compiled, one⟩
  have accepted : Expression.parse "(1, 2)".toList = .ok _ :=
    Expression.parse_joined (.cons Expression.isItem_pair .nil) (List.cons_ne_nil _ _)
  have parsed : Statement.parse (Statement.commanding "emit" "(1, 2)".toList) =
      .ok [.emit [.literal (.integer 1), .literal (.integer 2)]] :=
    (Statement.parse_commanding Statement.emit_takesExpression (by decide) accepted).1
      (Layout.splitStatements_of_quoting (Expression.quoting_of_parse accepted) (.inr (by decide)))
  obtain ⟨block, isBlock, rfl⟩ := map_eq_ok.mp compiled
  cases parsed.symm.trans isBlock
  let request : Request := ⟨⟨"/emit (1, 2)",
    [.emit [.literal (.integer 1), .literal (.integer 2)]]⟩, [], .newScope, .stop⟩
  have alone := one (Sink.collector true) .beginning request rfl (Sink.collector_quiet true) rfl rfl
  have each := emitsEach rfl (Sink.collector true) .beginning request rfl
    (Sink.collector_quiet true) rfl rfl
  -- One call would be as many as two.
  cases congrArg (·.calls.length) (alone.2.1.symm.trans each.2.1)

end SlashScript
