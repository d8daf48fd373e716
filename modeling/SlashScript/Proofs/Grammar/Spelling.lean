/-
This file gives texts to lists of tokens. Reading a text cuts off one token after the other; so
texts that stand for one token each, whatever follows them, stand together for all their tokens.
-/

import SlashScript.Expression.Token

namespace SlashScript

namespace Token

theorem readAll_eq (chars : List Char) : readAll chars =
    match Text.trimStart chars with
    | [] => .ok []
    | first :: rest =>
      read first rest >>= fun (token, after) => (readAll after).map (token :: ·) := by
  rw [readAll]
  split
  · rename_i start
    rw [start]
  · rename_i first rest start
    rw [start]
    dsimp only
    split
    · rename_i step
      rw [step]
      rfl
    · rename_i step
      rw [step]
      rfl

theorem readAll_cons {first : Char} {rest after : List Char} {token : Token}
    (notBlank : Text.isBlank first = false) (step : read first rest = .ok (token, after)) :
    readAll (first :: rest) = (readAll after).map (token :: ·) := by
  rw [readAll_eq, Text.trimStart_of_not_blank first rest notBlank]
  dsimp only
  rw [step]
  rfl

/-- The text stands for the token, whatever follows it. -/
def Writes (text : List Char) (token : Token) : Prop :=
  ∀ rest, readAll (text ++ rest) = (readAll rest).map (token :: ·)

/-- A text that starts with no blank and of which one blank remains. -/
theorem writes_of_read {token : Token} {first : Char} {text : List Char}
    (notBlank : Text.isBlank first = false)
    (step : ∀ rest, read first (text ++ rest) = .ok (token, ' ' :: rest)) :
    Writes (first :: text) token := by
  intro rest
  have blank : readAll (' ' :: rest) = readAll rest := by
    rw [readAll_eq, readAll_eq rest]
    rfl
  rw [← blank]
  exact readAll_cons notBlank (step rest)

/-- The texts of several tokens, one after the other. -/
theorem readAll_flatMap {written : List (List Char × Token)}
    (each : ∀ pair ∈ written, Writes pair.1 pair.2) :
    readAll (written.flatMap Prod.fst) = .ok (written.map Prod.snd) := by
  induction written with
  | nil =>
    rw [readAll_eq]
    rfl
  | cons pair written inductionHypothesis =>
    obtain ⟨ofFirst, ofOthers⟩ := List.forall_mem_cons.mp each
    rw [List.flatMap_cons, ofFirst, inductionHypothesis ofOthers]
    rfl

theorem writes_name : Writes ['x', ' '] (name "x") :=
  writes_of_read (by decide) fun _ => rfl

theorem writes_openParen : Writes ['(', ' '] openParen :=
  writes_of_read (by decide) fun _ => rfl

theorem writes_closeParen : Writes [')', ' '] closeParen :=
  writes_of_read (by decide) fun _ => rfl

theorem writes_question : Writes ['?', ' '] question :=
  writes_of_read (by decide) fun _ => rfl

theorem writes_colon : Writes [':', ' '] colon :=
  writes_of_read (by decide) fun _ => rfl

/-- How each operator is written. -/
def operatorText : BinaryOperator → List Char
  | .add => ['+', ' ']
  | .sub => ['-', ' ']
  | .mul => ['*', ' ']
  | .div => ['/', ' ']
  | .rem => ['%', ' ']
  | .eq => ['=', '=', ' ']
  | .ne => ['!', '=', ' ']
  | .lt => ['<', ' ']
  | .le => ['<', '=', ' ']
  | .gt => ['>', ' ']
  | .ge => ['>', '=', ' ']
  | .and => ['&', '&', ' ']
  | .or => ['|', '|', ' ']
  | .glob => ['=', '~', ' ']
  | .notGlob => ['!', '~', ' ']
  | .regex => ['=', '/', ' ']
  | .notRegex => ['!', '/', ' ']

theorem writes_operator (symbol : BinaryOperator) :
    Writes (operatorText symbol) (operator symbol) := by
  cases symbol <;> exact writes_of_read (by decide) fun _ => rfl

/-- A token that some text stands for. -/
def Writable (token : Token) : Prop :=
  ∃ text, Writes text token

theorem exists_text {tokens : List Token} (writable : ∀ token ∈ tokens, token.Writable) :
    ∃ text, readAll text = .ok tokens := by
  have written : ∃ written : List (List Char × Token), written.map Prod.snd = tokens ∧
      ∀ pair ∈ written, Writes pair.1 pair.2 := by
    induction tokens with
    | nil => exact ⟨[], rfl, nofun⟩
    | cons token tokens inductionHypothesis =>
      obtain ⟨⟨text, writes⟩, ofOthers⟩ := List.forall_mem_cons.mp writable
      obtain ⟨written, rfl, each⟩ := inductionHypothesis ofOthers
      exact ⟨(text, token) :: written, rfl, List.forall_mem_cons.mpr ⟨writes, each⟩⟩
  obtain ⟨written, rfl, each⟩ := written
  exact ⟨_, readAll_flatMap each⟩

end Token

end SlashScript
