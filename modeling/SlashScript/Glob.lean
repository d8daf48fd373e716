/-
Wildcard patterns. In a pattern a star stands for any text and a question mark for any one
character; every other character stands for itself, and a pattern matches a whole text. The
matcher goes through both from the left. When a character does not fit it returns to the last
star it has passed and lets that star take one character more; earlier stars are not tried
again.
-/

namespace SlashScript.Glob

/-- Where a walk through pattern and text without a choice comes to its end. -/
inductive Walk where
  /-- The text is used up; the answer is final. -/
  | finished (matched : Bool)
  /-- The pattern goes on after a star. -/
  | star (pattern text : List Char)
  /-- A character of the text does not fit. -/
  | mismatch

/-- Walks along pattern and text up to the next star of the pattern. -/
def walk : List Char → List Char → Walk
  | pattern, [] => .finished (pattern.all (· == '*'))
  | [], _ :: _ => .mismatch
  | '*' :: pattern, char :: text => .star pattern (char :: text)
  | wanted :: pattern, char :: text =>
    if wanted = '?' || wanted = char then walk pattern text else .mismatch

theorem walk_star_length {pattern text pattern' text' : List Char}
    (result : walk pattern text = .star pattern' text') :
    pattern'.length < pattern.length ∧ text'.length ≤ text.length := by
  induction text generalizing pattern with
  | nil => simp [walk] at result
  | cons char text inductionHypothesis =>
    cases pattern with
    | nil => simp [walk] at result
    | cons wanted pattern =>
      by_cases isStar : wanted = '*'
      · subst isStar
        simp only [walk, Walk.star.injEq] at result
        obtain ⟨rfl, rfl⟩ := result
        simp
      · rw [walk] at result
        · split at result
          · have shorter := inductionHypothesis result
            simp only [List.length_cons]
            omega
          · simp at result
        · exact isStar

/-- Matches the pattern that follows a star, with the star taking as few characters as
possible. -/
def afterStar (pattern text : List Char) : Bool :=
  match _step : walk pattern text with
  | .finished matched => matched
  | .star pattern' text' => afterStar pattern' text'
  | .mismatch =>
    match text with
    | [] => false
    | _ :: text => afterStar pattern text
termination_by (pattern.length, text.length)
decreasing_by
  · exact Prod.Lex.left _ _ (walk_star_length _step).1
  · exact Prod.Lex.right _ (by simp)

/-- Whether the whole text matches the pattern. -/
def isMatch (pattern text : List Char) : Bool :=
  match walk pattern text with
  | .finished matched => matched
  | .star pattern' text' => afterStar pattern' text'
  | .mismatch => false

end SlashScript.Glob
