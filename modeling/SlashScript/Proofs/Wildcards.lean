/-
This file shows that the matcher of wildcard patterns decides what such a pattern says. A pattern
says how a text is to be cut: into one piece for each of its characters, any piece for a star, one
character for a question mark, and for every other character just that character.

The matcher never returns to a star after it has passed a later one, and nothing is lost by that.
The characters between the two stars take up as many characters of the text wherever they are
found. So if the first star had taken more, the second one would begin later, and what is left of
the text from there on is an end of what is left now. A star that comes before such an end can as
well come before the whole.
-/

import Mathlib.Data.List.Forall2
import SlashScript.Glob

namespace SlashScript.Glob

/-! ### The language of a pattern -/

/-- The pieces that a character of a pattern takes. -/
def Takes (wanted : Char) (piece : List Char) : Prop :=
  if wanted = '*' then True
  else if wanted = '?' then ∃ char, piece = [char]
  else piece = [wanted]

/-- The text can be cut into consecutive pieces, one for each character of the pattern. -/
def Covers (pattern text : List Char) : Prop :=
  ∃ pieces, List.Forall₂ Takes pattern pieces ∧ pieces.flatten = text

theorem covers_nil {text : List Char} : Covers [] text ↔ text = [] := by
  constructor
  · rintro ⟨pieces, taken, rfl⟩
    cases taken
    rfl
  · rintro rfl
    exact ⟨[], .nil, rfl⟩

theorem covers_cons {wanted : Char} {pattern text : List Char} :
    Covers (wanted :: pattern) text ↔
      ∃ piece rest, text = piece ++ rest ∧ Takes wanted piece ∧ Covers pattern rest := by
  constructor
  · rintro ⟨pieces, taken, rfl⟩
    cases taken with
    | cons first others => exact ⟨_, _, List.flatten_cons, first, _, others, rfl⟩
  · rintro ⟨piece, _, rfl, first, pieces, others, rfl⟩
    exact ⟨piece :: pieces, .cons first others, List.flatten_cons⟩

/-- A star leaves any end of the text to the rest of the pattern. -/
theorem covers_star {pattern text : List Char} :
    Covers ('*' :: pattern) text ↔ ∃ rest, rest <:+ text ∧ Covers pattern rest := by
  rw [covers_cons]
  constructor
  · rintro ⟨piece, rest, rfl, _, covers⟩
    exact ⟨rest, List.suffix_append piece rest, covers⟩
  · rintro ⟨rest, ⟨piece, rfl⟩, covers⟩
    exact ⟨piece, rest, rfl, trivial, covers⟩

/-- A pattern that begins with a star matches every text with an end that it matches. -/
theorem Covers.of_suffix {pattern text rest : List Char} (covers : Covers ('*' :: pattern) rest)
    (isEnd : rest <:+ text) : Covers ('*' :: pattern) text := by
  obtain ⟨others, isEnd', covers⟩ := covers_star.mp covers
  exact covers_star.mpr ⟨others, isEnd'.trans isEnd, covers⟩

/-- The character of the text is one that the character of the pattern stands for. -/
def Fits (wanted char : Char) : Prop :=
  wanted = '?' ∨ wanted = char

theorem covers_cons_of_ne {wanted : Char} (notStar : wanted ≠ '*') {pattern text : List Char} :
    Covers (wanted :: pattern) text ↔
      ∃ char rest, text = char :: rest ∧ Fits wanted char ∧ Covers pattern rest := by
  have takes : ∀ piece, Takes wanted piece ↔ ∃ char, piece = [char] ∧ Fits wanted char := by
    intro piece
    unfold Takes Fits
    rw [if_neg notStar]
    split
    · rename_i isMark
      exact exists_congr fun char => (and_iff_left (.inl isMark)).symm
    · rename_i notMark
      constructor
      · rintro rfl
        exact ⟨wanted, rfl, .inr rfl⟩
      · rintro ⟨char, rfl, isMark | rfl⟩
        · exact absurd isMark notMark
        · rfl
  rw [covers_cons]
  constructor
  · rintro ⟨piece, rest, rfl, taken, covers⟩
    obtain ⟨char, rfl, fits⟩ := (takes piece).mp taken
    exact ⟨char, rest, rfl, fits, covers⟩
  · rintro ⟨char, rest, rfl, fits, covers⟩
    exact ⟨[char], rest, rfl, (takes [char]).mpr ⟨char, rfl, fits⟩, covers⟩

theorem covers_empty {pattern : List Char} :
    Covers pattern [] ↔ pattern.all (· == '*') = true := by
  induction pattern with
  | nil => exact iff_of_true (covers_nil.mpr rfl) rfl
  | cons wanted pattern inductionHypothesis =>
    by_cases isStar : wanted = '*'
    · subst isStar
      rw [covers_star, List.all_cons, beq_self_eq_true, Bool.true_and, ← inductionHypothesis]
      constructor
      · rintro ⟨rest, isEnd, covers⟩
        rwa [List.suffix_nil.mp isEnd] at covers
      · exact fun covers => ⟨[], List.suffix_rfl, covers⟩
    · rw [covers_cons_of_ne isStar, List.all_cons, beq_false_of_ne isStar, Bool.false_and]
      exact iff_of_false nofun Bool.false_ne_true

/-! ### Patterns without stars -/

/-- A pattern without stars takes as many characters as it has. -/
theorem covers_append {plain : List Char} (noStar : '*' ∉ plain) {pattern text : List Char} :
    Covers (plain ++ pattern) text ↔
      ∃ passed rest, text = passed ++ rest ∧ List.Forall₂ Fits plain passed ∧
        Covers pattern rest := by
  induction plain generalizing text with
  | nil =>
    constructor
    · exact fun covers => ⟨[], text, rfl, .nil, covers⟩
    · rintro ⟨passed, rest, rfl, fits, covers⟩
      cases fits
      exact covers
  | cons wanted plain inductionHypothesis =>
    have notStar : wanted ≠ '*' := fun isStar => noStar (isStar ▸ .head _)
    have noStarAfter : '*' ∉ plain := fun member => noStar (.tail _ member)
    rw [List.cons_append, covers_cons_of_ne notStar]
    constructor
    · rintro ⟨char, rest, rfl, fits, covers⟩
      obtain ⟨passed, rest, rfl, others, covers⟩ := (inductionHypothesis noStarAfter).mp covers
      exact ⟨char :: passed, rest, rfl, .cons fits others, covers⟩
    · rintro ⟨passed, rest, rfl, fits, covers⟩
      cases fits with
      | cons first others =>
        have later := (inductionHypothesis noStarAfter).mpr ⟨_, rest, rfl, others, covers⟩
        exact ⟨_, _, rfl, first, later⟩

/-- Where the characters before a star fit the beginning of a text, they leave no more of the text
to the star wherever else in the text they fit. -/
theorem exists_suffix_of_fits {plain passed : List Char} (noStar : '*' ∉ plain)
    (fits : List.Forall₂ Fits plain passed) {pattern rest text : List Char}
    (isEnd : text <:+ passed ++ rest) (covers : Covers (plain ++ pattern) text) :
    ∃ others, others <:+ rest ∧ Covers pattern others := by
  obtain ⟨passed', others, rfl, fits', covers⟩ := (covers_append noStar).mp covers
  have atEnd : others <:+ passed ++ rest := (List.suffix_append passed' others).trans isEnd
  have length : others.length ≤ rest.length := by
    have total := isEnd.length_le
    rw [List.length_append, List.length_append, ← fits.length_eq, ← fits'.length_eq] at total
    exact Nat.le_of_add_le_add_left total
  exact ⟨others, List.suffix_of_suffix_length_le atEnd (List.suffix_append passed rest) length,
    covers⟩

/-! ### The walk up to the next star -/

theorem walk_nil (pattern : List Char) : walk pattern [] = .finished (pattern.all (· == '*')) := by
  rw [walk]

theorem walk_cons_of_ne {wanted : Char} (notStar : wanted ≠ '*') (char : Char)
    (pattern text : List Char) :
    walk (wanted :: pattern) (char :: text) =
      if wanted = '?' || wanted = char then walk pattern text else .mismatch := by
  rw [walk]
  exact notStar

/-- A walk that comes to a star has passed characters that fit. -/
theorem exists_of_walk_star {pattern text pattern' text' : List Char}
    (walked : walk pattern text = .star pattern' text') :
    ∃ plain passed, pattern = plain ++ '*' :: pattern' ∧ text = passed ++ text' ∧
      '*' ∉ plain ∧ List.Forall₂ Fits plain passed := by
  induction text generalizing pattern with
  | nil => cases (walk_nil pattern).symm.trans walked
  | cons char text inductionHypothesis =>
    rcases pattern with _ | ⟨wanted, pattern⟩
    · cases walked
    by_cases isStar : wanted = '*'
    · subst isStar
      cases walked
      exact ⟨[], [], rfl, rfl, List.not_mem_nil, .nil⟩
    · rw [walk_cons_of_ne isStar] at walked
      split at walked
      · rename_i fits
        obtain ⟨plain, passed, rfl, rfl, noStar, others⟩ := inductionHypothesis walked
        refine ⟨wanted :: plain, char :: passed, rfl, rfl, ?_, .cons ?_ others⟩
        · exact List.not_mem_cons_of_ne_of_not_mem (Ne.symm isStar) noStar
        · simpa [Fits] using fits
      · cases walked

/-- A walk that comes to the end of the text has passed characters that fit, and what is left of
the pattern must be stars. -/
theorem exists_of_walk_finished {pattern text : List Char} {matched : Bool}
    (walked : walk pattern text = .finished matched) :
    ∃ plain rest, pattern = plain ++ rest ∧ '*' ∉ plain ∧ List.Forall₂ Fits plain text ∧
      (Covers rest [] ↔ matched = true) := by
  induction text generalizing pattern with
  | nil =>
    rw [walk_nil, Walk.finished.injEq] at walked
    exact ⟨[], pattern, rfl, List.not_mem_nil, .nil, walked ▸ covers_empty⟩
  | cons char text inductionHypothesis =>
    rcases pattern with _ | ⟨wanted, pattern⟩
    · cases walked
    by_cases isStar : wanted = '*'
    · subst isStar
      cases walked
    · rw [walk_cons_of_ne isStar] at walked
      split at walked
      · rename_i fits
        obtain ⟨plain, rest, rfl, noStar, others, decides⟩ := inductionHypothesis walked
        refine ⟨wanted :: plain, rest, rfl, ?_, .cons ?_ others, decides⟩
        · exact List.not_mem_cons_of_ne_of_not_mem (Ne.symm isStar) noStar
        · simpa [Fits] using fits
      · cases walked

/-- A walk that comes to a character that does not fit shows that the pattern does not match. -/
theorem not_covers_of_walk_mismatch {pattern text : List Char}
    (walked : walk pattern text = .mismatch) : ¬ Covers pattern text := by
  induction text generalizing pattern with
  | nil => cases (walk_nil pattern).symm.trans walked
  | cons char text inductionHypothesis =>
    rcases pattern with _ | ⟨wanted, pattern⟩
    · exact fun covers => List.cons_ne_nil _ _ (covers_nil.mp covers)
    by_cases isStar : wanted = '*'
    · subst isStar
      cases walked
    · rw [walk_cons_of_ne isStar] at walked
      rw [covers_cons_of_ne isStar]
      rintro ⟨char, text, ⟨⟩, fits, covers⟩
      rw [if_pos (by simpa [Fits] using fits)] at walked
      exact inductionHypothesis walked covers

/-! ### The matcher -/

/-- After a walk to the end of the text, the pattern matches an end of the text only if it matches
the text. -/
theorem covers_of_walk_finished {pattern text : List Char} {matched : Bool}
    (walked : walk pattern text = .finished matched) :
    (matched = true → Covers pattern text) ∧
      ∀ others, others <:+ text → Covers pattern others → matched = true := by
  obtain ⟨plain, rest, rfl, noStar, fits, decides⟩ := exists_of_walk_finished walked
  constructor
  · intro isMatched
    exact (covers_append noStar).mpr ⟨text, [], (List.append_nil text).symm, fits,
      decides.mpr isMatched⟩
  · intro others isEnd covers
    rw [← List.append_nil text] at isEnd
    obtain ⟨empty, isEmpty, covers⟩ := exists_suffix_of_fits noStar fits isEnd covers
    rw [List.suffix_nil.mp isEmpty] at covers
    exact decides.mp covers

/-- After a walk to a star, the pattern matches an end of the text only if what begins with that
star matches what is left of the text. -/
theorem covers_of_walk_star {pattern text pattern' text' : List Char}
    (walked : walk pattern text = .star pattern' text') :
    (Covers ('*' :: pattern') text' → Covers pattern text) ∧
      ∀ others, others <:+ text → Covers pattern others → Covers ('*' :: pattern') text' := by
  obtain ⟨plain, passed, rfl, rfl, noStar, fits⟩ := exists_of_walk_star walked
  constructor
  · exact fun covers => (covers_append noStar).mpr ⟨passed, text', rfl, fits, covers⟩
  · intro others isEnd covers
    obtain ⟨rest, isRest, covers⟩ := exists_suffix_of_fits noStar fits isEnd covers
    exact covers.of_suffix isRest

/-- What the matcher answers for the pattern after a star. -/
theorem afterStar_iff_covers (pattern text : List Char) :
    afterStar pattern text = true ↔ Covers ('*' :: pattern) text := by
  fun_induction afterStar pattern text with
  | case1 pattern text matched walked =>
    obtain ⟨covers, decides⟩ := covers_of_walk_finished walked
    rw [covers_star]
    constructor
    · exact fun isMatched => ⟨text, List.suffix_rfl, covers isMatched⟩
    · exact fun ⟨others, isEnd, covers⟩ => decides others isEnd covers
  | case2 pattern text pattern' text' walked inductionHypothesis =>
    obtain ⟨covers, onlyIf⟩ := covers_of_walk_star walked
    rw [inductionHypothesis, @covers_star pattern]
    constructor
    · exact fun later => ⟨text, List.suffix_rfl, covers later⟩
    · exact fun ⟨others, isEnd, covers⟩ => onlyIf others isEnd covers
  | case3 pattern walked => cases (walk_nil pattern).symm.trans walked
  | case4 pattern char text walked inductionHypothesis =>
    rw [inductionHypothesis]
    constructor
    · exact fun covers => covers.of_suffix (List.suffix_cons char text)
    · intro covers
      obtain ⟨others, isEnd, covers⟩ := covers_star.mp covers
      rcases List.suffix_cons_iff.mp isEnd with rfl | isEnd
      · exact absurd covers (not_covers_of_walk_mismatch walked)
      · exact covers_star.mpr ⟨others, isEnd, covers⟩

/-- The matcher accepts a text exactly if the text can be cut into the pieces that the characters
of the pattern take. -/
theorem isMatch_iff_covers (pattern text : List Char) :
    isMatch pattern text = true ↔ Covers pattern text := by
  unfold isMatch
  split
  · rename_i matched walked
    obtain ⟨covers, decides⟩ := covers_of_walk_finished walked
    exact ⟨covers, decides text List.suffix_rfl⟩
  · rename_i pattern' text' walked
    obtain ⟨covers, onlyIf⟩ := covers_of_walk_star walked
    rw [afterStar_iff_covers]
    exact ⟨covers, onlyIf text List.suffix_rfl⟩
  · rename_i walked
    exact iff_of_false Bool.false_ne_true (not_covers_of_walk_mismatch walked)

end SlashScript.Glob
