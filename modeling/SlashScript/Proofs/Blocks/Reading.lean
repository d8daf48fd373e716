/-
This file shows that a text is read as a block exactly if its statements spell the block within the
limit on nesting.

In one direction an invariant says what the statements read so far are to the stack of open blocks:
under each block there are statements that spell the part around it, then those that opened it.
Every step keeps this, and when no block is left open, the statements spell the block. In the
other direction a list that spells a block adds it to whatever is being built, if there is room
for the blocks that it opens, and leaves the stack as it was.
-/

import SlashScript.Proofs.Blocks.Grammar

namespace SlashScript

namespace Statement

open Building (Takes)

/-! ### What is read is spelled -/

/-- The arms of a conditional, the first of which opens it. -/
structure Arms (level : Nat) (first : Arm) (others : List Arm) : Prop where
  firstCompiles : Compiles first.line (.openIf first.condition)
  othersCompile : ∀ arm ∈ others, Compiles arm.line (.elseIf arm.condition)
  ofFirst : Spells level first.body first.block
  ofOthers : ∀ arm ∈ others, Spells level arm.body arm.block

/-- The statements that lead to an open block, after those of the block around it. -/
inductive Opens (level : Nat) : Opener → List SourceStatement → Prop where
  | loop {opener : Opener} {line : SourceStatement} (loop : Loop)
    (isOpener : opener = loop.opener) (compiles : Compiles line (.openLoop loop)) :
    Opens level opener [line]
  | first {line : SourceStatement} {condition : Expression}
    (compiles : Compiles line (.openIf condition)) : Opens level (.branch [] condition) [line]
  | further {line : SourceStatement} {condition : Expression} (first : Arm) (others : List Arm)
    (arms : Arms level first others) (compiles : Compiles line (.elseIf condition)) :
    Opens level (.branch ((first :: others).map Arm.branch) condition)
      (first.lines ++ others.flatMap Arm.lines ++ [line])
  | otherwise {line : SourceStatement} (first : Arm) (others : List Arm)
    (arms : Arms level first others) (compiles : Compiles line .otherwise) :
    Opens level (.otherwise ((first :: others).map Arm.branch))
      (first.lines ++ others.flatMap Arm.lines ++ [line])

/-- A branch that ends is an arm after the arms before it. -/
theorem Opens.exists_arms {level : Nat} {branches : List (Expression × Block)}
    {condition : Expression} {opening body : List SourceStatement} {block : Block}
    (opens : Opens level (.branch branches condition) opening) (spells : Spells level body block) :
    ∃ (first : Arm) (others : List Arm), Arms level first others ∧
      (first :: others).map Arm.branch = branches ++ [(condition, block)] ∧
        first.lines ++ others.flatMap Arm.lines = opening ++ body := by
  cases opens with
  | loop loop isOpener => cases loop <;> cases isOpener
  | @first line _ compiles =>
    exact ⟨⟨⟨line, body⟩, condition, block⟩, [], ⟨compiles, nofun, spells, nofun⟩, rfl, by
      simp [Arm.lines, Part.lines]⟩
  | @further line _ first others arms compiles =>
    refine ⟨first, others ++ [⟨⟨line, body⟩, condition, block⟩], ⟨arms.firstCompiles, ?_,
      arms.ofFirst, ?_⟩, by simp [Arm.branch], by simp [Arm.lines, Part.lines]⟩
    · exact List.forall_mem_append.mpr
        ⟨arms.othersCompile, List.forall_mem_singleton.mpr compiles⟩
    · exact List.forall_mem_append.mpr ⟨arms.ofOthers, List.forall_mem_singleton.mpr spells⟩

/-- What the statements read so far are to what is being built; `level` more blocks may be
opened. -/
inductive Reached : Nat → List SourceStatement → Building → Prop where
  | outermost {lines : List SourceStatement} {block : Block}
    (spells : Spells maxNesting lines block) : Reached maxNesting lines ⟨block, []⟩
  | inside {level opened : Nat} {before opening lines : List SourceStatement}
    {around block : Block} {opener : Opener} {outer : List OpenBlock}
    (reached : Reached (level + 1) before ⟨around, outer⟩) (opens : Opens level opener opening)
    (spells : Spells level lines block) :
    Reached level (before ++ opening ++ lines) ⟨block, ⟨opened, opener, around⟩ :: outer⟩

namespace Reached

variable {level : Nat} {lines : List SourceStatement} {building building' : Building}

theorem level_add (reached : Reached level lines building) :
    level + building.openBlocks.length = maxNesting := by
  induction reached with
  | outermost => rfl
  | inside _ _ _ inductionHypothesis =>
    simp only [List.length_cons] at inductionHypothesis ⊢
    omega

/-- More statements of the innermost block. -/
theorem extend (reached : Reached level lines building) {more : List SourceStatement}
    {block : Block} (spells : Spells level more block) :
    Reached level (lines ++ more) ⟨building.current ++ block, building.openBlocks⟩ := by
  cases reached with
  | outermost spelled => exact .outermost (spelled.append spells)
  | inside reached opens spelled =>
    rw [List.append_assoc]
    exact .inside reached opens (spelled.append spells)

/-- One more block is open, and nothing is in it yet. -/
theorem enter (reached : Reached level lines building)
    (room : building.openBlocks.length < maxNesting) {line : SourceStatement} {opener : Opener}
    (opens : ∀ level, Opens level opener [line]) : ∃ level', Reached level' (lines ++ [line])
      ⟨[], ⟨line.line, opener, building.current⟩ :: building.openBlocks⟩ := by
  have levels := reached.level_add
  cases level with
  | zero => omega
  | succ level =>
    refine ⟨level, ?_⟩
    rw [← List.append_nil (lines ++ [line])]
    exact .inside reached (opens level) .nil

theorem take (reached : Reached level lines building) {line : SourceStatement}
    (takes : Takes building line building') :
    ∃ level', Reached level' (lines ++ [line]) building' := by
  cases takes with
  | plain compiles => exact ⟨level, reached.extend (.plain compiles .nil)⟩
  | openIf compiles room => exact reached.enter room fun _ => .first compiles
  | openLoop compiles room => exact reached.enter room fun _ => .loop _ rfl compiles
  | elseIf compiles =>
    cases reached with
    | @inside _ _ before _ _ _ _ _ _ around opens spells =>
      obtain ⟨first, others, arms, branches, statements⟩ := opens.exists_arms spells
      rw [← branches, List.append_assoc before, ← statements, List.append_assoc,
        ← List.append_nil (_ ++ [line]), ← List.append_assoc]
      exact ⟨level, .inside around (.further first others arms compiles) .nil⟩
  | otherwise compiles =>
    cases reached with
    | @inside _ _ before _ _ _ _ _ _ around opens spells =>
      obtain ⟨first, others, arms, branches, statements⟩ := opens.exists_arms spells
      rw [← branches, List.append_assoc before, ← statements, List.append_assoc,
        ← List.append_nil (_ ++ [line]), ← List.append_assoc]
      exact ⟨level, .inside around (.otherwise first others arms compiles) .nil⟩
  | endBranch compiles =>
    cases reached with
    | @inside _ _ before _ _ _ _ _ _ around opens spells =>
      obtain ⟨first, others, arms, branches, statements⟩ := opens.exists_arms spells
      have closed := Spells.choose first others none [] line arms.firstCompiles
        arms.othersCompile nofun (fun _ => rfl) compiles arms.ofFirst arms.ofOthers nofun .nil
      rw [branches, statements] at closed
      rw [List.append_assoc before, List.append_assoc]
      exact ⟨level + 1, around.extend (by simpa using closed)⟩
  | @endOtherwise otherwise _ _ _ _ _ compiles =>
    cases reached with
    | @inside _ _ before opening body _ _ _ _ around opens spells =>
      cases opens with
      | loop loop isOpener => cases loop <;> cases isOpener
      | @otherwise divider first others arms divides =>
        have ofLast : ∀ part ∈ some (Part.mk divider body), Compiles part.line .otherwise ∧
            Spells level part.body otherwise := by
          rintro _ ⟨⟩
          exact ⟨divides, spells⟩
        have closed := Spells.choose first others (some ⟨divider, body⟩) _ line
          arms.firstCompiles arms.othersCompile (fun part member => (ofLast part member).1) nofun
          compiles arms.ofFirst arms.ofOthers (fun part member => (ofLast part member).2) .nil
        rw [List.append_assoc before, List.append_assoc]
        exact ⟨level + 1, around.extend (by simpa [Part.lines] using closed)⟩
  | endLoop loop compiles =>
    cases reached with
    | @inside _ _ before opening body _ _ _ _ around opens spells =>
      generalize isOpener : loop.opener = opener at opens
      cases opens with
      | @loop _ head loop' isOpener' opened =>
        have same : loop = loop' := by
          cases loop <;> cases loop' <;> cases isOpener.trans isOpener' <;> rfl
        have closed := Spells.loop ⟨head, body⟩ loop _ line (same ▸ opened) compiles spells .nil
        rw [List.append_assoc before, List.append_assoc]
        exact ⟨level + 1, around.extend (by simpa [Part.lines] using closed)⟩
      | first | further | otherwise => cases loop <;> cases isOpener

theorem follow (reached : Reached level lines building) {more : List SourceStatement}
    (followed : more.foldlM Building.step building = .ok building') :
    ∃ level', Reached level' (lines ++ more) building' := by
  induction more generalizing level lines building with
  | nil =>
    cases followed
    rw [List.append_nil]
    exact ⟨level, reached⟩
  | cons line more inductionHypothesis =>
    rw [List.foldlM_cons] at followed
    obtain ⟨next, stepped, followed⟩ := bind_eq_ok.mp followed
    obtain ⟨level', reached⟩ := reached.take (Building.step_eq_ok_iff.mp stepped)
    rw [← List.singleton_append, ← List.append_assoc]
    exact inductionHypothesis reached followed

end Reached

/-! ### What is spelled is read -/

/-- The statements are read one after the other, from what is being built to what is built
then. -/
def Building.Follows (building : Building) (lines : List SourceStatement) (building' : Building) :
    Prop :=
  lines.foldlM Building.step building = .ok building'

namespace Building.Follows

variable {building building' building'' : Building} {lines lines' : List SourceStatement}

theorem nil : Follows building [] building :=
  rfl

theorem cons {line : SourceStatement} (takes : Takes building line building')
    (follows : Follows building' lines building'') :
    Follows building (line :: lines) building'' := by
  unfold Follows
  rw [List.foldlM_cons]
  exact bind_eq_ok.mpr ⟨_, step_eq_ok_iff.mpr takes, follows⟩

theorem append (follows : Follows building lines building')
    (further : Follows building' lines' building'') :
    Follows building (lines ++ lines') building'' := by
  unfold Follows
  rw [List.foldlM_append]
  exact bind_eq_ok.mpr ⟨_, follows, further⟩

end Building.Follows

open Building (Follows)

/-- Where `level` more blocks may be opened, the statements add the block to what is being
built. -/
def Adds (level : Nat) (lines : List SourceStatement) (block : Block) : Prop :=
  ∀ building : Building, building.openBlocks.length + level ≤ maxNesting →
    Follows building lines ⟨building.current ++ block, building.openBlocks⟩

/-- From the first branch of a conditional to the end of its last branch with a condition. -/
theorem follows_arms {level : Nat} (opened : Nat) (around : Block) {outer : List OpenBlock}
    (room : outer.length + 1 + level ≤ maxNesting) (done : List (Expression × Block)) (first : Arm)
    (others : List Arm) (ofFirst : Adds level first.body first.block)
    (othersCompile : ∀ arm ∈ others, Compiles arm.line (.elseIf arm.condition))
    (ofOthers : ∀ arm ∈ others, Adds level arm.body arm.block) :
    ∃ branches condition block,
      branches ++ [(condition, block)] = done ++ (first :: others).map Arm.branch ∧
        Follows ⟨[], ⟨opened, .branch done first.condition, around⟩ :: outer⟩
          (first.body ++ others.flatMap Arm.lines)
          ⟨block, ⟨opened, .branch branches condition, around⟩ :: outer⟩ := by
  have firstFollows :=
    ofFirst ⟨[], ⟨opened, .branch done first.condition, around⟩ :: outer⟩ room
  induction others generalizing done first with
  | nil =>
    refine ⟨done, first.condition, first.block, rfl, ?_⟩
    rw [List.flatMap_nil, List.append_nil]
    exact firstFollows
  | cons second others inductionHypothesis =>
    obtain ⟨secondCompiles, othersCompile⟩ := List.forall_mem_cons.mp othersCompile
    obtain ⟨ofSecond, ofOthers⟩ := List.forall_mem_cons.mp ofOthers
    obtain ⟨branches, condition, block, same, follows⟩ :=
      inductionHypothesis (done ++ [first.branch]) second ofSecond othersCompile ofOthers
        (ofSecond _ room)
    refine ⟨branches, condition, block, by simpa using same, ?_⟩
    exact firstFollows.append (.cons (.elseIf secondCompiles) follows)

theorem Spells.adds {level : Nat} {lines : List SourceStatement} {block : Block}
    (spells : Spells level lines block) : Adds level lines block := by
  induction spells with
  | nil =>
    intro building _
    rw [List.append_nil]
    exact .nil
  | @plain level line rest statement block compiles _ ofRest =>
    intro building room
    have after := ofRest ⟨building.current ++ [statement], building.openBlocks⟩ room
    rw [List.append_assoc] at after
    exact .cons (.plain compiles) after
  | @choose level first others last otherwise closer rest block firstCompiles othersCompile
    lastCompiles noLast closes _ _ _ _ ofFirst ofOthers ofLast ofRest =>
    intro building room
    have inner : building.openBlocks.length + 1 + level ≤ maxNesting := by omega
    obtain ⟨branches, condition, body, same, arms⟩ := follows_arms first.line.line
      building.current inner [] first others ofFirst othersCompile ofOthers
    rw [List.nil_append] at same
    have after := ofRest
      ⟨building.current ++ [.choose ((first :: others).map Arm.branch) otherwise],
        building.openBlocks⟩ room
    rw [List.append_assoc] at after
    have opened := Follows.cons (.openIf firstCompiles (by omega)) arms
    cases last with
    | none =>
      cases noLast rfl
      rw [← same] at after
      have closed := opened.append (.cons (.endBranch closes) after)
      simpa [Arm.lines, Part.lines, same] using closed
    | some part =>
      have divided := Follows.cons (.otherwise (lastCompiles part rfl)) (ofLast part rfl
        ⟨[], ⟨first.line.line, .otherwise (branches ++ [(condition, body)]), building.current⟩ ::
          building.openBlocks⟩ inner)
      rw [← same] at after
      have closed := (opened.append divided).append (.cons (.endOtherwise closes) after)
      simpa [Arm.lines, Part.lines, same] using closed
  | @loop level head loop body closer rest block headCompiles closes _ _ ofBody ofRest =>
    intro building room
    have inside := ofBody
      ⟨[], ⟨head.line.line, loop.opener, building.current⟩ :: building.openBlocks⟩
      (by simp only [List.length_cons]; omega)
    have after := ofRest ⟨building.current ++ [loop.around body], building.openBlocks⟩ room
    rw [List.append_assoc] at after
    exact .append (.cons (.openLoop headCompiles (by omega)) inside)
      (.cons (.endLoop loop closes) after)

/-- Statements are read as a block exactly if they spell it. -/
theorem ofSource_eq_ok_iff {statements : List SourceStatement} {block : Block} :
    ofSource statements = .ok block ↔ Spells maxNesting statements block := by
  constructor
  · intro result
    obtain ⟨building, followed, finished⟩ := bind_eq_ok.mp result
    obtain ⟨level, reached⟩ := (Reached.outermost .nil).follow followed
    rw [List.nil_append] at reached
    cases reached with
    | outermost spells =>
      cases finished
      exact spells
    | inside => cases finished
  · intro spells
    exact bind_eq_ok.mpr ⟨_, spells.adds Building.start (Nat.le_of_eq (Nat.zero_add _)), rfl⟩

end Statement

end SlashScript
