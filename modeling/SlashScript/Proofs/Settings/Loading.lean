/-
This file proves that a directive which cannot be followed does nothing but be reported. Whether a
line is followed, and why not if it is not, is told from the line alone, and a refusal leaves the
settings as they are. So a file is loaded line by line, each line by itself: a reported line may be
made blank and nothing changes but that it is not reported any more. What settings come to hold is
checked before it is stored, so every file leaves them within their limits.
-/

import SlashScript.Proofs.Blocks.PhysicalLines
import SlashScript.Proofs.Embedding.Commands
import SlashScript.Settings

namespace SlashScript

/-! ### Lines with their endings -/

namespace Text

/-- What stands between the newlines of a text. A carriage return before a newline belongs to it,
and after the last newline there is an empty one. -/
def segments (chars : List Char) : List (List Char) :=
  chars.splitOn '\n'

theorem joined_segments (chars : List Char) : joined (segments chars) = chars :=
  List.intercalate_splitOn '\n'

theorem not_mem_of_mem_segments {chars segment : List Char} (member : segment ∈ segments chars) :
    '\n' ∉ segment := by
  induction chars generalizing segment with
  | nil => exact List.mem_singleton.mp member ▸ List.not_mem_nil
  | cons char chars inductionHypothesis =>
    rw [segments, List.splitOn_cons_eq_if_modifyHead] at member
    split at member
    · rcases List.mem_cons.mp member with rfl | member
      · exact List.not_mem_nil
      · exact inductionHypothesis member
    · rename_i notNewline
      obtain ⟨first, others, divided⟩ := List.exists_cons_of_ne_nil (List.splitOn_ne_nil '\n' chars)
      rw [divided, List.modifyHead_cons] at member
      have ofChars (segment : List Char) (member : segment ∈ first :: others) : '\n' ∉ segment :=
        @inductionHypothesis segment (by rwa [segments, divided])
      rcases List.mem_cons.mp member with rfl | member
      · have isOther : '\n' ≠ char := fun isNewline => notNewline (beq_iff_eq.mpr isNewline.symm)
        exact List.not_mem_cons_of_ne_of_not_mem isOther (ofChars first (.head _))
      · exact ofChars segment (.tail _ member)

theorem trim_closeLine (reversed : List Char) :
    trim (closeLine reversed) = trim reversed.reverse := by
  unfold closeLine
  split
  · rename_i earlier
    have isBlank : ∀ char ∈ ['\r'], isBlank char = true := List.forall_mem_singleton.mpr rfl
    rw [List.reverse_cons, trim_append_blanks isBlank]
  · rfl

end Text

namespace Settings

/-! ### One directive -/

/-- The names that stand for settings of the engine. -/
def engineKeys : List String :=
  ["sb_fallback_action", "sb_preference_variable", "sb_channel_depth"]

/-- The settings are within their limits. -/
structure Valid (settings : Settings) : Prop where
  channelDepth : settings.engine.channelDepth ≤ EngineSettings.maxChannelDepth
  preferenceVariable : settings.engine.preferenceVariable ≠ ""
  globals : ∀ binding ∈ settings.globals, binding.1 ∉ engineKeys

theorem valid_standard : standard.Valid where
  channelDepth := Nat.zero_le _
  preferenceVariable := by decide
  globals := nofun

/-- A directive is followed or refused whatever the settings are. -/
theorem assign_eq_error_iff (settings settings' : Settings) (name value : List Char)
    (cause : SettingsCause) :
    settings.assign name value = .error cause ↔ settings'.assign name value = .error cause := by
  unfold assign
  dsimp only
  split
  · rfl
  · split
    · exact iff_of_false nofun nofun
    · rfl
  · split
    · rfl
    · exact iff_of_false nofun nofun
  · split
    · rfl
    · split
      · rfl
      · exact iff_of_false nofun nofun
  · exact iff_of_false nofun nofun

/-- A directive that is followed keeps the settings within their limits. -/
theorem Valid.assign {settings settings' : Settings} (valid : settings.Valid)
    {name value : List Char} (assigned : settings.assign name value = .ok settings') :
    settings'.Valid := by
  unfold Settings.assign at assigned
  dsimp only at assigned
  split at assigned
  · cases assigned
  · split at assigned
    · cases assigned
      exact ⟨valid.channelDepth, valid.preferenceVariable, valid.globals⟩
    · cases assigned
  · split at assigned
    · cases assigned
    · rename_i nonempty
      cases assigned
      exact ⟨valid.channelDepth, by simpa using nonempty, valid.globals⟩
  · split at assigned
    · cases assigned
    · split at assigned
      · cases assigned
      · rename_i within
        cases assigned
        exact ⟨Nat.le_of_not_lt within, valid.preferenceVariable, valid.globals⟩
  · rename_i _ _ notAction notPreference notDepth
    cases assigned
    refine ⟨valid.channelDepth, valid.preferenceVariable, fun binding member => ?_⟩
    rcases List.mem_append.mp member with earlier | isNew
    · exact valid.globals binding earlier
    · cases List.mem_singleton.mp isNew
      simp only [engineKeys, List.mem_cons, List.not_mem_nil, or_false, not_or]
      exact ⟨notAction, notPreference, notDepth⟩

/-! ### One line -/

/-- The line is a directive: the command and its argument, blanks around them apart. -/
def IsDirective (line : List Char) : Prop :=
  ∃ argument, Text.trim line = "/set".toList ++ argument ∧
    ∀ char ∈ argument.head?, isSeparator char = true

theorem isDirective_of_isSome {line : List Char} (isSome : (directive? line).isSome = true) :
    IsDirective line := by
  unfold directive? at isSome
  split at isSome
  · rename_i rest trimmed
    split at isSome
    · rename_i isSet
      have whole := List.takeWhile_append_dropWhile (p := (!isSeparator ·)) (l := rest)
      rw [isSet] at whole
      refine ⟨rest.dropWhile (!isSeparator ·), trimmed.trans (congrArg ('/' :: ·) whole.symm), ?_⟩
      · intro char isFirst
        have stops := List.head?_dropWhile_not (!isSeparator ·) rest
        rw [Option.mem_def.mp isFirst] at stops
        simpa using stops
    · cases isSome
  · cases isSome

theorem followLine_congr {line line' : List Char} (same : Text.trim line = Text.trim line')
    (settings : Settings) : settings.followLine line = settings.followLine line' := by
  unfold followLine directive?
  rw [same]

theorem followLine_of_blank {line : List Char} (allBlank : ∀ char ∈ line, Text.isBlank char = true)
    (settings : Settings) : settings.followLine line = .ok settings := by
  have trimmed : Text.trim line = Text.trim [] := Text.trim_append_blanks allBlank []
  exact followLine_congr trimmed settings

/-- A line is passed over, or it is a directive with a name and a value. -/
theorem followLine_cases (line : List Char) :
    (∀ settings : Settings, settings.followLine line = .ok settings) ∨
      IsDirective line ∧ ∃ argument, ∀ settings : Settings, settings.followLine line =
        nameAndValue (words argument) >>= fun pair => settings.assign pair.1 pair.2 := by
  unfold followLine
  cases found : directive? line with
  | none => exact .inl fun _ => rfl
  | some argument =>
    have isDirective : IsDirective line := isDirective_of_isSome (found ▸ rfl)
    exact .inr ⟨isDirective, argument, fun _ => rfl⟩

/-- A line is followed or refused whatever the settings are. -/
theorem followLine_eq_error_iff (settings settings' : Settings) (line : List Char)
    (cause : SettingsCause) :
    settings.followLine line = .error cause ↔ settings'.followLine line = .error cause := by
  rcases followLine_cases line with passes | ⟨-, argument, directs⟩
  · rw [passes, passes]
    exact iff_of_false nofun nofun
  · rw [directs, directs]
    cases nameAndValue (words argument) with
    | error reason => rfl
    | ok pair => exact assign_eq_error_iff settings settings' pair.1 pair.2 cause

theorem isDirective_of_refused {settings : Settings} {line : List Char} {cause : SettingsCause}
    (refused : settings.followLine line = .error cause) : IsDirective line := by
  rcases followLine_cases line with passes | ⟨isDirective, -⟩
  · cases (passes settings).symm.trans refused
  · exact isDirective

theorem Valid.followLine {settings settings' : Settings} (valid : settings.Valid)
    {line : List Char} (followed : settings.followLine line = .ok settings') : settings'.Valid := by
  rcases followLine_cases line with passes | ⟨-, argument, directs⟩
  · cases (passes settings).symm.trans followed
    exact valid
  · rw [directs] at followed
    obtain ⟨pair, -, assigned⟩ := bind_eq_ok.mp followed
    exact valid.assign assigned

/-! ### Refused lines -/

/-- The line is refused for this reason, whatever the settings are. -/
def Refused (line : List Char) (cause : SettingsCause) : Prop :=
  ∀ settings : Settings, settings.followLine line = .error cause

theorem refused_of_eq_error {settings : Settings} {line : List Char} {cause : SettingsCause}
    (refused : settings.followLine line = .error cause) : Refused line cause :=
  fun settings' => (followLine_eq_error_iff settings settings' line cause).mp refused

theorem Refused.isDirective {line : List Char} {cause : SettingsCause}
    (refused : Refused line cause) : IsDirective line :=
  isDirective_of_refused (refused standard)

/-- A line is refused by all settings for one reason, or is followed by all. -/
theorem refused_or_followed (line : List Char) :
    (∃ cause, Refused line cause) ∨
      ∀ settings : Settings, ∃ after, settings.followLine line = .ok after := by
  cases ofStandard : standard.followLine line with
  | error cause => exact .inl ⟨cause, refused_of_eq_error ofStandard⟩
  | ok =>
    refine .inr fun settings => ?_
    cases ofSettings : settings.followLine line with
    | error cause => cases ofStandard.symm.trans (refused_of_eq_error ofSettings standard)
    | ok after => exact ⟨after, rfl⟩

/-! ### All lines -/

theorem followLines_cons_of_ok {settings after : Settings} {line : List Char}
    (followed : settings.followLine line = .ok after) (number : Nat) (lines : List (List Char)) :
    followLines settings number (line :: lines) = followLines after (number + 1) lines := by
  rw [followLines, followed]

theorem followLines_cons_of_refused {line : List Char} {cause : SettingsCause}
    (refused : Refused line cause) (settings : Settings) (number : Nat)
    (lines : List (List Char)) :
    followLines settings number (line :: lines) =
      ((followLines settings (number + 1) lines).1,
        ⟨number, cause⟩ :: (followLines settings (number + 1) lines).2) := by
  rw [followLines, refused settings]

/-- The lines are followed part by part. -/
theorem followLines_append (settings : Settings) (number : Nat) (first second : List (List Char)) :
    followLines settings number (first ++ second) =
      let ofFirst := followLines settings number first
      let ofSecond := followLines ofFirst.1 (number + first.length) second
      (ofSecond.1, ofFirst.2 ++ ofSecond.2) := by
  induction first generalizing settings number with
  | nil => rfl
  | cons line first inductionHypothesis =>
    have place : number + (line :: first).length = number + 1 + first.length := by
      rw [List.length_cons]
      omega
    rw [List.cons_append, place]
    rcases refused_or_followed line with ⟨cause, refused⟩ | followed
    · rw [followLines_cons_of_refused refused, followLines_cons_of_refused refused,
        inductionHypothesis settings (number + 1)]
      rfl
    · obtain ⟨after, followed⟩ := followed settings
      rw [followLines_cons_of_ok followed, followLines_cons_of_ok followed,
        inductionHypothesis after (number + 1)]

/-- The errors are those of the refused lines. -/
theorem mem_errors_followLines {settings : Settings} {number : Nat} {lines : List (List Char)}
    {error : SettingsError} :
    error ∈ (followLines settings number lines).2 ↔
      ∃ index line, lines[index]? = some line ∧ error.line = number + index ∧
        Refused line error.cause := by
  induction lines generalizing settings number with
  | nil =>
    refine iff_of_false List.not_mem_nil ?_
    rintro ⟨index, line, isLine, -⟩
    cases isLine
  | cons first lines inductionHypothesis =>
    -- The first line is at index zero; the others are one further than among themselves.
    have ofIndex : (∃ index line, (first :: lines)[index]? = some line ∧
          error.line = number + index ∧ Refused line error.cause) ↔
        (error.line = number ∧ Refused first error.cause) ∨
          ∃ index line, lines[index]? = some line ∧ error.line = number + 1 + index ∧
            Refused line error.cause := by
      constructor
      · rintro ⟨index, line, isLine, place, refused⟩
        cases index with
        | zero =>
          cases isLine
          exact .inl ⟨place, refused⟩
        | succ index => exact .inr ⟨index, line, isLine, by omega, refused⟩
      · rintro (⟨place, refused⟩ | ⟨index, line, isLine, place, refused⟩)
        · exact ⟨0, first, rfl, place, refused⟩
        · exact ⟨index + 1, line, isLine, by omega, refused⟩
    rw [ofIndex]
    rcases refused_or_followed first with ⟨cause, refused⟩ | followed
    · rw [followLines_cons_of_refused refused, List.mem_cons, inductionHypothesis]
      refine or_congr_left ⟨?_, ?_⟩
      · rintro rfl
        exact ⟨rfl, refused⟩
      · rintro ⟨place, refused'⟩
        cases error
        cases place
        cases (refused standard).symm.trans (refused' standard)
        rfl
    · obtain ⟨after, isFollowed⟩ := followed settings
      rw [followLines_cons_of_ok isFollowed, inductionHypothesis]
      refine (or_iff_right ?_).symm
      rintro ⟨-, refused⟩
      cases isFollowed.symm.trans (refused settings)

/-- The errors stand in the order of the lines, at most one for each. -/
theorem pairwise_errors_followLines (settings : Settings) (number : Nat)
    (lines : List (List Char)) :
    (followLines settings number lines).2.Pairwise fun earlier later =>
      earlier.line < later.line := by
  induction lines generalizing settings number with
  | nil => exact .nil
  | cons line lines inductionHypothesis =>
    rcases refused_or_followed line with ⟨cause, refused⟩ | followed
    · rw [followLines_cons_of_refused refused]
      refine .cons (fun later member => ?_) (inductionHypothesis settings (number + 1))
      obtain ⟨index, -, -, place, -⟩ := mem_errors_followLines.mp member
      have isAfter : number < later.line := by omega
      exact isAfter
    · obtain ⟨after, followed⟩ := followed settings
      rw [followLines_cons_of_ok followed]
      exact inductionHypothesis after (number + 1)

theorem Valid.followLines {settings : Settings} (valid : settings.Valid) (number : Nat)
    (lines : List (List Char)) : (settings.followLines number lines).1.Valid := by
  induction lines generalizing settings number with
  | nil => exact valid
  | cons line lines inductionHypothesis =>
    rcases refused_or_followed line with ⟨cause, refused⟩ | followed
    · rw [followLines_cons_of_refused refused]
      exact inductionHypothesis valid (number + 1)
    · obtain ⟨after, followed⟩ := followed settings
      rw [followLines_cons_of_ok followed]
      exact inductionHypothesis (valid.followLine followed) (number + 1)

/-! ### Blank lines in the place of refused ones -/

/-- The lines, with others in the places of some of them. -/
def replaceLines (other : Nat → Option (List Char)) (number : Nat) (lines : List (List Char)) :
    List (List Char) :=
  lines.mapIdx fun index line => (other (number + index)).getD line

theorem replaceLines_cons (other : Nat → Option (List Char)) (number : Nat) (line : List Char)
    (lines : List (List Char)) :
    replaceLines other number (line :: lines) =
      (other number).getD line :: replaceLines other (number + 1) lines := by
  unfold replaceLines
  rw [List.mapIdx_cons]
  refine congrArg (_ :: ·) (congrArg (List.mapIdx · lines) (funext₂ fun index line => ?_))
  rw [Nat.add_comm index 1, ← Nat.add_assoc]

/-- Lines are replaced only where errors are reported, and by blanks. -/
structure Blanking (errors : List SettingsError) (other : Nat → Option (List Char)) : Prop where
  reported : ∀ number, (other number).isSome = true → ∃ error ∈ errors, error.line = number
  blank : ∀ number line, other number = some line →
    '\n' ∉ line ∧ ∀ char ∈ line, Text.isBlank char = true

/-- Refused lines may be made blank, and then they are not reported. -/
theorem followLines_replaceLines {other : Nat → Option (List Char)} {number : Nat}
    {lines : List (List Char)}
    (refused : ∀ index line, lines[index]? = some line → (other (number + index)).isSome = true →
      ∃ cause, Refused line cause)
    (blank : ∀ number line, other number = some line → ∀ char ∈ line, Text.isBlank char = true)
    (settings : Settings) :
    followLines settings number (replaceLines other number lines) =
      ((followLines settings number lines).1,
        (followLines settings number lines).2.filter fun error => (other error.line).isNone) := by
  induction lines generalizing settings number with
  | nil => rfl
  | cons line lines inductionHypothesis =>
    have ofLines := @inductionHypothesis (number + 1) fun index later isLine isReplaced =>
      refused (index + 1) later isLine (by rwa [Nat.add_comm index 1, ← Nat.add_assoc])
    rw [replaceLines_cons]
    cases replaced : other number with
    | some blanks =>
      obtain ⟨cause, isRefused⟩ := refused 0 line rfl (by simp [replaced])
      rw [followLines_cons_of_refused isRefused, Option.getD_some,
        followLines_cons_of_ok (followLine_of_blank (blank number blanks replaced) settings),
        ofLines, List.filter_cons_of_neg (by simp [replaced])]
    | none =>
      rw [Option.getD_none]
      rcases refused_or_followed line with ⟨cause, isRefused⟩ | followed
      · rw [followLines_cons_of_refused isRefused, followLines_cons_of_refused isRefused, ofLines,
          List.filter_cons_of_pos (by simp [replaced])]
      · obtain ⟨after, followed⟩ := followed settings
        rw [followLines_cons_of_ok followed, followLines_cons_of_ok followed, ofLines]

/-! ### The whole file -/

theorem followLines_lines_joined {segments : List (List Char)}
    (noNewline : ∀ segment ∈ segments, '\n' ∉ segment) (settings : Settings) (number : Nat) :
    followLines settings number (Text.lines (Text.joined segments)) =
      followLines settings number segments := by
  induction segments generalizing settings number with
  | nil => rfl
  | cons segment segments inductionHypothesis =>
    obtain ⟨ofSegment, ofSegments⟩ := List.forall_mem_cons.mp noNewline
    cases segments with
    | nil =>
      rw [Text.joined_singleton]
      rcases eq_or_ne segment [] with rfl | nonempty
      · rfl
      · rw [Text.lines, Text.linesFrom_of_not_mem ofSegment (.inr nonempty)]
        rfl
    | cons next segments =>
      have divided : Text.lines (Text.joined (segment :: next :: segments)) =
          Text.closeLine segment.reverse :: Text.lines (Text.joined (next :: segments)) := by
        rw [Text.joined_cons_cons, Text.lines, Text.linesFrom_append,
          Text.linesFrom_closed ofSegment, List.append_nil]
        rfl
      have same : settings.followLine (Text.closeLine segment.reverse) =
          settings.followLine segment :=
        followLine_congr (by rw [Text.trim_closeLine, List.reverse_reverse]) settings
      rw [divided, followLines, followLines, same]
      cases settings.followLine segment with
      | ok after => exact inductionHypothesis ofSegments after (number + 1)
      | error cause =>
        dsimp only
        rw [inductionHypothesis ofSegments settings (number + 1)]

/-- A file is loaded segment by segment. -/
theorem load_joined {segments : List (List Char)}
    (noNewline : ∀ segment ∈ segments, '\n' ∉ segment) :
    load (String.ofList (Text.joined segments)) = followLines standard 1 segments := by
  rw [load, String.toList_ofList]
  exact followLines_lines_joined noNewline standard 1

theorem load_eq (text : String) :
    load text = followLines standard 1 (Text.segments text.toList) := by
  have ofSegments := load_joined (@Text.not_mem_of_mem_segments text.toList)
  rwa [Text.joined_segments, String.ofList_toList] at ofSegments

theorem noNewline_replaceLines {other : Nat → Option (List Char)}
    (noNewline : ∀ number line, other number = some line → '\n' ∉ line) {lines : List (List Char)}
    (ofLines : ∀ line ∈ lines, '\n' ∉ line) (number : Nat) :
    ∀ line ∈ replaceLines other number lines, '\n' ∉ line := by
  intro line member
  obtain ⟨index, within, rfl⟩ := List.mem_mapIdx.mp member
  cases replaced : other (number + index) with
  | none => exact ofLines _ (List.getElem_mem within)
  | some blanks => exact noNewline _ blanks replaced

/-- A directive that cannot be followed is reported with its line and does nothing. The errors are
those of the refused lines, each in its place. In the place of any of them there may be blank lines
instead, and then the settings are the same and the other errors remain. The first lines of a file
make no difference to which of the others are refused. The settings are always within their
limits. -/
theorem load_reports_refused_lines (text : String) :
    ((load text).2.Pairwise fun earlier later => earlier.line < later.line) ∧
    (∀ error, error ∈ (load text).2 ↔
      ∃ index line, (Text.segments text.toList)[index]? = some line ∧ error.line = index + 1 ∧
        IsDirective line ∧ Refused line error.cause) ∧
    (∀ other, Blanking (load text).2 other →
      let blanked :=
        load (String.ofList (Text.joined (replaceLines other 1 (Text.segments text.toList))))
      blanked = ((load text).1, (load text).2.filter fun error => (other error.line).isNone) ∧
        ((∀ error ∈ (load text).2, (other error.line).isSome = true) → blanked.2 = [])) ∧
    (∀ count,
      let first := load (String.ofList (Text.joined ((Text.segments text.toList).take count)))
      let others := followLines first.1 (count + 1) ((Text.segments text.toList).drop count)
      load text = (others.1, first.2 ++ others.2)) ∧
    (∀ line, (∃ cause, Refused line cause) ∨
      ∀ settings : Settings, ∃ after, settings.followLine line = .ok after) ∧
    (load text).1.Valid := by
  rw [load_eq]
  generalize isDivided : Text.segments text.toList = segments
  have noNewline : ∀ segment ∈ segments, '\n' ∉ segment :=
    isDivided ▸ fun _ => Text.not_mem_of_mem_segments
  have ofRefused (error : SettingsError) : error ∈ (followLines standard 1 segments).2 ↔
      ∃ index line, segments[index]? = some line ∧ error.line = index + 1 ∧
        IsDirective line ∧ Refused line error.cause := by
    rw [mem_errors_followLines]
    refine exists₂_congr fun index line => and_congr_right fun _ => ?_
    rw [Nat.add_comm 1 index]
    exact and_congr_right fun _ => ⟨fun refused => ⟨refused.isDirective, refused⟩, And.right⟩
  have whenReplaced (other : Nat → Option (List Char))
      (blanking : Blanking (followLines standard 1 segments).2 other) :
      load (String.ofList (Text.joined (replaceLines other 1 segments))) =
        ((followLines standard 1 segments).1,
          (followLines standard 1 segments).2.filter fun error => (other error.line).isNone) := by
    rw [load_joined (noNewline_replaceLines (fun number line replaced =>
      (blanking.blank number line replaced).1) noNewline 1)]
    refine followLines_replaceLines (fun index line isLine isReplaced => ?_)
      (fun number line replaced => (blanking.blank number line replaced).2) standard
    obtain ⟨error, member, place⟩ := blanking.reported _ isReplaced
    obtain ⟨index', line', isLine', place', -, refused⟩ := (ofRefused error).mp member
    obtain rfl : index' = index := by omega
    cases isLine.symm.trans isLine'
    exact ⟨error.cause, refused⟩
  refine ⟨pairwise_errors_followLines standard 1 segments, ofRefused, fun other blanking =>
    ⟨whenReplaced other blanking, fun all => ?_⟩, fun count => ?_, refused_or_followed,
    valid_standard.followLines 1 segments⟩
  · rw [whenReplaced other blanking]
    refine List.filter_eq_nil_iff.mpr fun error member => ?_
    rw [Option.isNone_iff_eq_none, ← Option.not_isSome_iff_eq_none, not_not]
    exact all error member
  · dsimp only
    rw [load_joined fun segment member => noNewline segment (List.mem_of_mem_take member)]
    rcases Nat.le_total count segments.length with within | beyond
    · have divided := followLines_append standard 1 (segments.take count) (segments.drop count)
      rwa [List.take_append_drop, List.length_take_of_le within, Nat.add_comm 1 count] at divided
    · rw [List.take_of_length_le beyond, List.drop_of_length_le beyond]
      exact Prod.ext rfl (List.append_nil _).symm

/-- A file with three errors, in its first, third and fifth line. -/
def threeErrors : String :=
  "/set\n; note\n/set sb_fallback_action=p\r\n/set sb_preference_variable=p\n/set =x"

/-- A blank line in the place of the third. -/
def thirdBlank (number : Nat) : Option (List Char) :=
  if number = 3 then some [' '] else none

theorem load_reports_refused_lines_of_three :
    Blanking (load threeErrors).2 thirdBlank ∧
      load "/set\n; note\n \n/set sb_preference_variable=p\n/set =x" =
        ((load threeErrors).1, [⟨1, .withoutArgument⟩, ⟨5, .emptyName⟩]) := by
  have errors : (load threeErrors).2 =
      [⟨1, .withoutArgument⟩, ⟨3, .unknownAction "p"⟩, ⟨5, .emptyName⟩] := by
    decide +kernel
  have blanking : Blanking (load threeErrors).2 thirdBlank := by
    rw [errors]
    constructor
    · intro number isReplaced
      have isThird : number = 3 := by
        by_contra isOther
        rw [thirdBlank, if_neg isOther] at isReplaced
        cases isReplaced
      exact ⟨⟨3, .unknownAction "p"⟩, .tail _ (.head _), isThird.symm⟩
    · intro number line replaced
      obtain ⟨-, isLine⟩ := Option.ite_none_right_eq_some.mp replaced
      cases isLine
      exact ⟨by decide, List.forall_mem_singleton.mpr rfl⟩
  have blanked : String.ofList (Text.joined (replaceLines thirdBlank 1
      (Text.segments threeErrors.toList))) =
        "/set\n; note\n \n/set sb_preference_variable=p\n/set =x" := by
    decide +kernel
  have replaced := ((load_reports_refused_lines threeErrors).2.2.1 thirdBlank blanking).1
  rw [errors, blanked] at replaced
  exact ⟨blanking, replaced⟩

end Settings

end SlashScript
