/-
This file measures the texts that built-in functions give, in bytes. Most functions cut a text,
repeat it within the limit or give one of their arguments, so what they give is within the limit if
their arguments are. Four functions put texts together or exchange parts of them, and these may
give more: how much more is said for each of them.

A case map goes from letter to letter, so its bound is that of one letter, which is read off its
tables.
-/

import Mathlib.Algebra.GroupWithZero.Nat
import Mathlib.Data.String.Basic
import SlashScript.Builtin
import SlashScript.Proofs.Success

namespace SlashScript

open String (utf8Len)

namespace Text

/-! ### The sizes of characters -/

theorem utf8Size_eq (char : Char) :
    char.utf8Size =
      if char.toNat < 0x80 then 1 else if char.toNat < 0x800 then 2
      else if char.toNat < 0x10000 then 3 else 4 := by
  have ofValue (limit : UInt32) : char.val ≤ limit ↔ char.toNat < limit.toNat + 1 := by
    rw [UInt32.le_iff_toNat_le, Nat.lt_succ_iff]
    rfl
  unfold Char.utf8Size
  simp only [ofValue]
  rfl

theorem two_le_utf8Size {char : Char} (notAscii : ¬ char.toNat < 0x80) : 2 ≤ char.utf8Size := by
  rw [utf8Size_eq, if_neg notAscii]
  split
  · exact Nat.le_refl 2
  · split <;> decide

theorem three_le_utf8Size {char : Char} (notShort : ¬ char.toNat < 0x800) :
    3 ≤ char.utf8Size := by
  rw [utf8Size_eq, if_neg (by omega), if_neg notShort]
  split <;> decide

theorem utf8Size_le_three {char : Char} (inRange : char.toNat < 0x10000) :
    char.utf8Size ≤ 3 := by
  rw [utf8Size_eq, if_pos inRange]
  split
  · decide
  · split <;> decide

theorem utf8Size_of_ascii {char : Char} (ascii : char.toNat < 0x80) : char.utf8Size = 1 := by
  rw [utf8Size_eq, if_pos ascii]

theorem utf8Len_singleton (char : Char) : utf8Len [char] = char.utf8Size :=
  Nat.zero_add _

theorem utf8Len_replicate (count : Nat) (char : Char) :
    utf8Len (List.replicate count char) = count * char.utf8Size := by
  induction count with
  | zero => rw [Nat.zero_mul]; rfl
  | succ count inductionHypothesis =>
    rw [List.replicate_succ, String.utf8Len_cons, inductionHypothesis, Nat.succ_mul]

theorem utf8ByteSize_join (texts : List String) :
    (String.join texts).utf8ByteSize = (texts.map String.utf8ByteSize).sum := by
  rw [← String.utf8Len_toList, String.toList_join]
  induction texts with
  | nil => rfl
  | cons text texts inductionHypothesis =>
    rw [List.flatMap_cons, String.utf8Len_append, String.utf8Len_toList, inductionHypothesis]
    rfl

/-! ### Case maps -/

/-- A bound for the form of a character under a case map, from bounds for the two tables. -/
theorem utf8Len_mapCase_le {shifts : List Shift} {expansions : List (Nat × List Nat)} {char : Char}
    {bound : Nat} (itself : char.utf8Size ≤ bound)
    (shifted : ∀ shift ∈ shifts, shift.letters.contains char.toNat = true →
      (Char.ofNat (char.toNat + shift.distance).toNat).utf8Size ≤ bound)
    (expanded : ∀ entry ∈ expansions, utf8Len (entry.2.map Char.ofNat) ≤ bound) :
    utf8Len (mapCase shifts expansions char) ≤ bound := by
  unfold mapCase
  dsimp only
  split
  · next shift found =>
    rw [utf8Len_singleton]
    exact shifted shift (List.mem_of_find?_eq_some found)
      (@List.find?_some _ (fun shift : Shift => shift.letters.contains char.toNat) _ _ found)
  · split
    · next codes found =>
      obtain ⟨before, after, split, _⟩ := List.lookup_eq_some_iff.mp found
      exact expanded (char.toNat, codes) (split ▸ List.mem_append_cons_self)
    · rwa [utf8Len_singleton]

theorem capitalExpansions_size :
    ∀ entry ∈ capitalExpansions, utf8Len (entry.2.map Char.ofNat) ≤ 6 := by
  decide

theorem smallExpansions_size :
    ∀ entry ∈ smallExpansions, utf8Len (entry.2.map Char.ofNat) ≤ 3 := by
  decide

theorem smallShifts_size :
    ∀ shift ∈ smallShifts, shift.letters.first < 0x800 →
      (shift.letters.last + shift.distance).toNat < 0x10000 := by
  decide +kernel

theorem toNat_ofNat_le (code : Nat) : (Char.ofNat code).toNat ≤ code := by
  by_cases isValid : code.isValidChar
  · have isCode : Char.ofNat code = Char.ofNatAux code isValid := dif_pos isValid
    rw [isCode]
    exact Nat.le_refl code
  · have isNull : Char.ofNat code = '\x00' := dif_neg isValid
    rw [isNull]
    exact Nat.zero_le code

/-- The letters that ASCII has stay in it. -/
theorem ascii_form {char : Char} (ascii : char.toNat < 0x80) :
    char.toUpper.toNat < 0x80 ∧ char.toLower.toNat < 0x80 := by
  have each : ∀ code < 0x80,
      (Char.ofNat code).toUpper.toNat < 0x80 ∧ (Char.ofNat code).toLower.toNat < 0x80 := by
    decide +kernel
  have ofChar := each char.toNat ascii
  rwa [Char.ofNat_toNat] at ofChar

/-- A letter grows to three times its size at most when it is made a capital. -/
theorem utf8Len_capital (char : Char) : utf8Len (capital char) ≤ 3 * char.utf8Size := by
  unfold capital
  split
  · next ascii =>
    rw [utf8Len_singleton, utf8Size_of_ascii (ascii_form ascii).1]
    have positive := char.utf8Size_pos
    omega
  · next notAscii =>
    have atLeast := two_le_utf8Size notAscii
    refine utf8Len_mapCase_le (by omega) (fun shift _ _ => ?_) fun entry member => ?_
    · exact (Char.utf8Size_le_four _).trans (by omega)
    · exact (capitalExpansions_size entry member).trans (by omega)

/-- A letter grows by half its size at most when it is made small. -/
theorem utf8Len_small (char : Char) : 2 * utf8Len (small char) ≤ 3 * char.utf8Size := by
  unfold small
  split
  · next ascii =>
    rw [utf8Len_singleton, utf8Size_of_ascii (ascii_form ascii).2]
    have positive := char.utf8Size_pos
    omega
  · next notAscii =>
    have atLeast := two_le_utf8Size notAscii
    suffices bounded : utf8Len (mapCase smallShifts smallExpansions char) ≤ 3 * char.utf8Size / 2 by
      omega
    refine utf8Len_mapCase_le (by omega) (fun shift member contains => ?_) fun entry member => ?_
    · by_cases isShort : char.toNat < 0x800
      · simp only [Stretch.contains, Bool.and_eq_true, decide_eq_true_eq] at contains
        have inRange := smallShifts_size shift member (by omega)
        refine (utf8Size_le_three ?_).trans (by omega)
        exact (Nat.lt_of_le_of_lt (toNat_ofNat_le _)) (by omega)
      · have large := three_le_utf8Size isShort
        exact (Char.utf8Size_le_four _).trans (by omega)
    · exact (smallExpansions_size entry member).trans (by omega)

theorem utf8Len_toCapitals (chars : List Char) :
    utf8Len (toCapitals chars) ≤ 3 * utf8Len chars := by
  unfold toCapitals
  induction chars with
  | nil => exact Nat.le_refl 0
  | cons char chars inductionHypothesis =>
    have first := utf8Len_capital char
    rw [List.flatMap_cons, String.utf8Len_append, String.utf8Len_cons]
    omega

theorem utf8Len_toSmallsAfter (before chars : List Char) :
    2 * utf8Len (toSmallsAfter before chars) ≤ 3 * utf8Len chars := by
  fun_induction toSmallsAfter before chars with
  | case1 => exact Nat.le_refl 0
  | case2 before rest inductionHypothesis =>
    have sigma : (if startsCased before && !startsCased rest then 'ς' else 'σ').utf8Size = 2 := by
      split <;> rfl
    have capitalSigma : 'Σ'.utf8Size = 2 := rfl
    rw [String.utf8Len_cons, String.utf8Len_cons, sigma, capitalSigma]
    omega
  | case3 before char rest _ inductionHypothesis =>
    have first := utf8Len_small char
    rw [String.utf8Len_append, String.utf8Len_cons]
    omega

/-- Without a capital sigma every letter is made small by itself. -/
theorem toSmallsAfter_of_not_mem {chars : List Char} (noSigma : 'Σ' ∉ chars)
    (before : List Char) : toSmallsAfter before chars = chars.flatMap small := by
  induction chars generalizing before with
  | nil => rfl
  | cons char chars inductionHypothesis =>
    obtain ⟨notSigma, noSigma⟩ := not_or.mp (mt List.mem_cons.mpr noSigma)
    rw [toSmallsAfter.eq_3 before char chars (Ne.symm notSigma), inductionHypothesis noSigma,
      List.flatMap_cons]

/-- A text of one letter over and over grows as the letter does. -/
theorem utf8Len_flatMap_replicate (change : Char → List Char) (count : Nat) (char : Char) :
    utf8Len ((List.replicate count char).flatMap change) = count * utf8Len (change char) := by
  induction count with
  | zero => rw [Nat.zero_mul]; rfl
  | succ count inductionHypothesis =>
    rw [List.replicate_succ, List.flatMap_cons, String.utf8Len_append, inductionHypothesis,
      Nat.succ_mul, Nat.add_comm]

end Text

namespace Builtin

/-! ### Replacement and selection -/

/-- Each occurrence that is replaced takes its bytes out of the text and puts those of the
replacement in. -/
theorem utf8Len_replaceFrom (wanted replacement : List Char) (passing : Nat) (text : List Char)
    (nonempty : wanted ≠ []) :
    ∃ count, count * wanted.length + (text.take passing).length ≤ text.length ∧
      utf8Len (replaceFrom wanted replacement passing text) + utf8Len (text.take passing) +
          count * utf8Len wanted =
        utf8Len text + count * utf8Len replacement := by
  induction text generalizing passing with
  | nil =>
    refine ⟨0, ?_, ?_⟩
    · rw [List.take_nil, Nat.zero_mul]
      exact Nat.le_refl 0
    · rw [List.take_nil, replaceFrom, Nat.zero_mul, Nat.zero_mul]
      rfl
  | cons char rest inductionHypothesis =>
    cases passing with
    | succ passing =>
      obtain ⟨count, fits, size⟩ := inductionHypothesis passing
      refine ⟨count, ?_, ?_⟩
      · rw [List.take_succ_cons, List.length_cons, List.length_cons]
        omega
      · rw [replaceFrom, List.take_succ_cons, String.utf8Len_cons, String.utf8Len_cons]
        omega
    | zero =>
      rw [replaceFrom]
      split
      · next isPrefix =>
        obtain ⟨first, others, rfl⟩ := List.exists_cons_of_ne_nil nonempty
        obtain ⟨rfl, occurs⟩ := List.cons_prefix_cons.mp (List.isPrefixOf_iff_prefix.mp isPrefix)
        obtain ⟨count, fits, size⟩ := inductionHypothesis others.length
        rw [← List.prefix_iff_eq_take.mp occurs] at fits size
        refine ⟨count + 1, ?_, ?_⟩
        · rw [List.take_zero, List.length_nil, List.length_cons, List.length_cons, Nat.succ_mul]
          rw [List.length_cons] at fits
          omega
        · rw [List.take_zero, String.utf8Len_append, String.utf8Len_cons, String.utf8Len_cons,
            String.utf8Len_nil, List.length_cons, Nat.add_sub_cancel, Nat.succ_mul, Nat.succ_mul]
          rw [String.utf8Len_cons] at size
          omega
      · obtain ⟨count, fits, size⟩ := inductionHypothesis 0
        refine ⟨count, ?_, ?_⟩
        · rw [List.length_cons]
          exact fits.trans (Nat.le_succ _)
        · rw [String.utf8Len_cons, String.utf8Len_cons]
          rw [List.take_zero] at size ⊢
          omega

theorem utf8Len_flatMap_cons (text replacement : List Char) :
    utf8Len (text.flatMap fun char => char :: replacement) =
      utf8Len text + text.length * utf8Len replacement := by
  induction text with
  | nil =>
    rw [List.flatMap_nil, List.length_nil, Nat.zero_mul]
    rfl
  | cons char text inductionHypothesis =>
    rw [List.flatMap_cons, List.cons_append, String.utf8Len_cons, String.utf8Len_append,
      String.utf8Len_cons, List.length_cons, Nat.succ_mul]
    omega

theorem utf8Len_replaceAll (text wanted replacement : List Char) :
    ∃ count, count * wanted.length ≤ text.length ∧ (wanted = [] → count = text.length + 1) ∧
      utf8Len (replaceAll text wanted replacement) + count * utf8Len wanted =
        utf8Len text + count * utf8Len replacement := by
  unfold replaceAll
  cases wanted with
  | nil =>
    refine ⟨text.length + 1, Nat.zero_le _, fun _ => rfl, ?_⟩
    rw [if_pos List.isEmpty_nil, String.utf8Len_append, utf8Len_flatMap_cons, String.utf8Len_nil,
      Nat.mul_zero, Nat.succ_mul]
    omega
  | cons first others =>
    obtain ⟨count, fits, size⟩ :=
      utf8Len_replaceFrom (first :: others) replacement 0 text (List.cons_ne_nil first others)
    exact ⟨count, fits, nofun, size⟩

/-- A part of a text is no larger than the text. -/
theorem utf8Len_take_drop (start length : Nat) (text : List Char) :
    utf8Len ((text.drop start).take length) ≤ utf8Len text :=
  String.utf8Len_le_of_sublist ((List.take_sublist _ _).trans (List.drop_sublist _ _))

theorem utf8Len_slice (text : List Char) (position : Nat) (length : Option Nat) :
    utf8Len (slice text position length) ≤ utf8Len text := by
  cases length with
  | none => exact String.utf8Len_le_of_sublist (List.drop_sublist _ _)
  | some length => exact utf8Len_take_drop position length text

theorem find?_size (regex : Regex) (text : String) :
    ((regex.find? text).getD "").utf8ByteSize ≤ text.utf8ByteSize := by
  unfold Regex.find?
  cases regex.tree.search text.toList with
  | none => exact Nat.zero_le _
  | some found =>
    rw [Option.map_some, Option.getD_some, String.utf8ByteSize_ofList, ← text.utf8Len_toList]
    exact utf8Len_take_drop _ _ _

theorem extreme_mem (direction : Ordering) (first : Value) (others : List Value) :
    extreme direction first others ∈ first :: others := by
  unfold extreme
  induction others generalizing first with
  | nil => exact List.mem_cons_self
  | cons second others inductionHypothesis =>
    rw [List.foldl_cons]
    split
    · exact List.mem_cons_of_mem _ (inductionHypothesis second)
    · rcases List.mem_cons.mp (inductionHypothesis first) with same | member
      · exact List.mem_cons.mpr (.inl same)
      · exact List.mem_cons_of_mem _ (List.mem_cons_of_mem _ member)

/-! ### Calls -/

/-- The texts of all arguments are within the limit on what a function may give. -/
def Within (arguments : List Value) : Prop :=
  ∀ value ∈ arguments, value.toText.utf8ByteSize ≤ maxResultBytes

variable {function : Builtin} {arguments : List Value} {result : String}

theorem Within.textArgument (within : Within arguments) {position : Nat} {text : String}
    (given : function.textArgument arguments position = .ok text) :
    text.utf8ByteSize ≤ maxResultBytes := by
  obtain ⟨value, isArgument, rfl⟩ := map_eq_ok.mp given
  unfold argument at isArgument
  split at isArgument
  · next found =>
    cases isArgument
    exact within _ (List.mem_of_getElem? found)
  · cases isArgument

theorem Within.extreme (within : Within arguments) {direction : Ordering} {first : Value}
    (given : function.firstArgument arguments = .ok first)
    (isExtreme : Builtin.extreme direction first arguments.tail = .text result) :
    result.utf8ByteSize ≤ maxResultBytes := by
  cases arguments with
  | nil => cases given
  | cons value others =>
    cases given
    have member := extreme_mem direction first others
    rw [show Builtin.extreme direction first others = .text result from isExtreme] at member
    exact within _ member

/-- The functions whose results may be larger than the limit. -/
def growing : List Builtin :=
  [strcat, replace, toupper, tolower]

/-- Every other function keeps to the limit. -/
theorem Within.call (within : Within arguments)
    (called : function.call arguments = .ok (.text result))
    (notGrowing : function ∉ growing) : result.utf8ByteSize ≤ maxResultBytes := by
  cases function with
  | strcat | replace | toupper | tolower => exact absurd (by decide) notGrowing
  | strlen =>
    obtain ⟨_, _, called⟩ := bind_eq_ok.mp called
    cases called
  | substr =>
    obtain ⟨text, given, called⟩ := bind_eq_ok.mp called
    obtain ⟨position, _, called⟩ := bind_eq_ok.mp called
    cases called
    rw [String.utf8ByteSize_ofList]
    refine (utf8Len_slice _ _ _).trans ?_
    rw [String.utf8Len_toList]
    exact within.textArgument given
  | strstr =>
    obtain ⟨_, _, called⟩ := bind_eq_ok.mp called
    obtain ⟨_, _, called⟩ := bind_eq_ok.mp called
    split at called <;> cases called
  | strrep =>
    obtain ⟨text, given, called⟩ := bind_eq_ok.mp called
    obtain ⟨count, _, called⟩ := bind_eq_ok.mp called
    dsimp only at called
    split at called
    · next fits =>
      cases called
      split
      · exact Nat.zero_le _
      · rw [Text.utf8ByteSize_join, List.map_replicate, List.sum_replicate_nat, Nat.mul_comm]
        exact fits
    · cases called
  | regmatch =>
    obtain ⟨_, _, called⟩ := bind_eq_ok.mp called
    obtain ⟨text, given, called⟩ := bind_eq_ok.mp called
    split at called
    · cases called
      exact (find?_size _ text).trans (within.textArgument given)
    · cases called
  | abs =>
    obtain ⟨first, _, called⟩ := bind_eq_ok.mp called
    split at called <;> cases called
  | min | max =>
    obtain ⟨first, given, called⟩ := bind_eq_ok.mp called
    exact within.extreme given (Except.ok.inj called)
  | whatis =>
    obtain ⟨first, _, called⟩ := bind_eq_ok.mp called
    cases called
    cases first <;> simp only [Value.typeName] <;> decide
  | action =>
    obtain ⟨text, _, called⟩ := bind_eq_ok.mp called
    split at called <;> cases called

theorem size_of_strcat (arguments : List Value) :
    (String.join (arguments.map Value.toText)).utf8ByteSize =
      (arguments.map fun value => value.toText.utf8ByteSize).sum := by
  rw [Text.utf8ByteSize_join, List.map_map]
  rfl

theorem size_of_replace (text wanted replacement : String) :
    ∃ count, count * wanted.length ≤ text.length ∧ (wanted = "" → count = text.length + 1) ∧
      utf8Len (replaceAll text.toList wanted.toList replacement.toList) +
          count * wanted.utf8ByteSize =
        text.utf8ByteSize + count * replacement.utf8ByteSize := by
  obtain ⟨count, fits, ofEmpty, size⟩ :=
    utf8Len_replaceAll text.toList wanted.toList replacement.toList
  rw [String.utf8Len_toList, String.utf8Len_toList, String.utf8Len_toList] at size
  exact ⟨count, fits, fun isEmpty => ofEmpty (isEmpty ▸ rfl), size⟩

/-! ### Results above the limit -/

/-- The function gives a text above the limit for texts within it. -/
def Exceeds (function : Builtin) : Prop :=
  ∃ arguments result, Within arguments ∧ function.call arguments = .ok (.text result) ∧
    maxResultBytes < result.utf8ByteSize

/-- A text of one character over and over. -/
def repeated (count : Nat) (char : Char) : Value :=
  ofChars (List.replicate count char)

theorem toList_repeated (count : Nat) (char : Char) :
    (repeated count char).toText.toList = List.replicate count char :=
  String.toList_ofList

theorem size_repeated (count : Nat) (char : Char) :
    (repeated count char).toText.utf8ByteSize = count * char.utf8Size :=
  (String.utf8ByteSize_ofList _).trans (Text.utf8Len_replicate count char)

theorem within_nil : Within [] :=
  List.forall_mem_nil _

theorem Within.repeated (within : Within arguments) {count : Nat} {char : Char}
    (fits : count * char.utf8Size ≤ maxResultBytes) : Within (repeated count char :: arguments) :=
  List.forall_mem_cons.mpr ⟨(size_repeated count char).trans_le fits, within⟩

/-- Something put after a text as large as a result may be. -/
theorem strcat_exceeds :
    Within [repeated maxResultBytes 'a', repeated 1 'a'] ∧
      maxResultBytes <
        (String.join ([repeated maxResultBytes 'a', repeated 1 'a'].map
          Value.toText)).utf8ByteSize := by
  constructor
  · exact (within_nil.repeated (by decide)).repeated (Nat.le_of_eq (Nat.mul_one _))
  · rw [size_of_strcat, List.map_cons, List.map_singleton, List.sum_cons, List.sum_singleton,
      size_repeated, size_repeated]
    decide

/-- A text as large as a result may be, put before a character and after it. -/
theorem replace_exceeds : replace.Exceeds := by
  refine ⟨[repeated 1 'a', repeated 0 'a', repeated maxResultBytes 'a'], _, ?_, rfl, ?_⟩
  · exact ((within_nil.repeated (Nat.le_of_eq (Nat.mul_one _))).repeated (Nat.zero_le _)).repeated
      (by decide)
  · obtain ⟨count, _, ofEmpty, size⟩ := size_of_replace (repeated 1 'a').toText
      (repeated 0 'a').toText (repeated maxResultBytes 'a').toText
    have twice : count = 2 := ofEmpty rfl
    rw [size_repeated, size_repeated, size_repeated, show 'a'.utf8Size = 1 from rfl, twice] at size
    rw [String.utf8ByteSize_ofList]
    omega

/-- A letter of two bytes whose capital form has six. -/
theorem toupper_exceeds : toupper.Exceeds := by
  refine ⟨[repeated (maxResultBytes / 2) 'ΐ'], _, within_nil.repeated (by decide), rfl, ?_⟩
  have form : utf8Len (Text.capital 'ΐ') = 6 := by decide +kernel
  rw [String.utf8ByteSize_ofList, toList_repeated, Text.toCapitals, Text.utf8Len_flatMap_replicate,
    form]
  decide

/-- A letter of two bytes whose small form has three. -/
theorem tolower_exceeds : tolower.Exceeds := by
  refine ⟨[repeated (maxResultBytes / 2) 'Ⱥ'], _, within_nil.repeated (by decide), rfl, ?_⟩
  have form : utf8Len (Text.small 'Ⱥ') = 3 := by decide +kernel
  have noSigma : 'Σ' ∉ List.replicate (maxResultBytes / 2) 'Ⱥ' := fun member =>
    absurd (List.eq_of_mem_replicate member) (by decide)
  rw [String.utf8ByteSize_ofList, toList_repeated, Text.toSmalls,
    Text.toSmallsAfter_of_not_mem noSigma, Text.utf8Len_flatMap_replicate, form]
  decide

theorem exceeds_of_mem (member : function ∈ growing) : function.Exceeds := by
  cases function with
  | strcat => exact ⟨_, _, strcat_exceeds.1, rfl, strcat_exceeds.2⟩
  | replace => exact replace_exceeds
  | toupper => exact toupper_exceeds
  | tolower => exact tolower_exceeds
  | _ => exact absurd member (by decide)

/-- What a function gives for texts within the limit is within it as well exactly if the function is
none of four. Of these, concatenation gives as many bytes as its arguments have together.
Replacement takes out the bytes of each occurrence and puts in those of the replacement. A text in
capitals has up to three times as many bytes, and one in small letters up to half as many more. -/
theorem size_of_call (function : Builtin) (text : Value) (arguments : List Value) :
    ((∀ arguments result, Within arguments → function.call arguments = .ok (.text result) →
        result.utf8ByteSize ≤ maxResultBytes) ↔
      function ∉ [strcat, replace, toupper, tolower]) ∧
    (∃ result, strcat.call arguments = .ok (.text result) ∧
      result.utf8ByteSize = (arguments.map fun value => value.toText.utf8ByteSize).sum) ∧
    (∀ wanted replacement, ∃ result count,
      replace.call (text :: wanted :: replacement :: arguments) = .ok (.text result) ∧
        count * wanted.toText.length ≤ text.toText.length ∧
        (wanted.toText = "" → count = text.toText.length + 1) ∧
        result.utf8ByteSize + count * wanted.toText.utf8ByteSize =
          text.toText.utf8ByteSize + count * replacement.toText.utf8ByteSize) ∧
    (∃ result, toupper.call (text :: arguments) = .ok (.text result) ∧
      result.utf8ByteSize ≤ 3 * text.toText.utf8ByteSize) ∧
    ∃ result, tolower.call (text :: arguments) = .ok (.text result) ∧
      2 * result.utf8ByteSize ≤ 3 * text.toText.utf8ByteSize := by
  refine ⟨⟨?_, ?_⟩, ⟨_, rfl, size_of_strcat arguments⟩, ?_, ⟨_, rfl, ?_⟩, ⟨_, rfl, ?_⟩⟩
  · intro limited member
    obtain ⟨arguments, result, within, called, exceeds⟩ := exceeds_of_mem member
    exact absurd (limited arguments result within called) (Nat.not_le_of_lt exceeds)
  · intro notGrowing arguments result within called
    exact within.call called notGrowing
  · intro wanted replacement
    obtain ⟨count, size⟩ := size_of_replace text.toText wanted.toText replacement.toText
    refine ⟨_, count, rfl, ?_⟩
    rwa [String.utf8ByteSize_ofList]
  · rw [String.utf8ByteSize_ofList, ← text.toText.utf8Len_toList]
    exact Text.utf8Len_toCapitals _
  · rw [String.utf8ByteSize_ofList, ← text.toText.utf8Len_toList]
    exact Text.utf8Len_toSmallsAfter [] _

/-- The limit does not hold of every function: one letter after a text that has as many bytes as a
result may have is one byte too many. -/
theorem not_call_within :
    ¬ ∀ (function : Builtin) (arguments : List Value) (result : String), Within arguments →
      function.call arguments = .ok (.text result) → result.utf8ByteSize ≤ maxResultBytes :=
  fun limited => absurd
    (limited strcat [repeated maxResultBytes 'a', repeated 1 'a'] _ strcat_exceeds.1 rfl)
    (Nat.not_le_of_lt strcat_exceeds.2)

end Builtin

end SlashScript
