/-
This file proves that the functions on texts mean the same by a position. What `substr` takes
from the start of a text and what it leaves are the two parts of the text, `strlen` counts what
`substr` cuts, and `strstr` names the first position from which `substr` would take what it was to
find.

Positions and lengths are integers of 64 bits, and a text that is stored somewhere has fewer bytes
than the greatest of them. The sums and comparisons by which a text is cut can then be carried out
in machine words: none of them leaves the words.
-/

import Mathlib.Data.String.Basic
import Mathlib.Data.UInt
import SlashScript.Builtin

namespace SlashScript

/-! ### The first occurrence of a text -/

namespace Builtin

variable {wanted text : List Char}

theorem indexOf?_here (here : wanted <+: text) : indexOf? wanted text = some 0 := by
  cases text with
  | nil => rw [List.prefix_nil.mp here]; rfl
  | cons char rest => rw [indexOf?, if_pos (List.isPrefixOf_iff_prefix.mpr here)]

theorem indexOf?_nil_elsewhere (elsewhere : ¬ wanted <+: []) : indexOf? wanted [] = none := by
  cases wanted with
  | nil => exact absurd List.nil_prefix elsewhere
  | cons char wanted => rfl

theorem indexOf?_cons_elsewhere {char : Char} {rest : List Char}
    (elsewhere : ¬ wanted <+: char :: rest) :
    indexOf? wanted (char :: rest) = (indexOf? wanted rest).map (· + 1) := by
  rw [indexOf?, if_neg (mt List.isPrefixOf_iff_prefix.mp elsewhere)]

theorem isFirst_of_here {index : Nat} (here : wanted <+: text)
    (found : indexOf? wanted text = some index) :
    wanted <+: text.drop index ∧ ∀ earlier < index, ¬ wanted <+: text.drop earlier := by
  rw [indexOf?_here here] at found
  cases found
  exact ⟨here, fun earlier isEarlier => absurd isEarlier (Nat.not_lt_zero earlier)⟩

/-- What is found is an occurrence, and there is none before it. -/
theorem indexOf?_isFirst {index : Nat} (found : indexOf? wanted text = some index) :
    wanted <+: text.drop index ∧ ∀ earlier < index, ¬ wanted <+: text.drop earlier := by
  induction text generalizing index with
  | nil =>
    by_cases here : wanted <+: []
    · exact isFirst_of_here here found
    · rw [indexOf?_nil_elsewhere here] at found
      cases found
  | cons char rest inductionHypothesis =>
    by_cases here : wanted <+: char :: rest
    · exact isFirst_of_here here found
    · rw [indexOf?_cons_elsewhere here, Option.map_eq_some_iff] at found
      obtain ⟨inRest, found, rfl⟩ := found
      obtain ⟨occurs, isFirst⟩ := inductionHypothesis found
      refine ⟨occurs, fun earlier isEarlier => ?_⟩
      cases earlier with
      | zero => exact here
      | succ earlier => exact isFirst earlier (Nat.lt_of_succ_lt_succ isEarlier)

/-- Nothing is found only where there is nothing to find. -/
theorem indexOf?_eq_none_iff : indexOf? wanted text = none ↔ ¬ wanted <:+: text := by
  induction text with
  | nil => cases wanted <;> simp [indexOf?]
  | cons char rest inductionHypothesis =>
    rw [List.infix_cons_iff, not_or, ← inductionHypothesis]
    by_cases here : wanted <+: char :: rest
    · simp [here, indexOf?_here]
    · simp [here, indexOf?_cons_elsewhere]

/-- An occurrence starts inside the text or at its end. -/
theorem indexOf?_le_length {index : Nat} (found : indexOf? wanted text = some index) :
    index ≤ text.length := by
  obtain ⟨occurs, isFirst⟩ := indexOf?_isFirst found
  by_contra isLonger
  rw [List.drop_eq_nil_of_le (by omega), List.prefix_nil] at occurs
  exact isFirst 0 (by omega) (occurs ▸ List.nil_prefix)

end Builtin

/-! ### Cutting in machine words -/

namespace Text

open Builtin (strlen strcat substr strstr toPosition slice ofChars indexOf? indexOf?_isFirst
  indexOf?_eq_none_iff indexOf?_le_length)

/-- A text has no more characters than bytes. -/
theorem length_le_utf8ByteSize (text : String) : text.length ≤ text.utf8ByteSize := by
  have counted (chars : List Char) : chars.length ≤ String.utf8Len chars := by
    induction chars with
    | nil => exact Nat.le_refl 0
    | cons char rest inductionHypothesis =>
      rw [List.length_cons, String.utf8Len_cons]
      exact Nat.add_le_add inductionHypothesis char.utf8Size_pos
  rw [← text.utf8Len_toList, ← text.length_toList]
  exact counted text.toList

theorem toInt_min (left right : Int64) : (min left right).toInt = min left.toInt right.toInt := by
  by_cases isLess : left ≤ right
  · rw [show min left right = left from if_pos isLess,
      Int.min_eq_left (Int64.le_iff_toInt_le.mp isLess)]
  · rw [show min left right = right from if_neg isLess]
    rw [Int64.le_iff_toInt_le] at isLess
    omega

theorem toInt_max (left right : Int64) : (max left right).toInt = max left.toInt right.toInt := by
  by_cases isLess : left ≤ right
  · rw [show max left right = right from if_pos isLess,
      Int.max_eq_right (Int64.le_iff_toInt_le.mp isLess)]
  · rw [show max left right = left from if_neg isLess]
    rw [Int64.le_iff_toInt_le] at isLess
    omega

/-- An integer as an unsigned word, negative ones as zero. -/
def clampWord (number : Int64) : UInt64 :=
  (max number 0).toUInt64

/-- The sum of two words, if it is a word. -/
def addWords? (left right : UInt64) : Option UInt64 :=
  if left.toNat + right.toNat < UInt64.size then some (left + right) else none

/-- The part of a text between two positions, if they are in order inside the text. -/
def between? (text : List Char) (start stop : UInt64) : Option (List Char) :=
  if start ≤ stop ∧ stop.toNat ≤ text.length then
    some ((text.take stop.toNat).drop start.toNat)
  else none

/-- The end of a part that starts at a position of a text with so many characters. -/
def stopWord? (count start : UInt64) (length : Option Int64) : Option UInt64 :=
  match length with
  | none => some count
  | some length => (addWords? start (clampWord length)).map (min · count)

/-- The part of a text from a position on, of a length if one is given, by way of the positions of
its ends in machine words. There is none if a sum leaves the words or the ends are not in order
inside the text. -/
def sliceInWords? (text : List Char) (position : Int64) (length : Option Int64) :
    Option (List Char) :=
  let count := UInt64.ofNat text.length
  let start := min (clampWord position) count
  (stopWord? count start length).bind (between? text start)

theorem toNat_clampWord (number : Int64) : (clampWord number).toNat = toPosition number := by
  have clamped : (max number 0).toInt = max number.toInt 0 := toInt_max number 0
  have notNegative : 0 ≤ max number 0 := by
    rw [Int64.le_iff_toInt_le, clamped]
    exact Int.le_max_right _ _
  rw [clampWord, Int64.toNat_toUInt64_of_le notNegative]
  show (max number 0).toInt.toNat = number.toInt.toNat
  rw [clamped]
  omega

theorem toNat_clampWord_lt (number : Int64) : (clampWord number).toNat < 2 ^ 63 := by
  rw [toNat_clampWord]
  exact number.toNatClampNeg_lt

theorem addWords?_eq {left right : UInt64} (isWord : left.toNat + right.toNat < 2 ^ 64) :
    addWords? left right = some (left + right) ∧
      (left + right).toNat = left.toNat + right.toNat :=
  ⟨if_pos isWord, by rw [UInt64.toNat_add, Nat.mod_eq_of_lt isWord]⟩

theorem between?_eq {text : List Char} {start stop : UInt64} (inOrder : start.toNat ≤ stop.toNat)
    (inside : stop.toNat ≤ text.length) :
    between? text start stop = some ((text.take stop.toNat).drop start.toNat) :=
  if_pos ⟨UInt64.le_iff_toNat_le.mpr inOrder, inside⟩

theorem drop_min_length {Item : Type} (position : Nat) (items : List Item) :
    items.drop (min position items.length) = items.drop position := by
  rcases Nat.le_total position items.length with inside | beyond
  · rw [Nat.min_eq_left inside]
  · rw [Nat.min_eq_right beyond, List.drop_length, List.drop_eq_nil_of_le beyond]

/-- In a text that is stored somewhere the ends of a part are computed without leaving the
words. -/
theorem sliceInWords?_eq {text : List Char} (fits : text.length < 2 ^ 63) (position : Int64)
    (length : Option Int64) :
    sliceInWords? text position length =
      some (slice text (toPosition position) (length.map toPosition)) := by
  have count : (UInt64.ofNat text.length).toNat = text.length :=
    UInt64.toNat_ofNat_of_lt' (Nat.lt_trans fits (by decide))
  have start : (min (clampWord position) (UInt64.ofNat text.length)).toNat =
      min (toPosition position) text.length := by
    rw [UInt64.toNat_min, toNat_clampWord, count]
  show (stopWord? _ _ length).bind (between? text _) = _
  generalize min (clampWord position) (UInt64.ofNat text.length) = startWord at start ⊢
  have startInside : startWord.toNat ≤ text.length := start ▸ Nat.min_le_right _ _
  cases length with
  | none =>
    show between? text startWord (.ofNat text.length) = some (text.drop _)
    rw [between?_eq (count.symm ▸ startInside) count.le, count, List.take_length, start,
      drop_min_length]
  | some length =>
    have lengthBound := toNat_clampWord_lt length
    have sumFits : startWord.toNat + (clampWord length).toNat < 2 ^ 64 := by omega
    obtain ⟨added, sum⟩ := addWords?_eq sumFits
    have stop : (min (startWord + clampWord length) (.ofNat text.length)).toNat =
        min (startWord.toNat + toPosition length) text.length := by
      rw [UInt64.toNat_min, sum, toNat_clampWord, count]
    show (stopWord? _ _ _).bind _ = some ((text.drop _).take _)
    rw [stopWord?, added, Option.map_some, Option.bind_some, between?_eq (by omega) (by omega),
      stop, List.drop_take, start, drop_min_length, Option.some_inj, List.take_eq_take_iff,
      List.length_drop]
    omega

/-! ### Positions -/

theorem toPosition_ofNat {number : Nat} (fits : number < 2 ^ 63) :
    toPosition (Int64.ofNat number) = number := by
  rw [toPosition, Int64.toInt_ofNat_of_lt fits, Int.toNat_natCast]

theorem ofChars_eq_text_iff {chars : List Char} {text : String} :
    ofChars chars = .text text ↔ chars = text.toList := by
  rw [ofChars, Value.text.injEq, ← String.toList_inj, String.toList_ofList]

/-- The two parts into which a position cuts a text are together the text. -/
theorem strcat_substr (text : String) (position : Int64) :
    (do strcat.call [← substr.call [.text text, .integer 0, .integer position],
          ← substr.call [.text text, .integer position]]) = .ok (.text text) := by
  show Except.ok (Value.text (String.join [String.ofList (text.toList.take (toPosition position)),
    String.ofList (text.toList.drop (toPosition position))])) = _
  rw [String.join_cons, String.join_cons, String.join_nil, String.append_empty,
    ← String.ofList_append, List.take_append_drop, String.ofList_toList]

theorem strlen_substr (text : String) (position : Int64) :
    (do strlen.call [← substr.call [.text text, .integer 0, .integer position]]) =
      .ok (.ofNat (min (toPosition position) text.length)) := by
  show Except.ok (Value.ofNat (String.ofList (text.toList.take (toPosition position))).length) = _
  rw [String.length_ofList, List.length_take, String.length_toList]

/-- A part of a text is another text if that one stands there. -/
theorem substr_eq_iff {text wanted : String} (wantedFits : wanted.length < 2 ^ 63)
    (position : Int64) :
    substr.call [.text text, .integer position, .ofNat wanted.length] = .ok (.text wanted) ↔
      wanted.toList <+: text.toList.drop (toPosition position) := by
  show Except.ok (ofChars ((text.toList.drop (toPosition position)).take
    (toPosition (Int64.ofNat wanted.length)))) = _ ↔ _
  rw [Except.ok.injEq, ofChars_eq_text_iff, toPosition_ofNat wantedFits,
    List.prefix_iff_eq_take, String.length_toList, eq_comm]

/-- A position moved into a text, as an integer. -/
theorem ofNat_min_toPosition {count : Nat} (fits : count < 2 ^ 63) (position : Int64) :
    Int64.ofNat (min (toPosition position) count) = min (max position 0) (Int64.ofNat count) := by
  rw [← Int64.toInt_inj, toInt_min, toInt_max, Int64.toInt_ofNat_of_lt fits,
    Int64.toInt_ofNat_of_lt (Nat.lt_of_le_of_lt (Nat.min_le_right _ _) fits), toPosition]
  show _ = min (max position.toInt 0) (count : Int)
  omega

theorem strstr_call (text wanted : String) :
    strstr.call [.text text, .text wanted] =
      .ok (((indexOf? wanted.toList text.toList).map Value.ofNat).getD (.integer (-1))) := by
  have first : strstr.textArgument [.text text, .text wanted] 0 = .ok text := rfl
  have second : strstr.textArgument [.text text, .text wanted] 1 = .ok wanted := rfl
  rw [Builtin.call, first, second]
  cases found : indexOf? wanted.toList text.toList
  all_goals
    simp only [bind, Except.bind, found]
    rfl

/-- What `strstr` gives is at least minus one, and minus one only if there is no occurrence. Any
other number is the position of an occurrence, and no occurrence has a smaller position. -/
theorem strstr_isFirst {text wanted : String} (fits : text.length < 2 ^ 63)
    (wantedFits : wanted.length < 2 ^ 63) : ∃ index : Int64,
    strstr.call [.text text, .text wanted] = .ok (.integer index) ∧ -1 ≤ index ∧
      (index = -1 ↔ ¬ wanted.toList <:+: text.toList) ∧
      (0 ≤ index →
        substr.call [.text text, .integer index, .ofNat wanted.length] = .ok (.text wanted) ∧
        ∀ earlier : Int64, 0 ≤ earlier → earlier < index →
          substr.call [.text text, .integer earlier, .ofNat wanted.length] ≠
            .ok (.text wanted)) := by
  have called := strstr_call text wanted
  cases found : indexOf? wanted.toList text.toList with
  | none =>
    rw [found] at called
    exact ⟨-1, called, by decide, iff_of_true rfl (indexOf?_eq_none_iff.mp found),
      fun isPosition => absurd isPosition (by decide)⟩
  | some index =>
    rw [found] at called
    obtain ⟨occurs, isFirst⟩ := indexOf?_isFirst found
    have inside := indexOf?_le_length found
    have isNumber : (Int64.ofNat index).toInt = index :=
      Int64.toInt_ofNat_of_lt (by rw [String.length_toList] at inside; omega)
    have isInside : wanted.toList <:+: text.toList :=
      occurs.isInfix.trans (List.drop_suffix _ _).isInfix
    refine ⟨.ofNat index, called, ?_, iff_of_false ?_ (not_not_intro isInside),
      fun isPosition => ⟨?_, fun earlier notNegative isEarlier => ?_⟩⟩
    · rw [Int64.le_iff_toInt_le, isNumber]
      show (-1 : Int) ≤ index
      omega
    · intro isMinusOne
      rw [isMinusOne] at isNumber
      exact absurd isNumber (by show (-1 : Int) ≠ index; omega)
    · rw [substr_eq_iff wantedFits, toPosition, isNumber]
      exact occurs
    · rw [ne_eq, substr_eq_iff wantedFits]
      rw [Int64.le_iff_toInt_le] at notNegative
      rw [Int64.lt_iff_toInt_lt, isNumber] at isEarlier
      exact isFirst _ ((Int.toNat_lt notNegative).mpr isEarlier)

/-- The functions on texts mean the same by a position, for texts that are stored somewhere. The
parts into which any integer cuts a text are together the text, the first of them has as many
characters as the integer says, within the bounds of the text, and what `strstr` finds is what
`substr` takes from there, and from nowhere before. The ends of a part are computed in machine
words without leaving them. -/
theorem positions_agree (text wanted : String) (position : Int64)
    (fits : text.utf8ByteSize < 2 ^ 63) (wantedFits : wanted.utf8ByteSize < 2 ^ 63) :
    (do strcat.call [← substr.call [.text text, .integer 0, .integer position],
          ← substr.call [.text text, .integer position]]) = .ok (.text text) ∧
      (∃ count cut : Int64, strlen.call [.text text] = .ok (.integer count) ∧
        count.toInt = text.length ∧
        (do strlen.call [← substr.call [.text text, .integer 0, .integer position]]) =
          .ok (.integer cut) ∧
        cut = min (max position 0) count) ∧
      (∃ index size : Int64, strstr.call [.text text, .text wanted] = .ok (.integer index) ∧
        strlen.call [.text wanted] = .ok (.integer size) ∧ -1 ≤ index ∧
        (index = -1 ↔ ¬ wanted.toList <:+: text.toList) ∧
        (0 ≤ index →
          substr.call [.text text, .integer index, .integer size] = .ok (.text wanted) ∧
          ∀ earlier : Int64, 0 ≤ earlier → earlier < index →
            substr.call [.text text, .integer earlier, .integer size] ≠ .ok (.text wanted))) ∧
      ∀ length : Option Int64, sliceInWords? text.toList position length =
        some (slice text.toList (toPosition position) (length.map toPosition)) := by
  have count : text.length < 2 ^ 63 := Nat.lt_of_le_of_lt (length_le_utf8ByteSize text) fits
  have size : wanted.length < 2 ^ 63 :=
    Nat.lt_of_le_of_lt (length_le_utf8ByteSize wanted) wantedFits
  obtain ⟨index, found, atLeast, missing, isFirst⟩ := strstr_isFirst count size
  refine ⟨strcat_substr text position, ⟨.ofNat text.length, _, rfl, ?_, strlen_substr text position,
    ?_⟩, ⟨index, .ofNat wanted.length, found, rfl, atLeast, missing, isFirst⟩, fun length => ?_⟩
  · exact Int64.toInt_ofNat_of_lt count
  · exact ofNat_min_toPosition count position
  · exact sliceInWords?_eq (text.length_toList ▸ count) position length

/-- A text with a character of two bytes, cut behind its end and searched. -/
theorem positions_agree_accented :
    (do strlen.call [← substr.call [.text "héllo", .integer 0, .integer Int64.maxValue]]) =
        .ok (.integer 5) ∧
      substr.call [.text "héllo", .integer 2, .integer 3] = .ok (.text "llo") ∧
      sliceInWords? "héllo".toList Int64.maxValue (some Int64.maxValue) = some [] := by
  obtain ⟨-, -, ⟨index, size, found, sized, -, -, isFirst⟩, cut⟩ :=
    positions_agree "héllo" "llo" Int64.maxValue (by decide) (by decide)
  cases found
  cases sized
  exact ⟨rfl, (isFirst (by decide)).1, cut (some Int64.maxValue)⟩

end Text

end SlashScript
