/-
Blanks and trimming. A blank is any character with the White_Space property: the ASCII spaces
and controls from tab to carriage return, the next-line control and the wider spaces of other
scripts. Trimming removes blanks at the ends of a text and nothing else.
-/

namespace SlashScript.Text

/-- The characters with the White_Space property. -/
def isBlank (char : Char) : Bool :=
  let code := char.toNat
  (0x09 ≤ code && code ≤ 0x0D) || code == 0x20 || code == 0x85 || code == 0xA0 ||
    code == 0x1680 || (0x2000 ≤ code && code ≤ 0x200A) || code == 0x2028 || code == 0x2029 ||
    code == 0x202F || code == 0x205F || code == 0x3000

/-- The text without its leading blanks. -/
def trimStart (chars : List Char) : List Char :=
  chars.dropWhile isBlank

/-- The text without its trailing blanks. -/
def trimEnd (chars : List Char) : List Char :=
  (chars.reverse.dropWhile isBlank).reverse

/-- The text without the blanks at its ends. -/
def trim (chars : List Char) : List Char :=
  trimEnd (trimStart chars)

theorem length_dropWhile_le (test : Char → Bool) (chars : List Char) :
    (chars.dropWhile test).length ≤ chars.length :=
  (List.dropWhile_suffix test).length_le

theorem trimStart_append_of_blank (blanks rest : List Char)
    (allBlank : ∀ char ∈ blanks, isBlank char = true) :
    trimStart (blanks ++ rest) = trimStart rest := by
  induction blanks with
  | nil => rfl
  | cons char blanks inductionHypothesis =>
    have charBlank : isBlank char = true := allBlank char List.mem_cons_self
    simp only [trimStart, List.cons_append, List.dropWhile_cons, charBlank, if_true]
    exact inductionHypothesis fun other member => allBlank other (List.mem_cons_of_mem _ member)

theorem trimStart_of_not_blank (char : Char) (rest : List Char) (notBlank : isBlank char = false) :
    trimStart (char :: rest) = char :: rest := by
  simp [trimStart, notBlank]

end SlashScript.Text
