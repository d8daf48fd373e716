/-
Text with substitutions. A template is read once, from left to right: a percent sign may start a
variable, an argument or one of the marks for all arguments and for their number, a dollar sign
may start an expression in brackets, and either sign written twice stands for itself. A sign that
starts nothing stands for itself too. The pieces are read one by one, and runs of plain
characters are then gathered into one part each.
-/

import SlashScript.Expression.Parser

namespace SlashScript

/-- A part of a template. -/
inductive TemplatePart where
  | literal (text : String)
  /-- The text of a variable, or the default where that text is empty. -/
  | named (name : String) (default : Option String)
  /-- The text of one argument, counted from one. -/
  | argument (index : Nat)
  | allArguments
  | argumentCount
  | expression (expression : Expression)

/-- Text with substitutions, as its parts in order. -/
structure Template where
  parts : List TemplatePart

/-- The reasons for which a text is refused as a template. -/
inductive TemplateError where
  | unclosedBrace
  | unclosedBracket
  | emptyName
  | indexOutOfRange (digits : String)
  | expression (source : String) (reason : SyntaxError)

namespace TemplateError

/-- The text of a refusal. -/
def message : TemplateError → String
  | unclosedBrace => "unclosed '%\x7b'"
  | unclosedBracket => "unclosed '$['"
  | emptyName => "empty variable name in '%\x7b\x7d'"
  | indexOutOfRange digits => s!"argument index %{digits} out of range"
  | expression source reason => "in $[" ++ source ++ "]: " ++ reason.message

end TemplateError

namespace TemplatePart

/-- Equality of parts. -/
def same : TemplatePart → TemplatePart → Bool
  | literal left, literal right => left == right
  | named name default, named name' default' => name == name' && default == default'
  | argument left, argument right => left == right
  | allArguments, allArguments => true
  | argumentCount, argumentCount => true
  | expression left, expression right => left.same right
  | _, _ => false

end TemplatePart

namespace Template

/-- The empty text. -/
def empty : Template := ⟨[]⟩

/-- Text without substitutions. -/
def literal (text : String) : Template :=
  if text.isEmpty then empty else ⟨[.literal text]⟩

/-- A template without parts stands for the empty text. -/
def isEmpty (template : Template) : Bool :=
  template.parts.isEmpty

/-- Equality of templates. -/
def same (left right : Template) : Bool :=
  left.parts.length == right.parts.length &&
    (left.parts.zip right.parts).all fun (part, part') => part.same part'

/-! ### Pieces -/

/-- What is read in one step: a plain character or a substitution. -/
inductive Piece where
  | char (char : Char)
  | part (part : TemplatePart)

/-- The text up to the mark that closes an opening mark already read, pairs of marks inside it
included, and the text after it. -/
def untilClosed (openMark closeMark : Char) (depth : Nat) :
    List Char → Option (List Char × List Char)
  | [] => none
  | char :: rest =>
    if char = closeMark && depth = 0 then some ([], rest)
    else
      let depth' :=
        if char = closeMark then depth - 1 else if char = openMark then depth + 1 else depth
      (untilClosed openMark closeMark depth' rest).map fun (inside, after) =>
        (char :: inside, after)

/-- The variable that stands between braces: a name and, after the first minus sign, a default. -/
def bracedPart (inside : List Char) : Except TemplateError TemplatePart :=
  let name := inside.takeWhile (· != '-')
  if name.isEmpty then .error .emptyName
  else
    match inside.dropWhile (· != '-') with
    | [] => .ok (.named (String.ofList name) none)
    | _ :: default => .ok (.named (String.ofList name) (some (String.ofList default)))

/-- The greatest index that an argument may have. -/
def greatestIndex : Nat := Nat.pow 2 64 - 1

/-- The argument with a written index. -/
def argumentPart (digits : List Char) : Except TemplateError TemplatePart :=
  let index := Decimal.valueOfDigits digits
  if index ≤ greatestIndex then .ok (.argument index)
  else .error (.indexOutOfRange (String.ofList digits))

/-- The expression that stands between brackets. -/
def expressionPart (inside : List Char) : Except TemplateError TemplatePart :=
  match Expression.parse inside with
  | .ok expression => .ok (.expression expression)
  | .error reason => .error (.expression (String.ofList inside) reason)

/-- The piece that starts with a percent sign, which is already read. -/
def readPercent : List Char → Except TemplateError (Piece × List Char)
  | [] => .ok (.char '%', [])
  | mark :: rest =>
    if mark = '%' then .ok (.char '%', rest)
    else if mark = '*' then .ok (.part .allArguments, rest)
    else if mark = '#' then .ok (.part .argumentCount, rest)
    else if mark = '\x7b' then
      match untilClosed '\x7b' '\x7d' 0 rest with
      | none => .error .unclosedBrace
      | some (inside, after) => (bracedPart inside).map fun part => (.part part, after)
    else if mark.isDigit && mark != '0' then
      (argumentPart (mark :: rest.takeWhile Char.isDigit)).map fun part =>
        (.part part, rest.dropWhile Char.isDigit)
    else if Token.startsName mark then
      let name := String.ofList (mark :: rest.takeWhile Token.continuesName)
      .ok (.part (.named name none), rest.dropWhile Token.continuesName)
    else .ok (.char '%', mark :: rest)

/-- The piece that starts with a dollar sign, which is already read. -/
def readDollar : List Char → Except TemplateError (Piece × List Char)
  | [] => .ok (.char '$', [])
  | mark :: rest =>
    if mark = '$' then .ok (.char '$', rest)
    else if mark = '[' then
      match untilClosed '[' ']' 0 rest with
      | none => .error .unclosedBracket
      | some (inside, after) => (expressionPart inside).map fun part => (.part part, after)
    else .ok (.char '$', mark :: rest)

/-- The piece that starts with a given character, and the text after it. -/
def readPiece (first : Char) (rest : List Char) : Except TemplateError (Piece × List Char) :=
  if first = '%' then readPercent rest
  else if first = '$' then readDollar rest
  else .ok (.char first, rest)

/-! ### Reading takes characters away -/

theorem untilClosed_length (openMark closeMark : Char) (depth : Nat)
    (chars inside after : List Char)
    (result : untilClosed openMark closeMark depth chars = some (inside, after)) :
    after.length < chars.length := by
  induction chars generalizing depth inside with
  | nil => simp [untilClosed] at result
  | cons char rest inductionHypothesis =>
    rw [untilClosed] at result
    simp only [List.length_cons]
    split at result
    · simp only [Option.some.injEq, Prod.mk.injEq] at result
      rw [← result.2]
      omega
    · simp only [Option.map_eq_some_iff] at result
      obtain ⟨pair, found, equal⟩ := result
      have := inductionHypothesis _ _ (found.trans (by rw [← (Prod.mk.inj equal).2]))
      omega

theorem rest_eq_of_map_ok {Error Result Value : Type} {inner : Except Error Value}
    {make : Value → Result} {rest after : List Char} {result : Result}
    (isOk : (inner.map fun value => (make value, rest)) = .ok (result, after)) : rest = after := by
  cases inner with
  | error => simp [Except.map] at isOk
  | ok => simpa [Except.map] using (congrArg (Except.map Prod.snd) isOk)

theorem rest_eq_of_ok {Error Result : Type} {rest after : List Char} {made result : Result}
    (isOk : (Except.ok (made, rest) : Except Error (Result × List Char)) = .ok (result, after)) :
    rest = after :=
  (Prod.mk.inj (Except.ok.inj isOk)).2

theorem readPercent_length (chars : List Char) (piece : Piece) (after : List Char)
    (result : readPercent chars = .ok (piece, after)) : after.length ≤ chars.length := by
  unfold readPercent at result
  split at result
  · exact rest_eq_of_ok result ▸ Nat.le_refl _
  · rename_i mark rest
    have digitsLength := Text.length_dropWhile_le Char.isDigit rest
    have nameLength := Text.length_dropWhile_le Token.continuesName rest
    have isLonger : rest.length ≤ (mark :: rest).length := by simp
    split at result
    · exact rest_eq_of_ok result ▸ isLonger
    split at result
    · exact rest_eq_of_ok result ▸ isLonger
    split at result
    · exact rest_eq_of_ok result ▸ isLonger
    split at result
    · split at result
      · simp at result
      · rename_i inside closed found
        have closedLength := untilClosed_length _ _ _ _ _ _ found
        exact rest_eq_of_map_ok result ▸ Nat.le_trans (Nat.le_of_lt closedLength) isLonger
    split at result
    · exact rest_eq_of_map_ok result ▸ Nat.le_trans digitsLength isLonger
    split at result
    · exact rest_eq_of_ok result ▸ Nat.le_trans nameLength isLonger
    · exact rest_eq_of_ok result ▸ Nat.le_refl _

theorem readDollar_length (chars : List Char) (piece : Piece) (after : List Char)
    (result : readDollar chars = .ok (piece, after)) : after.length ≤ chars.length := by
  unfold readDollar at result
  split at result
  · exact rest_eq_of_ok result ▸ Nat.le_refl _
  · rename_i mark rest
    have isLonger : rest.length ≤ (mark :: rest).length := by simp
    split at result
    · exact rest_eq_of_ok result ▸ isLonger
    split at result
    · split at result
      · simp at result
      · rename_i inside closed found
        have closedLength := untilClosed_length _ _ _ _ _ _ found
        exact rest_eq_of_map_ok result ▸ Nat.le_trans (Nat.le_of_lt closedLength) isLonger
    · exact rest_eq_of_ok result ▸ Nat.le_refl _

theorem readPiece_length (first : Char) (rest : List Char) (piece : Piece) (after : List Char)
    (result : readPiece first rest = .ok (piece, after)) : after.length ≤ rest.length := by
  unfold readPiece at result
  split at result
  · exact readPercent_length rest piece after result
  · split at result
    · exact readDollar_length rest piece after result
    · exact rest_eq_of_ok result ▸ Nat.le_refl _

/-- The pieces of a text. -/
def pieces : List Char → Except TemplateError (List Piece)
  | [] => .ok []
  | first :: rest =>
    match _step : readPiece first rest with
    | .error reason => .error reason
    | .ok (piece, after) => (pieces after).map (piece :: ·)
termination_by chars => chars.length
decreasing_by
  have shorter := readPiece_length first rest piece after _step
  simp only [List.length_cons]
  omega

/-! ### Gathering -/

/-- The parts of a list of pieces, when the plain characters before it are given last first. -/
def gather (reversed : List Char) : List Piece → List TemplatePart
  | [] => if reversed.isEmpty then [] else [.literal (String.ofList reversed.reverse)]
  | .char char :: pieces => gather (char :: reversed) pieces
  | .part part :: pieces =>
    if reversed.isEmpty then part :: gather [] pieces
    else .literal (String.ofList reversed.reverse) :: part :: gather [] pieces

/-- The template that a text stands for. -/
def compile (source : List Char) : Except TemplateError Template :=
  (pieces source).map fun pieces => ⟨gather [] pieces⟩

end Template

end SlashScript
