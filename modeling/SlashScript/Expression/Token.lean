/-
The tokens of expressions. Blanks separate tokens and are otherwise skipped; a token is as long
as it can be. Numbers are decimal integers, decimal fractions with digits on both sides of the
point, or hexadecimal integers; text stands between two equal quotation marks and may hold
escapes; names start with a letter or a low line. A character that starts no token is a token of
its own, so that a complaint about it comes only where the grammar meets it.
-/

import SlashScript.Decimal.Reading
import SlashScript.Decimal.Shortest
import SlashScript.Expression.Basic
import SlashScript.Text.Quoted

namespace SlashScript

/-- A token of an expression. -/
inductive Token where
  | integer (number : Int64)
  | real (number : Float)
  | text (content : String)
  | name (identifier : String)
  /-- An operator between two operands; the minus sign may also stand before one. -/
  | operator (symbol : BinaryOperator)
  | bang
  | assignment (symbol : Assignment)
  | question
  | colon
  | comma
  | openParen
  | closeParen
  | unknown (char : Char)

/-- The reasons for which an expression is refused. -/
inductive SyntaxError where
  | badHexLiteral (digits : String)
  | integerOutOfRange (digits : String)
  | unterminatedText
  | nestedTooDeeply
  | missingColon
  | unclosedArguments (name : String)
  | unclosedParen
  | unexpectedChar (char : Char)
  | unexpectedEnd
  | unexpectedToken (token : Token)
  | trailingToken (token : Token)

namespace Token

/-! ### Reading tokens -/

/-- The characters that may start a name. -/
def startsName (char : Char) : Bool :=
  Text.isLetter char || char == '_'

/-- The characters that may follow in a name. -/
def continuesName (char : Char) : Bool :=
  Text.isLetterOrNumber char || char == '_'

/-- The value of a hexadecimal digit. -/
def hexDigit (char : Char) : Nat :=
  if char.isDigit then char.toNat - '0'.toNat else char.toLower.toNat - 'a'.toNat + 10

/-- The digits of base sixteen. -/
def isHexDigit (char : Char) : Bool :=
  char.isDigit || ('a' ≤ char.toLower && char.toLower ≤ 'f')

/-- A number as it is written. -/
inductive Numeral where
  | hex (digits : List Char)
  | decimal (whole : List Char) (places : Option (List Char))

/-- The token of a number, if the number is in range. -/
def Numeral.token : Numeral → Except SyntaxError Token
  | .hex digits =>
    let number : Nat := digits.foldl (fun number digit => 16 * number + hexDigit digit) 0
    match if digits.isEmpty then none else Decimal.int64OfInt? number with
    | some number => .ok (.integer number)
    | none => .error (.badHexLiteral (String.ofList digits))
  | .decimal whole (some places) =>
    .ok (.real (Decimal.nearestFloat (Decimal.valueOfDigits (whole ++ places)) (-places.length)))
  | .decimal whole none =>
    match Decimal.readInt64? whole with
    | some number => .ok (.integer number)
    | none => .error (.integerOutOfRange (String.ofList whole))

/-- A decimal number, from its first digit on, and the text after it. A point belongs to the
number only if a digit follows. -/
def cutDecimal (first : Char) (rest : List Char) : Numeral × List Char :=
  let whole := first :: rest.takeWhile Char.isDigit
  match rest.dropWhile Char.isDigit with
  | '.' :: digit :: after =>
    if digit.isDigit then
      (.decimal whole (some (digit :: after.takeWhile Char.isDigit)),
        after.dropWhile Char.isDigit)
    else (.decimal whole none, '.' :: digit :: after)
  | after => (.decimal whole none, after)

/-- A number, from its first digit on, and the text after it. -/
def cutNumeral (first : Char) : List Char → Numeral × List Char
  | [] => cutDecimal first []
  | mark :: digits =>
    if first = '0' && (mark = 'x' || mark = 'X') then
      (.hex (digits.takeWhile isHexDigit), digits.dropWhile isHexDigit)
    else cutDecimal first (mark :: digits)

/-- The character that an escape in a quoted text stands for. -/
def unescape (char : Char) : Char :=
  if char = 'n' then '\n' else if char = 't' then '\t' else char

/-- A text up to its closing quotation mark, from the character after the opening one on. -/
def readQuoted (mark : Char) : List Char → Except SyntaxError (List Char × List Char)
  | [] => .error .unterminatedText
  | '\\' :: [] => .error .unterminatedText
  | '\\' :: escaped :: rest =>
    (readQuoted mark rest).map fun (content, after) => (unescape escaped :: content, after)
  | char :: rest =>
    if char = mark then .ok ([], rest)
    else (readQuoted mark rest).map fun (content, after) => (char :: content, after)

/-- The token that starts with a character which is neither a digit, nor a quotation mark, nor
the start of a name: the longest operator or mark that the text has at this place. -/
def readSymbol : Char → List Char → Token × List Char
  | '+', '=' :: rest => (.assignment .add, rest)
  | '+', rest => (.operator .add, rest)
  | '-', '=' :: rest => (.assignment .sub, rest)
  | '-', rest => (.operator .sub, rest)
  | '*', '=' :: rest => (.assignment .mul, rest)
  | '*', rest => (.operator .mul, rest)
  | '/', '=' :: rest => (.assignment .div, rest)
  | '/', rest => (.operator .div, rest)
  | '%', rest => (.operator .rem, rest)
  | '!', '=' :: rest => (.operator .ne, rest)
  | '!', '~' :: rest => (.operator .notGlob, rest)
  | '!', '/' :: rest => (.operator .notRegex, rest)
  | '!', rest => (.bang, rest)
  | '&', '&' :: rest => (.operator .and, rest)
  | '|', '|' :: rest => (.operator .or, rest)
  | '<', '=' :: rest => (.operator .le, rest)
  | '<', rest => (.operator .lt, rest)
  | '>', '=' :: rest => (.operator .ge, rest)
  | '>', rest => (.operator .gt, rest)
  | '=', '=' :: rest => (.operator .eq, rest)
  | '=', '~' :: rest => (.operator .glob, rest)
  | '=', '/' :: rest => (.operator .regex, rest)
  | '=', rest => (.assignment .set, rest)
  | '?', rest => (.question, rest)
  | ':', rest => (.colon, rest)
  | ',', rest => (.comma, rest)
  | '(', rest => (.openParen, rest)
  | ')', rest => (.closeParen, rest)
  | char, rest => (.unknown char, rest)

/-- The token that starts with a given character, and the text after it. -/
def read (first : Char) (rest : List Char) : Except SyntaxError (Token × List Char) :=
  if first.isDigit then
    let (numeral, after) := cutNumeral first rest
    numeral.token.map fun token => (token, after)
  else if first = '"' || first = '\'' then
    (readQuoted first rest).map fun (content, after) => (.text (String.ofList content), after)
  else if startsName first then
    .ok (.name (String.ofList (first :: rest.takeWhile continuesName)),
      rest.dropWhile continuesName)
  else .ok (readSymbol first rest)

/-! ### Reading takes characters away -/

theorem readQuoted_length (mark : Char) (chars content after : List Char)
    (result : readQuoted mark chars = .ok (content, after)) : after.length ≤ chars.length := by
  fun_induction readQuoted mark chars generalizing content after with
  | case1 => simp at result
  | case2 => simp at result
  | case3 escaped rest inductionHypothesis =>
    cases inner : readQuoted mark rest with
    | error => simp [inner, Except.map] at result
    | ok pair =>
      simp only [inner, Except.map, Except.ok.injEq, Prod.mk.injEq] at result
      obtain ⟨_, rfl⟩ := result
      have := inductionHypothesis pair.1 pair.2 inner
      simp only [List.length_cons]
      omega
  | case4 rest =>
    simp only [Except.ok.injEq, Prod.mk.injEq] at result
    obtain ⟨_, rfl⟩ := result
    simp
  | case5 char rest _ _ _ inductionHypothesis =>
    cases inner : readQuoted mark rest with
    | error => simp [inner, Except.map] at result
    | ok pair =>
      simp only [inner, Except.map, Except.ok.injEq, Prod.mk.injEq] at result
      obtain ⟨_, rfl⟩ := result
      have := inductionHypothesis pair.1 pair.2 inner
      simp only [List.length_cons]
      omega

theorem readSymbol_length (first : Char) (rest : List Char) :
    (readSymbol first rest).2.length ≤ rest.length := by
  unfold readSymbol
  split <;> simp

theorem cutDecimal_length (first : Char) (rest : List Char) :
    (cutDecimal first rest).2.length ≤ rest.length := by
  have wholeLength := Text.length_dropWhile_le Char.isDigit rest
  unfold cutDecimal
  split
  · rename_i digit after dropped
    rw [dropped] at wholeLength
    simp only [List.length_cons] at wholeLength
    have placesLength := Text.length_dropWhile_le Char.isDigit after
    split
    · simp only
      omega
    · simp only [List.length_cons]
      omega
  · exact wholeLength

theorem cutNumeral_length (first : Char) (rest : List Char) :
    (cutNumeral first rest).2.length ≤ rest.length := by
  unfold cutNumeral
  split
  · exact cutDecimal_length first []
  · rename_i mark digits
    have digitsLength := Text.length_dropWhile_le isHexDigit digits
    split
    · simp only [List.length_cons]
      omega
    · exact cutDecimal_length first (mark :: digits)

theorem read_length (first : Char) (rest : List Char) (token : Token) (after : List Char)
    (result : read first rest = .ok (token, after)) : after.length ≤ rest.length := by
  unfold read at result
  split at result
  · cases inner : (cutNumeral first rest).1.token with
    | error => simp [inner, Except.map] at result
    | ok =>
      simp only [inner, Except.map, Except.ok.injEq, Prod.mk.injEq] at result
      rw [← result.2]
      exact cutNumeral_length first rest
  · split at result
    · cases inner : readQuoted first rest with
      | error => simp [inner, Except.map] at result
      | ok pair =>
        simp only [inner, Except.map, Except.ok.injEq, Prod.mk.injEq] at result
        rw [← result.2]
        exact readQuoted_length first rest pair.1 pair.2 inner
    · split at result
      · simp only [Except.ok.injEq, Prod.mk.injEq] at result
        rw [← result.2]
        exact Text.length_dropWhile_le continuesName rest
      · simp only [Except.ok.injEq] at result
        have := readSymbol_length first rest
        rw [result] at this
        exact this

/-- The tokens of a text. -/
def readAll (chars : List Char) : Except SyntaxError (List Token) :=
  match _start : Text.trimStart chars with
  | [] => .ok []
  | first :: rest =>
    match _step : read first rest with
    | .error reason => .error reason
    | .ok (token, after) => (readAll after).map (token :: ·)
termination_by chars.length
decreasing_by
  have shorter := read_length first rest token after _step
  have trimmed := Text.length_dropWhile_le Text.isBlank chars
  rw [Text.trimStart] at _start
  rw [_start, List.length_cons] at trimmed
  omega

/-! ### Tokens in messages -/

/-- The name of an operator token in a message. -/
def operatorShown : BinaryOperator → String
  | .add => "Plus"
  | .sub => "Minus"
  | .mul => "Star"
  | .div => "Slash"
  | .rem => "Percent"
  | .eq => "Eq"
  | .ne => "Ne"
  | .lt => "Lt"
  | .le => "Le"
  | .gt => "Gt"
  | .ge => "Ge"
  | .and => "And"
  | .or => "Or"
  | .glob => "GlobMatch"
  | .notGlob => "NotGlobMatch"
  | .regex => "RegexMatch"
  | .notRegex => "NotRegexMatch"

/-- The name of an assignment token in a message. -/
def assignmentShown : Assignment → String
  | .set => "Assign"
  | .add => "PlusAssign"
  | .sub => "MinusAssign"
  | .mul => "StarAssign"
  | .div => "SlashAssign"

/-- A token as messages show it. -/
def shown : Token → String
  | integer number => s!"Int({number.toInt})"
  | real number => s!"Float({Decimal.floatShown number})"
  | text content => s!"Str({Text.quoted content})"
  | name identifier => s!"Ident({Text.quoted identifier})"
  | operator symbol => operatorShown symbol
  | bang => "Bang"
  | assignment symbol => assignmentShown symbol
  | question => "Question"
  | colon => "Colon"
  | comma => "Comma"
  | openParen => "LParen"
  | closeParen => "RParen"
  | unknown char => s!"Unknown({Text.quotedChar char})"

end Token

namespace SyntaxError

/-- The text of a refusal. -/
def message : SyntaxError → String
  | badHexLiteral digits => s!"bad hex literal 0x{digits}"
  | integerOutOfRange digits => s!"integer {digits} out of range"
  | unterminatedText => "unterminated string literal"
  | nestedTooDeeply => "expression nested too deeply"
  | missingColon => "expected ':' in ternary"
  | unclosedArguments name => s!"expected ')' after arguments to {name}"
  | unclosedParen => "expected ')'"
  | unexpectedChar char => s!"unexpected character {Text.quotedChar char}"
  | unexpectedEnd => "unexpected end of expression"
  | unexpectedToken token => s!"unexpected token {token.shown}"
  | trailingToken token => s!"unexpected {token.shown} after expression"

end SyntaxError

end SlashScript
