/-
The grammar of expressions, from the loosest production to the tightest:

    sequence    :=  assign (',' assign)*
    assign      :=  name assignment assign  |  conditional
    conditional :=  chain 5  |  chain 5 '?' chain 5 ':' conditional
    chain n     :=  chain (n - 1) (operator of looseness n, chain (n - 1))*
    chain 0     :=  ('-' | '!') chain 0  |  primary
    primary     :=  literal  |  name  |  name '(' [assign (',' assign)*] ')'  |  '(' sequence ')'

A construct may open only so many others inside it. Whatever opens one, an operator of a chain
included, parses what follows with the productions of one level less, and the productions of
level zero refuse every text; so the recursion is on the level, and each production is a plain
definition in terms of the productions one level down.
-/

import SlashScript.Expression.Token

namespace SlashScript

/-- Reads a value from the front of a list of tokens and returns the tokens after it. -/
abbrev TokenParser (Result : Type) : Type :=
  List Token → Except SyntaxError (Result × List Token)

/-- The productions that a construct uses for what it opens. -/
structure Productions where
  sequence : TokenParser Expression
  assign : TokenParser Expression
  conditional : TokenParser Expression
  /-- The rest of a chain of the given looseness, after an operand and an operator. -/
  operand : Nat → Expression → BinaryOperator → TokenParser Expression
  unary : TokenParser Expression
  arguments : TokenParser (List Expression)

namespace Productions

/-- The greatest number of constructs that may be open at one place. -/
def maxDepth : Nat := 128

/-- The loosest operators. -/
def loosest : Nat := 5

/-- The productions that allow nothing more to be opened. -/
def refuseAll : Productions where
  sequence _ := .error .nestedTooDeeply
  assign _ := .error .nestedTooDeeply
  conditional _ := .error .nestedTooDeeply
  operand _ _ _ _ := .error .nestedTooDeeply
  unary _ := .error .nestedTooDeeply
  arguments _ := .error .nestedTooDeeply

/-- Items that follow a first one, each after a comma. The limit is the number of tokens that
are left. -/
def moreItems (item : TokenParser Expression) : Nat → TokenParser (List Expression)
  | limit + 1, .comma :: tokens => do
    let (first, tokens) ← item tokens
    let (others, tokens) ← moreItems item limit tokens
    .ok (first :: others, tokens)
  | _, tokens => .ok ([], tokens)

/-- Items separated by commas, at least one. -/
def separated (item : TokenParser Expression) : TokenParser (List Expression) := fun tokens => do
  let (first, tokens) ← item tokens
  let (others, tokens) ← moreItems item tokens.length tokens
  .ok (first :: others, tokens)

/-- A literal, a name, a call or an expression in parentheses. -/
def primary (inner : Productions) : TokenParser Expression
  | .integer number :: tokens => .ok (.literal (.integer number), tokens)
  | .real number :: tokens => .ok (.literal (.real number), tokens)
  | .text content :: tokens => .ok (.literal (.text content), tokens)
  | .name identifier :: .openParen :: tokens => do
    let (arguments, tokens) ← inner.arguments tokens
    match tokens with
    | .closeParen :: tokens => .ok (.call identifier arguments, tokens)
    | _ => .error (.unclosedArguments identifier)
  | .name identifier :: tokens => .ok (.named identifier, tokens)
  | .openParen :: tokens => do
    let (expression, tokens) ← inner.sequence tokens
    match tokens with
    | .closeParen :: tokens => .ok (expression, tokens)
    | _ => .error .unclosedParen
  | .unknown char :: _ => .error (.unexpectedChar char)
  | token :: _ => .error (.unexpectedToken token)
  | [] => .error .unexpectedEnd

/-- An operand with any number of signs and negations before it. -/
def signed (inner : Productions) : TokenParser Expression
  | .operator .sub :: tokens => do
    let (operand, tokens) ← inner.unary tokens
    .ok (.unary .neg operand, tokens)
  | .bang :: tokens => do
    let (operand, tokens) ← inner.unary tokens
    .ok (.unary .not operand, tokens)
  | tokens => primary inner tokens

/-- What may follow an operand in a chain of the given looseness. -/
def chainRest (inner : Productions) (looseness : Nat) (left : Expression) : TokenParser Expression
  | .operator operator :: tokens =>
    if operator.looseness = looseness then inner.operand looseness left operator tokens
    else .ok (left, .operator operator :: tokens)
  | tokens => .ok (left, tokens)

/-- Operands joined from the left by operators of the given looseness. -/
def chain (inner : Productions) : Nat → TokenParser Expression
  | 0 => signed inner
  | looseness + 1 => fun tokens => do
    let (left, tokens) ← chain inner looseness tokens
    chainRest inner (looseness + 1) left tokens

/-- The operand after an operator of a chain, and the rest of the chain. -/
def chainOperand (inner : Productions) (looseness : Nat) (left : Expression)
    (operator : BinaryOperator) : TokenParser Expression := fun tokens => do
  let (right, tokens) ← chain inner (looseness - 1) tokens
  chainRest inner looseness (.binary operator left right) tokens

/-- A choice between two expressions, or an expression without a choice. -/
def choice (inner : Productions) : TokenParser Expression := fun tokens => do
  let (condition, tokens) ← chain inner loosest tokens
  match tokens with
  | .question :: tokens =>
    let (whenTrue, tokens) ← chain inner loosest tokens
    match tokens with
    | .colon :: tokens =>
      let (whenFalse, tokens) ← inner.conditional tokens
      .ok (.conditional condition whenTrue whenFalse, tokens)
    | _ => .error .missingColon
  | tokens => .ok (condition, tokens)

/-- An assignment, or an expression without one. -/
def assignable (inner : Productions) : TokenParser Expression
  | .name identifier :: .assignment symbol :: tokens => do
    let (operand, tokens) ← inner.assign tokens
    .ok (.assign identifier symbol operand, tokens)
  | tokens => choice inner tokens

/-- Expressions separated by commas; a single one stands for itself. -/
def commaList (inner : Productions) : TokenParser Expression := fun tokens => do
  let (items, tokens) ← separated (assignable inner) tokens
  match items with
  | [single] => .ok (single, tokens)
  | items => .ok (.sequence items, tokens)

/-- The arguments of a call, up to its closing parenthesis. -/
def argumentList (inner : Productions) : TokenParser (List Expression)
  | .closeParen :: tokens => .ok ([], .closeParen :: tokens)
  | tokens => separated (assignable inner) tokens

/-- The productions that may open as many constructs inside one another as `level` says, less
one; at level zero a construct was opened that may not be. -/
def atLevel : Nat → Productions
  | 0 => refuseAll
  | level + 1 =>
    let inner := atLevel level
    { sequence := commaList inner
      assign := assignable inner
      conditional := choice inner
      operand := chainOperand inner
      unary := signed inner
      arguments := argumentList inner }

end Productions

namespace Expression

/-- The expression that a list of tokens stands for. -/
def ofTokens (tokens : List Token) : Except SyntaxError Expression := do
  let (expression, rest) ← (Productions.atLevel (Productions.maxDepth + 1)).sequence tokens
  match rest with
  | [] => .ok expression
  | token :: _ => .error (.trailingToken token)

/-- The expression that a text stands for. -/
def parse (source : List Char) : Except SyntaxError Expression := do
  let tokens ← Token.readAll source
  ofTokens tokens

end Expression

end SlashScript
