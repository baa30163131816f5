import Storytest.Source.Pattern
import Storytest.Source.Reader
import Storytest.Source.TypeText

/-!
# Grammars

Types, patterns, expressions and blocks hold one another. A `Grammar` is a set of readers for them;
the readers of this folder are functions of the grammar that they read what they hold with, and none
of them calls itself. `Grammar.ofDepth` closes the circle for any depth of nesting.
-/

namespace Storytest.Source

/-- How a type is written, as far as it decides what may follow. -/
inductive TypeForm where
  /-- A single word, with or without arguments in angle brackets. -/
  | name
  /-- Any other path. -/
  | path
  /-- A single bound, or a path in parentheses. -/
  | bound
  | parenthesized
  | other
  deriving DecidableEq, Repr

/-- A type that was read, and how it is written. -/
structure ReadType where
  text : TypeText
  form : TypeForm

namespace ReadType

/-- The tokens of the type. -/
def tokens (type : ReadType) : List Token := type.text.tokens

end ReadType

/-- A bound that was read, and whether it is a trait's; otherwise it is a lifetime. -/
structure Bound where
  tokens : List Token
  isTrait : Bool

/-- How an expression is written, as far as it decides what may follow. -/
inductive ExpressionForm where
  /-- It ends in its own block, so it may stand as a statement. -/
  | block
  /-- A call of a macro in braces. -/
  | braced
  | range
  | comparison
  | other
  deriving DecidableEq, Repr

/-- An expression that was read. -/
structure Expression where
  tokens : List Token
  form : ExpressionForm

namespace Expression

/-- An expression of no special form. -/
def plain (tokens : List Token) : Expression := ⟨tokens, .other⟩

/-- The expression ends in a brace. -/
def endsInBrace (expression : Expression) : Bool :=
  match expression.tokens.getLast? with
  | some (.group .brace _) => true
  | _ => false

/-- The expression behind these tokens. -/
def behind (tokens : List Token) (expression : Expression) : Expression :=
  { expression with tokens := tokens ++ expression.tokens }

end Expression

/-- Readers for what source text nests. -/
structure Grammar where
  /-- A type; a sum of bounds only where the flag allows it. -/
  type (sums : Bool) : TokenReader ReadType
  /-- A bound; one that lists what it captures only where the flag allows it. -/
  bound (captures : Bool) : TokenReader Bound
  /-- A pattern without alternatives. -/
  pattern : TokenReader Pattern
  /-- An expression; one that writes a structure only where the flag allows it. -/
  expression (structures : Bool) : TokenReader Expression
  /-- An expression that starts a statement or is the body of an arm. -/
  bounded : TokenReader Expression
  /-- An operand of an expression. -/
  operand (structures : Bool) : TokenReader Expression
  /-- A block in braces; attributes of its own only where the flag allows them. -/
  block (attributed : Bool) : TokenReader (List Token)

namespace Grammar

variable (g : Grammar)

/-- Takes a type and gives its tokens. -/
def typeTokens (sums : Bool) : TokenReader (List Token) := do
  return (← g.type sums).tokens

/-- Takes an expression and gives its tokens. -/
def expressionTokens (structures : Bool) : TokenReader (List Token) := do
  return (← g.expression structures).tokens

/-- Takes a pattern with alternatives, with a bar in front or not; without any it is the pattern
itself. -/
def alternative : TokenReader Pattern := do
  let bar := fun tokens => atOp "|" tokens && !atOp "||" tokens && !atOp "|=" tokens
  let lead ← TokenReader.op? "|"
  let first ← g.pattern
  if !lead.isEmpty || bar (← get) then
    let more ← TokenReader.repeatWhile bar do
      return (← TokenReader.op "|") ++ (← g.pattern).tokens
    return .other (lead ++ first.tokens ++ more.flatten)
  else return first

/-- Takes a pattern with alternatives and gives its tokens. -/
def alternativeTokens : TokenReader (List Token) := do
  return (← g.alternative).tokens

end Grammar

end Storytest.Source
