import Storytest.Source.Grammar.Pattern

/-!
# Reading operators

Operators bind in thirteen strengths. Comparisons do not chain, and a range is not an operand of
another operator. Where a structure may not be written, as in the condition of a loop, a brace after
a path starts the loop's block.
-/

namespace Storytest.Source

open TokenReader

/-! ## Operators -/

/-- How strongly operators bind. -/
inductive Strength where
  | none
  | assign
  | range
  | or
  | and
  | compare
  | bitOr
  | bitXor
  | bitAnd
  | shift
  | sum
  | product
  | cast
  deriving DecidableEq, Repr

namespace Strength

/-- The rank of a strength; a higher rank binds more strongly. -/
def rank (strength : Strength) : Nat := strength.ctorIdx

end Strength

/-- The operators with two operands. An operator that another one starts with comes after it. -/
def operators : List (String × Strength) :=
  [("+=", .assign), ("-=", .assign), ("*=", .assign), ("/=", .assign), ("%=", .assign),
    ("^=", .assign), ("&=", .assign), ("|=", .assign), ("<<=", .assign), (">>=", .assign),
    ("&&", .and), ("||", .or), ("<<", .shift), (">>", .shift), ("==", .compare), ("<=", .compare),
    ("!=", .compare), (">=", .compare), ("+", .sum), ("-", .sum), ("*", .product),
    ("/", .product), ("%", .product), ("^", .bitXor), ("&", .bitAnd), ("|", .bitOr),
    ("<", .compare), (">", .compare)]

/-- The operator with two operands that comes next. -/
def operator? (tokens : List Token) : Option (String × Strength) :=
  operators.find? fun entry => atOp entry.1 tokens

/-- The tokens start with an assignment. -/
def atAssignment (tokens : List Token) : Bool :=
  atOp "=" tokens && !atOp "=>" tokens

/-- How strongly what comes next binds to an operand before it. -/
def strengthOf (tokens : List Token) : Strength :=
  match operator? tokens with
  | some (_, strength) => strength
  | none =>
    if atAssignment tokens then .assign
    else if atOp ".." tokens then .range
    else if atWord "as" tokens then .cast
    else .none

/-- The tokens start with a call, a member or an index, which may not follow a conversion. -/
def atTrailer (tokens : List Token) : Bool :=
  atOp "." tokens && !atOp ".." tokens || atOp "?" tokens || atGroup .bracket tokens ||
    atGroup .parenthesis tokens

/-- The tokens start with what ends a range without an upper end. -/
def atUnbounded (structures : Bool) (tokens : List Token) : Bool :=
  tokens.isEmpty || atOp "." tokens && !atOp ".." tokens || !structures && atGroup .brace tokens ||
    atWord "as" tokens ||
    [",", ";", "?", "=>", "=", "+", "/", "%", "^", ">", "<=", "!=", "-=", "*=", "&=", "|=",
      "<<="].any fun marks => atOp marks tokens

/-- The tokens start with an expression. -/
def atExpression (tokens : List Token) : Bool :=
  let only := fun (marks : String) (others : List String) =>
    atOp marks tokens && !others.any fun other => atOp other tokens
  tokens.head?.any (fun
    | .mark .. => false
    | _ => true) ||
    only "!" ["!="] || only "-" ["-=", "->"] || only "*" ["*="] || only "|" ["|="] ||
    only "&" ["&="] || atOp ".." tokens || only "<" ["<=", "<<="] || atOp "::" tokens ||
    atOp "#" tokens

namespace Grammar

variable (g : Grammar)

/-- Takes the marks of a range, and says whether its upper end belongs to it. -/
def expressionRangeMarks : TokenReader (List Token × Bool) := do
  if atOp "..=" (← get) then return (← op "..=", true)
  else if atOp "..." (← get) then failure
  else return (← op "..", false)

mutual

/-- Goes on with an expression while operators of at least a strength follow, at most so many. -/
def climb (structures : Bool) (least : Strength) (left : Expression) :
    Nat → TokenReader Expression
  | 0 => return left
  | count + 1 => do
    let tokens ← get
    if left.form = .range then return left
    else
      match operator? tokens with
      | some (marks, strength) =>
        if strength.rank < least.rank then return left
        else if strength = .compare && left.form = .comparison then failure
        else
          let mark ← op marks
          let right ← operandOf structures strength count
          let form := if strength = .compare then .comparison else .other
          climb structures least ⟨left.tokens ++ mark ++ right.tokens, form⟩ count
      | none =>
        if least.rank ≤ Strength.assign.rank && atAssignment tokens then
          let mark ← op "="
          let right ← operandOf structures .assign count
          climb structures least (.plain (left.tokens ++ mark ++ right.tokens)) count
        else if least.rank ≤ Strength.range.rank && atOp ".." tokens then
          let upper ← rangeUpper structures count
          climb structures least ⟨left.tokens ++ upper, .range⟩ count
        else if least.rank ≤ Strength.cast.rank && atWord "as" tokens then
          let mark ← keyword "as"
          let type ← g.typeTokens false
          if atTrailer (← get) then failure
          climb structures least (.plain (left.tokens ++ mark ++ type)) count
        else return left

/-- Takes the right operand of an operator, with what binds to it more strongly. -/
def operandOf (structures : Bool) (strength : Strength) (count : Nat) :
    TokenReader Expression := do
  raise structures strength (← g.operand structures) count

/-- Goes on with a right operand while what follows binds to it more strongly. -/
def raise (structures : Bool) (strength : Strength) (right : Expression) :
    Nat → TokenReader Expression
  | 0 => return right
  | count + 1 => do
    let before ← get
    let next := strengthOf before
    if strength.rank < next.rank || next = strength && strength = .assign then
      let further ← climb structures next right count
      if (← get).length = before.length then return further
      else raise structures strength further count
    else return right

/-- Takes the marks of a range and its upper end, if it has one. -/
def rangeUpper (structures : Bool) (count : Nat) : TokenReader (List Token) := do
  let (marks, inclusive) ← expressionRangeMarks
  if !inclusive && atUnbounded structures (← get) then return marks
  else return marks ++ (← operandOf structures .range count).tokens

end

/-- Goes on with an expression while any operator of at least a strength follows. -/
def operation (structures : Bool) (least : Strength) (left : Expression) :
    TokenReader Expression := do
  g.climb structures least left (2 * (← get).length + 2)

/-- Takes a range without a lower end. -/
def rangeBelow (structures : Bool) : TokenReader Expression := do
  return ⟨← g.rangeUpper structures (2 * (← get).length + 2), .range⟩

end Grammar

end Storytest.Source
