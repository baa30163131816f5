import Storytest.Source.Grammar.Item

/-!
# Reading blocks

A block is a list of statements. An expression that does not end in a brace of its own needs a
semicolon unless it comes last.
-/

namespace Storytest.Source

open TokenReader

/-- A statement that was read, and whether more may follow it. -/
structure Statement where
  tokens : List Token
  complete : Bool

namespace Grammar

variable (g : Grammar)

/-- Takes a binding of a pattern to a value, with a block for values that do not fit. -/
def localBinding : TokenReader (List Token) := do
  let pattern := (← keyword "let") ++ (← g.pattern).tokens
  let type ← if atOp ":" (← get) then pure ((← op ":") ++ (← g.typeTokens true)) else pure []
  let value ←
    if atOp "=" (← get) then
      let equals ← op "="
      let expression ← g.expression true
      let other ←
        if !expression.endsInBrace && atWord "else" (← get) then
          pure ((← keyword "else") ++ (← g.block false))
        else pure []
      pure (equals ++ expression.tokens ++ other)
    else pure []
  return pattern ++ type ++ value ++ (← op ";")

/-- What a statement that starts with the name of a macro is. -/
inductive MacroStatement where
  /-- A call in braces, which ends the statement. -/
  | call
  /-- A call that defines something by name. -/
  | definition

/-- The kind of macro statement that the tokens start with. -/
def macroStatement? (tokens : List Token) : Option MacroStatement :=
  match words tokens with
  | some (_, rest) =>
    let next := rest.drop 1
    let behind := rest.drop 2
    if !atOp "!" rest then none
    else if atIdent next || atWord "try" next then some .definition
    else if atGroup .brace next &&
        !(atOp "." behind && !atOp ".." behind || atOp "?" behind) then
      some .call
    else none
  | none => none

/-- Takes an expression as a statement. -/
def expressionStatement : TokenReader Statement := do
  let expression ← g.bounded
  let semicolon ← op? ";"
  let complete := !semicolon.isEmpty || expression.form ∈ [ExpressionForm.block, .braced]
  return ⟨expression.tokens ++ semicolon, complete⟩

/-- Takes a statement. -/
def statement : TokenReader Statement := do
  let attributes ← g.attributes
  let lead := attributes.flatMap Attribute.tokens
  let tokens ← get
  match macroStatement? tokens with
  | some .call =>
    let name ← wordTokens
    return ⟨lead ++ name ++ (← macroCall) ++ (← op? ";"), true⟩
  | some .definition => return ⟨lead ++ (← verbatimItem), true⟩
  | none =>
    if atWord "let" tokens then return ⟨lead ++ (← g.localBinding), true⟩
    else if atItem tokens then return ⟨← g.item attributes, true⟩
    else
      let statement ← g.expressionStatement
      return { statement with tokens := lead ++ statement.tokens }

/-- Takes the statements of a block, at most so many. -/
def statementsUpTo : Nat → TokenReader (List Token)
  | 0 => return []
  | count + 1 => do
    if atOp ";" (← get) then return (← op ";") ++ (← statementsUpTo count)
    else if (← get).isEmpty then return []
    else
      let first ← g.statement
      if !first.complete && !(← get).isEmpty then failure
      else return first.tokens ++ (← statementsUpTo count)

/-- Takes the statements of a block. -/
def statements : TokenReader (List Token) := do
  g.statementsUpTo (← get).length

/-- Takes a block in braces; attributes of its own only where the flag allows them. -/
def readBlock (attributed : Bool) : TokenReader (List Token) :=
  grouped .brace do
    let attributes ← if attributed then g.innerAttributeTokens else pure []
    return attributes ++ (← g.statements)

end Grammar

end Storytest.Source
