import Storytest.Source.Grammar.Closure

/-!
# Reading operands

An operand is an atom (a literal, a path, a group, a block, a closure), what follows it (calls,
members, indexes, question marks) and the operators in front of it.
-/

namespace Storytest.Source

open TokenReader

namespace Grammar

variable (g : Grammar)

/-! ## What follows an atom -/

/-- Takes a member or a call of one behind its point. -/
def memberAccess : TokenReader (List Token) := do
  if atWord "await" (← get) then keyword "await"
  else
    let (name, isWord) ← member
    let arguments ←
      if isWord && atOp "::" (← get) then pure (← g.angledArguments).tokens else pure []
    if !arguments.isEmpty || isWord && atGroup .parenthesis (← get) then
      return name ++ arguments ++ (← grouped .parenthesis (commaTokens (g.expressionTokens true)))
    else return name

/-- The positions in a literal with a point, and whether a point comes last. -/
def positions? (text : String) : Option (List Nat × Bool) :=
  let parts := text.splitOn "."
  let openEnded := parts.getLast? == some ""
  let shown := if openEnded then parts.dropLast else parts
  (shown.mapM Lexeme.position?).map fun positions => (positions, openEnded)

/-- Takes a point and the member behind it. Two positions may be written as one literal. -/
def pointAccess : TokenReader (List Token) := do
  let point ← op "."
  match ← Reader.peek with
  | some (.literal text) =>
    if text.contains '.' then
      let _ ← Reader.next
      match positions? text with
      | some (positions, openEnded) =>
        let taken := positions.flatMap fun position => point ++ [.literal (toString position)]
        if openEnded then return taken ++ point ++ (← g.memberAccess) else return taken
      | none => failure
    else return point ++ (← g.memberAccess)
  | _ => return point ++ (← g.memberAccess)

/-- Takes what follows an atom, at most so many times. -/
def trailersUpTo (atom : Expression) : Nat → TokenReader Expression
  | 0 => return atom
  | count + 1 => do
    let tokens ← get
    if atGroup .parenthesis tokens then
      let arguments ← grouped .parenthesis (commaTokens (g.expressionTokens true))
      trailersUpTo (.plain (atom.tokens ++ arguments)) count
    else if atGroup .bracket tokens then
      let index ← grouped .bracket (g.expressionTokens true)
      trailersUpTo (.plain (atom.tokens ++ index)) count
    else if atOp "." tokens && !atOp ".." tokens && atom.form ≠ .range then
      trailersUpTo (.plain (atom.tokens ++ (← g.pointAccess))) count
    else if atOp "?" tokens then
      trailersUpTo (.plain (atom.tokens ++ (← op "?"))) count
    else return atom

/-- Takes what follows an atom. -/
def trailers (atom : Expression) : TokenReader Expression := do
  g.trailersUpTo atom (← get).length

/-! ## Paths and groups -/

/-- Takes a field of a structure that is written out. -/
def fieldValue : TokenReader (List Token) := do
  let attributes ← g.attributeTokens
  let (name, isWord) ← member
  if !isWord || atOp ":" (← get) then
    return attributes ++ name ++ (← op ":") ++ (← g.expressionTokens true)
  else return attributes ++ name

/-- Takes the fields of a structure that is written out, and where the others come from. -/
def fieldValues : TokenReader (List Token) := do
  let fields ← listUntil "," (fun rest => rest.isEmpty || atOp ".." rest) g.fieldValue
  let tokens := Listed.tokens "," id fields
  if (← get).isEmpty then return tokens
  else if !Listed.isOpen fields then failure
  else
    let points ← op ".."
    if (← get).isEmpty then return tokens ++ points
    else return tokens ++ points ++ (← g.expressionTokens true)

/-- Takes a path, a call of a macro, or a structure that is written out. -/
def pathExpression (structures : Bool) : TokenReader Expression := do
  let path ← g.path true
  let tokens ← get
  if path.isPlain && atMacroCall tokens then
    let braced := atGroup .brace (tokens.drop 1)
    return ⟨path.tokens ++ (← macroCall), if braced then .braced else .other⟩
  else if structures && atGroup .brace tokens then
    return .plain (path.tokens ++ (← grouped .brace g.fieldValues))
  else return .plain path.tokens

/-- Takes the items of an array, or an item and how often it is repeated. -/
def arrayItems : TokenReader (List Token) := do
  if (← get).isEmpty then return []
  else
    let first ← g.expressionTokens true
    if atOp ";" (← get) then return first ++ (← op ";") ++ (← g.expressionTokens true)
    else if atOp "," (← get) then
      return first ++ (← op ",") ++ (← commaTokens (g.expressionTokens true))
    else return first

/-! ## Control -/

/-- Takes a condition with blocks, and further conditions after `else`, at most so many. -/
def conditionalUpTo : Nat → TokenReader (List Token)
  | 0 => failure
  | count + 1 => do
    let branch := (← keyword "if") ++ (← g.expressionTokens false) ++ (← g.block false)
    if atWord "else" (← get) then
      let other ← keyword "else"
      if atWord "if" (← get) then return branch ++ other ++ (← conditionalUpTo count)
      else return branch ++ other ++ (← g.block false)
    else return branch

/-- Takes a choice between blocks. -/
def conditional : TokenReader (List Token) := do
  g.conditionalUpTo (← get).length

/-- Takes a loop. -/
def loop : TokenReader (List Token) := do
  let tokens ← get
  if atWord "while" tokens then
    return (← keyword "while") ++ (← g.expressionTokens false) ++ (← g.block true)
  else if atWord "for" tokens then
    return (← keyword "for") ++ (← g.alternativeTokens) ++ (← keyword "in") ++
      (← g.expressionTokens false) ++ (← g.block true)
  else return (← keyword "loop") ++ (← g.block true)

/-- Takes a block or a loop with a label. -/
def labeled : TokenReader (List Token) := do
  let label := (← lifetime) ++ (← op ":")
  if atGroup .brace (← get) then return label ++ (← g.block true) else return label ++ (← g.loop)

/-- The tokens start with the parameters of something generic, and not with a qualified path. -/
def atBinder (tokens : List Token) : Bool :=
  let next := tokens.drop 1
  let behind := tokens.drop 2
  atOp "<" tokens &&
    (atOp ">" next || atOp "#" next || atWord "const" next ||
      (atLifetime next || atIdent next) &&
        (atOp ">" behind || atOp "," behind || atOp ":" behind && !atOp "::" behind ||
          atOp "=" behind))

/-- The tokens start with an expression that ends in its own block. -/
def atBlockExpression (tokens : List Token) : Bool :=
  let next := tokens.drop 1
  atGroup .brace tokens || atLifetime tokens || atAnyOf ["if", "while", "loop", "match"] tokens ||
    atWord "for" tokens && !atBinder next ||
    atAnyOf ["try", "unsafe", "const"] tokens && atGroup .brace next

/-- Takes an arm of a choice by patterns. -/
def arm : TokenReader (List Token) := do
  let pattern := (← g.attributeTokens) ++ (← g.alternativeTokens)
  let guard ←
    if atWord "if" (← get) then pure ((← keyword "if") ++ (← g.expressionTokens true)) else pure []
  let arrow ← op "=>"
  let body ← g.bounded
  let comma ← if body.form ≠ .block && !(← get).isEmpty then op "," else op? ","
  return pattern ++ guard ++ arrow ++ body.tokens ++ comma

/-- Takes a choice by patterns. -/
def choice : TokenReader (List Token) := do
  let subject := (← keyword "match") ++ (← g.expressionTokens false)
  return subject ++ (← grouped .brace do
    return (← g.innerAttributeTokens) ++ (← repeatWhile (!·.isEmpty) g.arm).flatten)

/-- Takes an expression that ends in its own block. -/
def blockExpression : TokenReader Expression := do
  let tokens ← get
  let taken ←
    if atWord "if" tokens then g.conditional
    else if atWord "match" tokens then g.choice
    else if atLifetime tokens then g.labeled
    else if atAnyOf ["while", "for", "loop"] tokens then g.loop
    else if atWord "try" tokens then pure ((← keyword "try") ++ (← g.block false))
    else if atWord "unsafe" tokens then pure ((← keyword "unsafe") ++ (← g.block true))
    else pure ((← keyword? "const") ++ (← g.block true))
  return ⟨taken, .block⟩

/-! ## Jumps -/

/-- Takes an expression if one comes next. -/
def expressionTokens? : TokenReader (List Token) := do
  if atExpression (← get) then g.expressionTokens true else return []

/-- Takes a way out of a loop: its label, unless a loop is labeled here, and its value. -/
def exit (structures : Bool) : TokenReader (List Token) := do
  let exit ← keyword "break"
  if atLifetime (← get) && atOp ":" ((← get).drop 1) then failure
  let label ← lifetime?
  if !structures && atGroup .brace (← get) then return exit ++ label
  else return exit ++ label ++ (← g.expressionTokens?)

/-- Takes a condition that is a pattern. -/
def patternCondition : TokenReader (List Token) := do
  let pattern := (← keyword "let") ++ (← g.alternativeTokens) ++ (← op "=")
  return pattern ++ (← g.operation false .compare (← g.operand false)).tokens

/-- Takes the value that a generator yields. -/
def generated : TokenReader (List Token) := do
  let word ← keyword "yield"
  let tokens ← get
  if tokens.isEmpty || atOp "," tokens || atOp ";" tokens then return word
  else return word ++ (← g.expressionTokens true)

/-! ## Atoms -/

/-- The tokens start with a closure. -/
def atClosure (tokens : List Token) : Bool :=
  let next := tokens.drop 1
  atOp "|" tokens || atWord "move" tokens || atWord "for" tokens && atBinder next ||
    atWord "const" tokens && !atGroup .brace next || atWord "static" tokens ||
    atWord "async" tokens && (atOp "|" next || atWord "move" next)

/-- The tokens start with a block that runs on its own. -/
def atAsyncBlock (tokens : List Token) : Bool :=
  let next := tokens.drop 1
  atWord "async" tokens &&
    (atGroup .brace next || atWord "move" next && atGroup .brace (tokens.drop 2))

/-- The tokens start with a path, qualified or not; `try` counts where a path goes on. -/
def atPathExpression (tokens : List Token) : Bool :=
  let next := tokens.drop 1
  atPath tokens || atOp "<" tokens || atWord "try" tokens && (atOp "!" next || atOp "::" next)

/-- Takes an expression without operators, calls or members. -/
def atom (structures : Bool) : TokenReader Expression := do
  let tokens ← get
  if atLiteral tokens then return .plain (← literal)
  else if atAsyncBlock tokens then
    return .plain ((← keyword "async") ++ (← keyword? "move") ++ (← g.block false))
  else if atWord "try" tokens && atGroup .brace (tokens.drop 1) then g.blockExpression
  else if atClosure tokens then return .plain (← g.closure structures).tokens
  else if atPathExpression tokens then g.pathExpression structures
  else if atGroup .parenthesis tokens then
    return .plain (← grouped .parenthesis (commaTokens (g.expressionTokens true)))
  else if atWord "break" tokens then return .plain (← g.exit structures)
  else if atWord "continue" tokens then return .plain ((← keyword "continue") ++ (← lifetime?))
  else if atWord "return" tokens then
    return .plain ((← keyword "return") ++ (← g.expressionTokens?))
  else if atWord "become" tokens then
    return .plain ((← keyword "become") ++ (← g.expressionTokens true))
  else if atGroup .bracket tokens then return .plain (← grouped .bracket g.arrayItems)
  else if atWord "let" tokens then return .plain (← g.patternCondition)
  else if atWord "yield" tokens then return .plain (← g.generated)
  else if atOp ".." tokens then g.rangeBelow structures
  else if atWord "_" tokens then return .plain (← keyword "_")
  else g.blockExpression

/-! ## Operands -/

/-- The tokens start with a raw reference behind its first mark. -/
def atRaw (tokens : List Token) : Bool :=
  atWord "raw" tokens && atAnyOf ["mut", "const"] (tokens.drop 1)

/-- Takes the marks of a reference. -/
def referenceMarks : TokenReader (List Token) := do
  let mark ← op "&"
  if atRaw (← get) then
    let raw ← keyword "raw"
    if atWord "mut" (← get) then return mark ++ raw ++ (← keyword "mut")
    else return mark ++ raw ++ (← keyword "const")
  else return mark ++ (← keyword? "mut")

/-- Takes an operand. -/
def readOperand (structures : Bool) : TokenReader Expression := do
  let attributes ← g.attributeTokens
  let tokens ← get
  let operand ←
    if atOp "&" tokens then pure (.plain ((← referenceMarks) ++ (← g.operand structures).tokens))
    else if atOp "*" tokens then
      pure (.plain ((← op "*") ++ (← g.operand structures).tokens))
    else if atOp "!" tokens then
      pure (.plain ((← op "!") ++ (← g.operand structures).tokens))
    else if atOp "-" tokens then
      pure (.plain ((← op "-") ++ (← g.operand structures).tokens))
    else g.trailers (← g.atom structures)
  return operand.behind attributes

/-! ## Expressions -/

/-- Takes an expression. -/
def readExpression (structures : Bool) : TokenReader Expression := do
  g.operation structures .none (← g.readOperand structures)

/-- Takes an expression that starts a statement or is the body of an arm. One that ends in its own
block ends there, unless a point or a question mark follows. -/
def readBounded : TokenReader Expression := do
  let attributes ← g.attributeTokens
  let first ←
    if atBlockExpression (← get) then g.blockExpression else g.readOperand true
  let tokens ← get
  let whole ←
    if first.form ≠ .block then g.operation true .none first
    else if atOp "." tokens && !atOp ".." tokens || atOp "?" tokens then
      g.operation true .none (← g.trailers first)
    else pure first
  return whole.behind attributes

end Grammar

end Storytest.Source
