import Storytest.Source.Grammar.Path

/-!
# Reading types
-/

namespace Storytest.Source

open TokenReader

/-- A type that is looked at no further. -/
def ReadType.other (tokens : List Token) : ReadType := ⟨.other tokens, .other⟩

namespace Grammar

variable (g : Grammar)

/-- Takes one more bound after each plus sign. -/
def addedBounds : TokenReader (List Token) := do
  let added ← repeatWhile (atOp "+") do
    return (← op "+") ++ (← g.bound false).tokens
  return added.flatten

/-! ## In parentheses -/

/-- Takes what stands in parentheses where it starts with a type: the tokens, and how the type is
written if it is the only one. -/
def enclosedTypes : TokenReader (List Token × Option TypeForm) := do
  let first ← g.type true
  if atOp "," (← get) then
    let comma ← op ","
    return (first.tokens ++ comma ++ (← commaTokens (g.typeTokens true)), none)
  else return (first.tokens, some first.form)

/-- Takes a type that starts with a parenthesis: a tuple, a type in parentheses, or a sum of bounds
whose first is in parentheses. -/
def typeInParentheses (sums : Bool) : TokenReader ReadType := do
  let content ← group .parenthesis
  if content.isEmpty then return .other (Token.parens [])
  else if atLifetime content then
    return ⟨.other (Token.parens (← within content (g.bounds true false))), .parenthesized⟩
  else if atOp "?" content then
    let first := Token.parens (← within content g.traitBound)
    let added ← g.addedBounds
    return ⟨.other (first ++ added), if added.isEmpty then .bound else .other⟩
  else
    let (inner, form?) ← within content g.enclosedTypes
    let tokens := Token.parens inner
    match form? with
    | none => return .other tokens
    | some form =>
      if sums && atOp "+" (← get) && form ∈ [TypeForm.name, .path, .bound] then
        return .other (tokens ++ (← g.addedBounds))
      else return ⟨.other tokens, .parenthesized⟩

/-! ## Functions -/

/-- Takes the name of a parameter of a function type with its colon, if it has one. -/
def parameterName? : TokenReader (List Token) := do
  let tokens ← get
  let isName := atIdent tokens || atAnyOf ["_", "self"] tokens
  if isName && atOp ":" (tokens.drop 1) && !atOp "::" (tokens.drop 1) then
    return Token.ident (← word) ++ (← op ":")
  else return []

/-- Takes a parameter of a function type; three points may stand for the last one. -/
def functionParameter : TokenReader (List Token) := do
  let attributes ← g.attributeTokens
  let name ← parameterName?
  let tokens ← get
  if atOp "..." tokens && (tokens.drop 3).length ≤ 1 then return attributes ++ name ++ (← op "...")
  else return attributes ++ name ++ (← g.typeTokens true)

/-- Takes the name of a foreign calling convention, if one is written. -/
def convention? : TokenReader (List Token) := do
  if atWord "extern" (← get) then return (← keyword "extern") ++ (← text?) else return []

/-- Takes the type of a function. -/
def functionType : TokenReader (List Token) := do
  return (← keyword? "unsafe") ++ (← convention?) ++ (← keyword "fn") ++
    (← grouped .parenthesis (commaTokens g.functionParameter)) ++ (← g.resultTokens false)

/-! ## Types -/

/-- Takes a call of a macro behind its name. -/
def macroCall : TokenReader (List Token) := do
  return (← op "!") ++ (← anyGroup)

/-- The tokens start with a call of a macro behind its name. -/
def atMacroCall (tokens : List Token) : Bool :=
  atOp "!" tokens && !atOp "!=" tokens

/-- Takes a type that starts with a path, after what it is generic in. -/
def typeOfPath (sums : Bool) (binder : List Token) : TokenReader ReadType := do
  let path ← g.typePath
  let tokens ← get
  if !path.qualifier.isEmpty then return path.type
  else if path.isPlain && atMacroCall tokens then return .other (path.tokens ++ (← macroCall))
  else if !binder.isEmpty || sums && atOp "+" tokens then
    let (more, _) ← if sums then g.moreBounds false else pure ([], false)
    return ⟨.other (binder ++ path.tokens ++ more), if more.isEmpty then .bound else .other⟩
  else return path.type

/-- Takes a type that starts with a bracket. -/
def typeInBrackets : TokenReader (List Token) := do
  let item ← g.typeTokens true
  if atOp ";" (← get) then return item ++ (← op ";") ++ (← g.expressionTokens true)
  else return item

/-- The tokens start with a path that is not qualified by a type. -/
def atPath (tokens : List Token) : Bool :=
  atPathWord tokens || atOp "::" tokens

/-- The tokens start with the type of a function. -/
def atFunctionType (tokens : List Token) : Bool :=
  atAnyOf ["fn", "unsafe", "extern"] tokens

/-- Takes a type. -/
def readType (sums : Bool) : TokenReader ReadType := do
  let binder ← g.binder?
  let tokens ← get
  if !binder.isEmpty && !atPathWord tokens && !atFunctionType tokens then failure
  else if atGroup .parenthesis tokens then g.typeInParentheses sums
  else if atFunctionType tokens then return .other (binder ++ (← g.functionType))
  else if atPath tokens || atOp "<" tokens then g.typeOfPath sums binder
  else if atWord "dyn" tokens then
    return .other ((← keyword "dyn") ++ (← op? "*") ++ (← g.bounds sums false))
  else if atGroup .bracket tokens then return .other (← grouped .bracket g.typeInBrackets)
  else if atOp "*" tokens then
    let star ← op "*"
    let access ← if atWord "const" (← get) then keyword "const" else keyword "mut"
    return .other (star ++ access ++ (← g.typeTokens false))
  else if atOp "&" tokens then
    return .other
      ((← op "&") ++ (← lifetime?) ++ (← keyword? "mut") ++ (← g.typeTokens false))
  else if atOp "!" tokens then return .other (← op "!")
  else if atWord "impl" tokens then
    return .other ((← keyword "impl") ++ (← g.bounds sums true))
  else if atWord "_" tokens then return .other (← keyword "_")
  else if atLifetime tokens then return .other (← g.bounds true false)
  else failure

end Grammar

end Storytest.Source
