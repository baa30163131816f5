import Storytest.Source.Grammar.Operand
import Storytest.Source.Item

/-!
# Reading items

An item is read as it may stand in a body. Structures, enumerations and unions are also read for
themselves, with what an instance for them needs to know.
-/

namespace Storytest.Source

open TokenReader

namespace Grammar

variable (g : Grammar)

/-! ## Visibility -/

/-- Takes how far an item can be seen, if it is written. Parentheses behind `pub` belong to it only
if they hold a place. -/
def visibility : TokenReader (List Token) := do
  if atWord "pub" (← get) then
    let pub ← keyword "pub"
    match ← Reader.peek with
    | some (.group .parenthesis content) =>
      if atAnyOf ["crate", "self", "super"] content && content.length = 1 then
        return pub ++ (← anyGroup)
      else if atWord "in" content then
        return pub ++ (← grouped .parenthesis do return (← keyword "in") ++ (← wordTokens))
      else return pub
    | _ => return pub
  else return []

/-! ## Generic parameters -/

/-- Takes the bounds of a lifetime, if there are any. -/
def lifetimeBounds (ends : List Token → Bool) : TokenReader (List Token) := do
  return Listed.tokens "+" id (← chain "+" ends lifetime)

/-- Takes the bounds of a type, if there are any. -/
def typeBounds (ends : List Token → Bool) : TokenReader (List Token) := do
  return Listed.tokens "+" Bound.tokens (← chain "+" ends (g.bound false))

/-- Takes a reader's tokens behind a mark, if the mark comes next. -/
def behind? (mark : String) (reader : TokenReader (List Token)) : TokenReader (List Token) := do
  if atOp mark (← get) then
    let _ ← op mark
    reader
  else return []

/-- Takes a generic parameter and its default, if it has one. -/
def genericParam : TokenReader (GenericParam × List Token) := do
  let attributes ← g.attributes
  let ends := fun tokens => atOp "," tokens || atOp ">" tokens
  let tokens ← get
  if atLifetime tokens then
    let name ← lifetime
    return (.lifetime attributes name (← behind? ":" (lifetimeBounds ends)), [])
  else if atIdent tokens then
    let name ← ident
    let bounds ← behind? ":" (g.typeBounds fun rest => ends rest || atOp "=" rest)
    return (.type attributes name bounds, ← behind? "=" (g.typeTokens true))
  else if atWord "const" tokens then
    let _ ← keyword "const"
    let name ← ident
    let _ ← op ":"
    let type ← g.typeTokens true
    return (.const attributes name type, ← behind? "=" g.constant)
  else return (.type attributes (← do let _ ← keyword "_"; pure "_") [], [])

/-- Takes generic parameters in angle brackets, if there are any. -/
def genericParams : TokenReader (List (Listed (GenericParam × List Token))) := do
  if atOp "<" (← get) then
    let _ ← op "<"
    let params ← listUntil "," (atOp ">") g.genericParam
    let _ ← op ">"
    return params
  else return []

/-- The tokens of generic parameters with their defaults. -/
def genericTokens (params : List (Listed (GenericParam × List Token))) : List Token :=
  let item := fun (param : GenericParam × List Token) =>
    param.1.declaration ++ if param.2.isEmpty then [] else Token.op "=" ++ param.2
  if params.isEmpty then []
  else Token.op "<" ++ Listed.partitioned (·.1.isLifetime) item params ++ Token.op ">"

/-- The tokens start with what ends a list of conditions. -/
def atConditionsEnd (tokens : List Token) : Bool :=
  tokens.isEmpty || atGroup .brace tokens || atOp "," tokens || atOp ";" tokens ||
    atOp ":" tokens && !atOp "::" tokens || atOp "=" tokens

/-- Takes a condition on a lifetime or on a type. -/
def condition : TokenReader (List Token) := do
  let tokens ← get
  if atLifetime tokens && atOp ":" (tokens.drop 1) then
    return (← lifetime) ++ (← op ":") ++ (← lifetimeBounds atConditionsEnd)
  else
    return (← g.binder?) ++ (← g.typeTokens true) ++ (← op ":") ++ (← g.typeBounds atConditionsEnd)

/-- Takes the conditions after `where`, if there are any. -/
def conditions : TokenReader (List (Listed (List Token))) := do
  if atWord "where" (← get) then
    let _ ← keyword "where"
    chain "," atConditionsEnd g.condition
  else return []

/-- The tokens of conditions. -/
def conditionTokens (conditions : List (Listed (List Token))) : List Token :=
  if conditions.isEmpty then [] else Token.ident "where" ++ Listed.tokens "," id conditions

/-! ## Structures, enumerations and unions -/

/-- Takes a field with a name. -/
def namedField : TokenReader (List Token) := do
  let lead := (← g.attributeTokens) ++ (← visibility)
  let name ← if atWord "_" (← get) then word else ident
  return lead ++ Token.ident name ++ (← op ":") ++ (← g.typeTokens true)

/-- Takes a field that is known by its position. -/
def positionField : TokenReader (List Token) := do
  return (← g.attributeTokens) ++ (← visibility) ++ (← g.typeTokens true)

/-- Takes fields with names in braces. -/
def namedFields : TokenReader (List Token) :=
  grouped .brace (commaTokens g.namedField)

/-- Takes fields without names in parentheses. -/
def positionFields : TokenReader (List Token) :=
  grouped .parenthesis (commaTokens g.positionField)

/-- Takes a variant of an enumeration. How far it can be seen is not kept. -/
def variant : TokenReader (List Token) := do
  let attributes ← g.attributeTokens
  let _ ← visibility
  let name ← ident
  let tokens ← get
  let fields ←
    if atGroup .brace tokens then g.namedFields
    else if atGroup .parenthesis tokens then g.positionFields
    else pure []
  let number ←
    if atOp "=" (← get) then pure ((← op "=") ++ (← g.expressionTokens true)) else pure []
  return attributes ++ Token.ident name ++ fields ++ number

/-- Takes what follows the generic parameters of a structure: its conditions, and the tokens of all
of it. Conditions of a structure whose fields have no names come behind the fields. -/
def structureBody : TokenReader (List (Listed (List Token)) × List Token) := do
  let early := atWord "where" (← get)
  let before ← g.conditions
  let tokens ← get
  if !early && atGroup .parenthesis tokens then
    let fields ← g.positionFields
    let behind ← g.conditions
    return (behind, fields ++ conditionTokens behind ++ (← op ";"))
  else if atGroup .brace tokens then
    return (before, conditionTokens before ++ (← g.namedFields))
  else return (before, conditionTokens before ++ (← op ";"))

/-- Takes conditions and a body in braces. -/
def bodyInBraces (content : TokenReader (List Token)) :
    TokenReader (List (Listed (List Token)) × List Token) := do
  let conditions ← g.conditions
  return (conditions, conditionTokens conditions ++ (← grouped .brace content))

/-- Takes a structure, an enumeration or a union behind its attributes, and gives its tokens too. -/
def dataItem (attributes : List Attribute) : TokenReader (Item × List Token) := do
  let lead := attributes.flatMap Attribute.tokens ++ (← visibility)
  let kind ← word
  let name ← ident
  let params ← g.genericParams
  let (conditions, body) ←
    if kind = "struct" then g.structureBody
    else if kind = "enum" then g.bodyInBraces (commaTokens g.variant)
    else if kind = "union" then g.bodyInBraces (commaTokens g.namedField)
    else failure
  let generics := {
    params := params.map fun param => ⟨param.value.1, param.separated⟩
    predicates := conditions.map Listed.value
  }
  return (⟨attributes, name, generics⟩,
    lead ++ Token.ident kind ++ Token.ident name ++ genericTokens params ++ body)

/-! ## Other items -/

/-- Takes the receiver of a method. -/
def receiver : TokenReader (List Token) := do
  let reference ← if atOp "&" (← get) then pure ((← op "&") ++ (← lifetime?)) else pure []
  let self := (← keyword? "mut") ++ (← keyword "self")
  if atOp ":" (← get) then return reference ++ self ++ (← op ":") ++ (← g.typeTokens true)
  else return reference ++ self

/-- Takes a parameter of a function. -/
def functionInput : TokenReader (List Token) := do
  let attributes ← g.attributeTokens
  if atOp "..." (← get) then return attributes ++ (← op "...")
  else
    let typed : TokenReader (List Token) := do
      return (← g.pattern).tokens ++ (← op ":") ++ (← g.typeTokens true)
    return attributes ++ (← g.receiver <|> typed)

/-- Takes a function. -/
def function : TokenReader (List Token) := do
  let modifiers := (← keyword? "const") ++ (← keyword? "async") ++ (← keyword? "unsafe") ++
    (← convention?)
  let head := modifiers ++ (← keyword "fn") ++ Token.ident (← ident) ++
    genericTokens (← g.genericParams)
  let inputs ← grouped .parenthesis (commaTokens g.functionInput)
  let result ← g.resultTokens true
  let conditions := conditionTokens (← g.conditions)
  return head ++ inputs ++ result ++ conditions ++ (← g.block true)

/-- Takes a constant or a global. -/
def global : TokenReader (List Token) := do
  let kind ←
    if atWord "const" (← get) then keyword "const"
    else pure ((← keyword "static") ++ (← keyword? "mut"))
  let name ← if atWord "_" (← get) then word else ident
  let type := (← op ":") ++ (← g.typeTokens true)
  let value ←
    if atOp "=" (← get) then pure ((← op "=") ++ (← g.expressionTokens true)) else pure []
  return kind ++ Token.ident name ++ type ++ value ++ (← op ";")

/-- Takes a name for a type. -/
def typeAlias : TokenReader (List Token) := do
  let head := (← keyword "type") ++ Token.ident (← ident) ++ genericTokens (← g.genericParams)
  let conditions := conditionTokens (← g.conditions)
  return head ++ conditions ++ (← op "=") ++ (← g.typeTokens true) ++ (← op ";")

/-- Takes tokens as they are written, up to a semicolon or a brace. -/
def verbatimItem : TokenReader (List Token) := do
  let isEnd := fun tokens => atOp ";" tokens || atGroup .brace tokens
  let front ← repeatWhile (fun tokens => !tokens.isEmpty && !isEnd tokens) Reader.next
  return front ++ [← Reader.next]

/-- The tokens start with a function behind its visibility. -/
def atFunction (tokens : List Token) : Bool :=
  match tokens.dropWhile (fun
    | .word text => ["const", "async", "unsafe", "extern"].contains text
    | .literal _ => true
    | _ => false) with
  | .word text :: _ => text == "fn"
  | _ => false

/-- Takes an item behind its attributes. -/
def item (attributes : List Attribute) : TokenReader (List Token) := do
  let data : TokenReader (List Token) := do return (← g.dataItem attributes).2
  let other : TokenReader (List Token) := do
    let lead := attributes.flatMap Attribute.tokens ++ (← visibility)
    let tokens ← get
    if atFunction tokens then return lead ++ (← g.function)
    else if atAnyOf ["const", "static"] tokens then return lead ++ (← g.global)
    else if atWord "type" tokens then return lead ++ (← g.typeAlias)
    else if atAnyOf ["struct", "enum"] tokens then failure
    else return lead ++ (← verbatimItem)
  data <|> other

/-! ## Items among statements -/

/-- The tokens start with an item. -/
def atItem (tokens : List Token) : Bool :=
  let next := tokens.drop 1
  let behind := tokens.drop 2
  atAnyOf ["pub", "extern", "use", "fn", "mod", "type", "struct", "enum", "trait", "impl",
      "macro"] tokens ||
    atWord "crate" tokens && !atOp "::" next ||
    atWord "static" tokens && (atWord "mut" next || atIdent next) ||
    atWord "const" tokens &&
      !(atGroup .brace next || atWord "static" next || atWord "move" next || atOp "|" next ||
        atWord "async" next && !atAnyOf ["unsafe", "extern", "fn"] behind) ||
    atWord "unsafe" tokens && !atGroup .brace next ||
    atWord "async" tokens && atAnyOf ["unsafe", "extern", "fn"] next ||
    atWord "union" tokens && atIdent next ||
    atWord "auto" tokens && atWord "trait" next ||
    atWord "default" tokens && atAnyOf ["unsafe", "impl"] next

end Grammar

end Storytest.Source
