import Storytest.Source.Grammar.Attribute

/-!
# Reading paths

A path is a list of words with `::` between them, each of which may have arguments: in angle
brackets, or in parentheses like a function's. A path may be qualified by a type in front.
-/

namespace Storytest.Source

open TokenReader

/-- The arguments of a word in a path. -/
inductive PathArguments where
  | none
  /-- In angle brackets. The first argument is set apart if it is a type. -/
  | angled (opening : List Token) (argument : Option TypeText) (closing : List Token)
  /-- In parentheses, with the type of the result. -/
  | called (tokens : List Token)

namespace PathArguments

/-- The tokens of the arguments. -/
def tokens : PathArguments → List Token
  | none => []
  | angled opening argument closing => opening ++ (argument.map TypeText.tokens).getD [] ++ closing
  | called tokens => tokens

/-- There are no arguments. -/
def isNone : PathArguments → Bool
  | none => true
  | angled .. | called _ => false

end PathArguments

/-- A word of a path with its arguments. -/
structure PathSegment where
  name : String
  arguments : PathArguments

namespace PathSegment

/-- The tokens of a word with its arguments. -/
def tokens (segment : PathSegment) : List Token :=
  Token.ident segment.name ++ segment.arguments.tokens

end PathSegment

/-- A path that was read. -/
structure ReadPath where
  /-- The tokens of the type in front, if the path is qualified by one. -/
  qualifier : List Token
  /-- The path starts with `::`, after its qualifier if it has one. -/
  absolute : Bool
  /-- The words before the last one. -/
  front : List PathSegment
  last : PathSegment

namespace ReadPath

/-- The tokens before the last word. -/
def head (path : ReadPath) : List Token :=
  path.qualifier ++ (if path.absolute then Token.op "::" else []) ++
    path.front.flatMap fun segment => segment.tokens ++ Token.op "::"

/-- The tokens of a path. -/
def tokens (path : ReadPath) : List Token :=
  path.head ++ path.last.tokens

/-- The path consists of words alone. -/
def isPlain (path : ReadPath) : Bool :=
  path.qualifier.isEmpty && path.front.all (·.arguments.isNone) && path.last.arguments.isNone

/-- The path as a type. -/
def type (path : ReadPath) : ReadType :=
  if !path.qualifier.isEmpty then ⟨.other path.tokens, .other⟩
  else
    match path.last.arguments with
    | .called _ => ⟨.other path.tokens, .path⟩
    | .none => ⟨.other path.tokens, form⟩
    | .angled _ none _ => ⟨.other path.tokens, form⟩
    | .angled opening (some argument) closing =>
      ⟨.applied path.head path.last.name opening argument closing, form⟩
where
  /-- How the path is written. -/
  form : TypeForm := if path.absolute || !path.front.isEmpty then .path else .name

/-- The path with other arguments for its last word. -/
def apply (path : ReadPath) (arguments : PathArguments) : ReadPath :=
  { path with last := { path.last with arguments := arguments } }

/-- The path with one more word. -/
def extend (path : ReadPath) (segment : PathSegment) : ReadPath :=
  { path with front := path.front ++ [path.last], last := segment }

end ReadPath

/-- An argument in angle brackets. -/
inductive GenericArgument where
  | lifetime (tokens : List Token)
  | type (text : TypeText)
  | other (tokens : List Token)

namespace GenericArgument

/-- The argument is a lifetime. -/
def isLifetime : GenericArgument → Bool
  | lifetime _ => true
  | type _ | other _ => false

/-- The tokens of an argument. -/
def tokens : GenericArgument → List Token
  | lifetime tokens | other tokens => tokens
  | type text => text.tokens

/-- Arguments in angle brackets, lifetimes first, after the tokens in front of the bracket. -/
def enclose (lead : List Token) (arguments : List (Listed GenericArgument)) : PathArguments :=
  let lifetimes := arguments.filter (·.value.isLifetime)
  let rest := arguments.filter (!·.value.isLifetime)
  let opening := lead ++ Token.op "<" ++ Listed.tokens "," tokens lifetimes ++
    Listed.glue lifetimes rest
  let split := fun (shown : List (Listed GenericArgument)) =>
    Listed.tokens "," tokens shown ++ Token.op ">"
  match arguments.head?, rest with
  | some ⟨.type text, separated⟩, _ :: more =>
    .angled opening (some text) ((if separated then Token.op "," else []) ++ split more)
  | _, _ => .angled (opening ++ split rest) none []

end GenericArgument

namespace Grammar

variable (g : Grammar)

/-! ## Arguments -/

/-- Takes a constant that stands as an argument. -/
def constant : TokenReader (List Token) := do
  if atLiteral (← get) then literal
  else if atIdent (← get) then return Token.ident (← ident)
  else g.block true

/-- Takes the lifetimes that a bound or a closure is generic in, if there are any. -/
def binder? : TokenReader (List Token) := do
  if atWord "for" (← get) then
    let opening := (← keyword "for") ++ (← op "<")
    let names ← listUntil "," (atOp ">") do return (← g.attributeTokens) ++ (← lifetime)
    return opening ++ Listed.tokens "," id names ++ (← op ">")
  else return []

/-- Takes an arrow and the type of a result, if they come next. -/
def result? (sums : Bool) : TokenReader (Option (List Token × TypeForm)) := do
  if atOp "->" (← get) then
    let arrow ← op "->"
    let type ← g.type sums
    return some (arrow ++ type.tokens, type.form)
  else return none

/-- Takes an arrow and the type of a result, if they come next, and gives their tokens. -/
def resultTokens (sums : Bool) : TokenReader (List Token) := do
  return ((← g.result? sums).map Prod.fst).getD []

/-- Takes arguments in parentheses, and says whether the path may go on behind them: only where the
result is not written or stands in parentheses. -/
def calledArguments : TokenReader (PathArguments × Bool) := do
  let inputs ← grouped .parenthesis (commaTokens (g.typeTokens true))
  match ← g.result? false with
  | none => return (.called inputs, true)
  | some (output, form) => return (.called (inputs ++ output), form = .parenthesized)


/-- Takes an argument in angle brackets. -/
def genericArgument : TokenReader GenericArgument := do
  let isConstant := fun tokens => atLiteral tokens || atGroup .brace tokens
  let tokens ← get
  if atLifetime tokens && !atOp "+" (tokens.drop 1) then return .lifetime (← lifetime)
  else if isConstant tokens then return .other (← g.constant)
  else
    let type ← g.type true
    if type.form = .name && atOp "=" (← get) then
      let equals ← op "="
      let value ← if isConstant (← get) then g.constant else g.typeTokens true
      return .other (type.tokens ++ equals ++ value)
    else if type.form = .name && atOp ":" (← get) then
      let colon ← op ":"
      let bounds ← chain "+" (fun rest => atOp "," rest || atOp ">" rest) (g.bound false)
      return .other (type.tokens ++ colon ++ Listed.tokens "+" Bound.tokens bounds)
    else return .type type.text

/-- Takes arguments in angle brackets, with `::` in front or not. -/
def angledArguments : TokenReader PathArguments := do
  let lead ← op? "::"
  let _ ← op "<"
  let arguments ← listUntil "," (atOp ">") g.genericArgument
  let _ ← op ">"
  return GenericArgument.enclose lead arguments

/-! ## Paths -/

/-- Takes a word of a path with its arguments in angle brackets. In an expression they need `::` in
front. -/
def pathSegment (inExpression : Bool) : TokenReader PathSegment := do
  if atAnyOf ["super", "self", "crate", "try"] (← get) then return ⟨← word, .none⟩
  else
    let name ← if atWord "Self" (← get) then word else ident
    let tokens ← get
    if !inExpression && atOp "<" tokens && !atOp "<=" tokens ||
        atOp "::" tokens && atOp "<" (tokens.drop 2) then
      return ⟨name, ← g.angledArguments⟩
    else return ⟨name, .none⟩

/-- Takes more words of a path; `::` in front of parentheses belongs to what follows. -/
def pathRest (inExpression : Bool) (path : ReadPath) : TokenReader ReadPath := do
  let more := fun tokens => atOp "::" tokens && !atGroup .parenthesis (tokens.drop 2)
  let segments ← repeatWhile more do
    let _ ← op "::"
    g.pathSegment inExpression
  return segments.foldl ReadPath.extend path

/-- Takes a path that is not qualified. -/
def plainPath (inExpression : Bool) : TokenReader ReadPath := do
  let absolute ← op? "::"
  let first ← g.pathSegment inExpression
  g.pathRest inExpression ⟨[], !absolute.isEmpty, [], first⟩

/-- Takes a path, qualified or not. -/
def path (inExpression : Bool) : TokenReader ReadPath := do
  if atOp "<" (← get) then
    let opening ← op "<"
    let self ← g.typeTokens true
    let trait_ ←
      if atWord "as" (← get) then
        let as_ ← keyword "as"
        pure (as_ ++ (← g.plainPath false).tokens)
      else pure []
    let closing ← op ">"
    let _ ← op "::"
    let first ← g.pathSegment inExpression
    let segments ← repeatWhile (atOp "::") do
      let _ ← op "::"
      g.pathSegment inExpression
    return segments.foldl ReadPath.extend ⟨opening ++ self ++ trait_ ++ closing, true, [], first⟩
  else g.plainPath inExpression

/-- The tokens start with arguments in parentheses, with `::` in front or not. -/
def atCalled (tokens : List Token) : Bool :=
  atGroup .parenthesis tokens || atOp "::" tokens && atGroup .parenthesis (tokens.drop 2)

/-- Takes arguments in parentheses for the last word of a path, and goes on with the path where it
may, at most so many times. -/
def applyUpTo (path : ReadPath) : Nat → TokenReader ReadPath
  | 0 => return path
  | count + 1 => do
    if path.last.arguments.isNone && atCalled (← get) then
      let _ ← op? "::"
      let (arguments, goesOn) ← g.calledArguments
      let applied := path.apply arguments
      if goesOn then applyUpTo (← g.pathRest false applied) count else return applied
    else return path

/-- Takes the path of a type. -/
def typePath : TokenReader ReadPath := do
  let path ← g.path false
  applyUpTo g path (← get).length

/-! ## Bounds -/

/-- Takes the path of a trait, with what it is generic in. -/
def traitBound : TokenReader (List Token) := do
  let before ← g.binder?
  let relaxed ← op? "?"
  let behind ← if before.isEmpty && !relaxed.isEmpty then g.binder? else pure []
  let path ← g.plainPath false
  let path ←
    if path.last.arguments.isNone && atCalled (← get) then
      let _ ← op? "::"
      pure (path.apply (← g.calledArguments).1)
    else pure path
  return relaxed ++ before ++ behind ++ path.tokens

/-- Takes a lifetime, a trait, or a list of what is captured where that is allowed. -/
def readBound (captures : Bool) : TokenReader Bound := do
  let tokens ← get
  if atLifetime tokens then return ⟨← lifetime, false⟩
  else if captures && atWord "use" tokens then
    let opening := (← keyword "use") ++ (← op "<")
    let names ← listUntil "," (atOp ">") do
      if atLifetime (← get) then lifetime
      else if atWord "Self" (← get) then keyword "Self"
      else return Token.ident (← ident)
    return ⟨opening ++ Listed.tokens "," id names ++ (← op ">"), false⟩
  else if atGroup .parenthesis tokens then return ⟨← grouped .parenthesis g.traitBound, true⟩
  else return ⟨← g.traitBound, true⟩

/-- The tokens start with a bound. -/
def atBound (tokens : List Token) : Bool :=
  atAnyWord tokens || atOp "::" tokens || atOp "?" tokens || atLifetime tokens ||
    atGroup .parenthesis tokens

/-- Takes more bounds after a plus sign if one comes next: their tokens, and whether one of them is
a trait's. A plus sign may come last. -/
def moreBounds (captures : Bool) : TokenReader (List Token × Bool) := do
  if atOp "+" (← get) then
    let plus ← op "+"
    let bounds ← chain "+" (fun rest => !atBound rest) (g.bound captures)
    return (plus ++ Listed.tokens "+" Bound.tokens bounds, bounds.any (·.value.isTrait))
  else return ([], false)

/-- Takes a sum of bounds of which one at least is a trait's; a single bound unless sums are
allowed. -/
def bounds (sums captures : Bool) : TokenReader (List Token) := do
  let first ← g.bound captures
  let (more, hasTrait) ← if sums then g.moreBounds captures else pure ([], false)
  if first.isTrait || hasTrait then return first.tokens ++ more else failure

end Grammar

end Storytest.Source
