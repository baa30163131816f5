import Storytest.Source.Grammar.Type
import Storytest.Source.Literal

/-!
# Reading patterns
-/

namespace Storytest.Source

open TokenReader

namespace Grammar

variable (g : Grammar)

/-! ## Ranges -/

/-- The tokens start with what ends a range that has no upper end. -/
def atRangeEnd (tokens : List Token) : Bool :=
  tokens.isEmpty || atOp "|" tokens || atOp "=" tokens ||
    atOp ":" tokens && !atOp "::" tokens || atOp "," tokens || atOp ";" tokens || atWord "if" tokens

/-- Takes an end of a range in a pattern: a literal, a path or a constant block. -/
def rangeEnd : TokenReader (List Token) := do
  let tokens ← get
  if atLiteral tokens then literal
  else if atPath tokens || atOp "<" tokens then return (← g.path true).tokens
  else return (← keyword "const") ++ (← g.block true)

/-- Takes the marks between the ends of a range, and says whether the upper end belongs to it. The
older `...` is written as `..=`. -/
def rangeMarks : TokenReader (List Token × Bool) := do
  if atOp "..=" (← get) then return (← op "..=", true)
  else if atOp "..." (← get) then
    let _ ← op "..."
    return (Token.op "..=", true)
  else return (← op "..", false)

/-- Takes the rest of a range behind its lower end. -/
def rangeFrom (lower : List Token) : TokenReader Pattern := do
  let (marks, inclusive) ← rangeMarks
  if atRangeEnd (← get) then
    if inclusive then failure else return .halfRange (lower ++ marks)
  else return .other (lower ++ marks ++ (← g.rangeEnd))

/-- Takes a range without a lower end, or the two points that stand for the rest of a list. -/
def rangeTo : TokenReader Pattern := do
  let inclusive := atOp "..=" (← get)
  let marks ← if inclusive then op "..=" else op ".."
  if atRangeEnd (← get) then
    if inclusive then failure else return .other marks
  else return .halfRange (marks ++ (← g.rangeEnd))

/-- Takes a constant, or a range that starts with one. -/
def constantOrRange : TokenReader Pattern := do
  let lower ← g.rangeEnd
  if atOp ".." (← get) then g.rangeFrom lower else return .other lower

/-! ## Parts -/

/-- Takes a name with what stands in front of it and the pattern behind it. -/
def bindingPattern : TokenReader Pattern := do
  let modifiers := (← keyword? "ref") ++ (← keyword? "mut")
  let name ← if atWord "self" (← get) then word else ident
  if atOp "@" (← get) then
    let at_ ← op "@"
    return .binding modifiers name (at_ ++ (← g.pattern).tokens)
  else return .binding modifiers name []

/-- Takes the name of a member, and says whether it is a word; otherwise it is a position. -/
def member : TokenReader (List Token × Bool) := do
  match ← Reader.peek with
  | some (.literal text) =>
    match Lexeme.position? text with
    | some position =>
      let _ ← Reader.next
      return ([.literal (toString position)], false)
    | none => failure
  | _ => return (Token.ident (← ident), true)

/-- Takes a pattern for a field of a structure. -/
def fieldPattern : TokenReader (List Token) := do
  let attributes ← g.attributeTokens
  if atOp ".." (← get) then
    let points ← op ".."
    if (← get).isEmpty then return attributes ++ points else failure
  else
    let modifiers := (← keyword? "box") ++ (← keyword? "ref") ++ (← keyword? "mut")
    let (name, isWord) ← member
    if !modifiers.isEmpty && !isWord then failure
    else if modifiers.isEmpty && (!isWord || atOp ":" (← get)) then
      return attributes ++ name ++ (← op ":") ++ (← g.alternativeTokens)
    else return attributes ++ modifiers ++ name

/-- Takes an item of a slice; a range with one end needs parentheses there. -/
def slicePattern : TokenReader (List Token) := do
  match ← g.alternative with
  | .halfRange _ => failure
  | pattern => return pattern.tokens

/-- Takes a pattern that starts with a path. -/
def patternOfPath : TokenReader Pattern := do
  let path ← g.path true
  let tokens ← get
  if path.isPlain && atMacroCall tokens then return .other (path.tokens ++ (← macroCall))
  else if atGroup .brace tokens then
    return .other (path.tokens ++ (← grouped .brace (commaTokens g.fieldPattern)))
  else if atGroup .parenthesis tokens then
    return .other (path.tokens ++ (← grouped .parenthesis (commaTokens g.alternativeTokens)))
  else if atOp ".." tokens then g.rangeFrom path.tokens
  else return .other path.tokens

/-! ## Patterns -/

/-- The tokens start with a pattern that starts with a path and is no binding. -/
def atPatternOfPath (tokens : List Token) : Bool :=
  let next := tokens.drop 1
  atIdent tokens && (atOp "::" next || atOp "!" next || atGroup .brace next ||
      atGroup .parenthesis next || atOp ".." next) ||
    atWord "self" tokens && atOp "::" next || atOp "::" tokens || atOp "<" tokens ||
    atAnyOf ["Self", "super", "crate"] tokens

/-- Takes a pattern without alternatives. -/
def readPattern : TokenReader Pattern := do
  let tokens ← get
  if atPatternOfPath tokens then g.patternOfPath
  else if atWord "_" tokens then return .other (← keyword "_")
  else if atWord "box" tokens then return .other ((← keyword "box") ++ (← g.pattern).tokens)
  else if atOp "-" tokens || atLiteral tokens || atWord "const" tokens then g.constantOrRange
  else if atAnyOf ["ref", "mut", "self"] tokens || atIdent tokens then g.bindingPattern
  else if atOp "&" tokens then
    return .other ((← op "&") ++ (← keyword? "mut") ++ (← g.pattern).tokens)
  else if atGroup .parenthesis tokens then
    return .other (← grouped .parenthesis (commaTokens g.alternativeTokens))
  else if atGroup .bracket tokens then
    return .other (← grouped .bracket (commaTokens g.slicePattern))
  else if atOp ".." tokens && !atOp "..." tokens then g.rangeTo
  else failure

end Grammar

end Storytest.Source
