import Storytest.Source.Attribute
import Storytest.Source.Grammar.Basic

/-!
# Reading attributes
-/

namespace Storytest.Source

open TokenReader

namespace Grammar

variable (g : Grammar)

/-! ## Words alone -/

/-- The tokens start with a word that a path may consist of. -/
def atPathWord (tokens : List Token) : Bool :=
  atIdent tokens || atAnyOf ["super", "self", "Self", "crate"] tokens

/-- Takes a path of words alone: whether it starts with `::`, and its words. -/
def words : TokenReader (Bool × List String) := do
  let absolute ← op? "::"
  let word : TokenReader String := do
    if atPathWord (← get) then TokenReader.word else failure
  let first ← word
  let more ← repeatWhile (atOp "::") do
    let _ ← op "::"
    word
  return (!absolute.isEmpty, first :: more)

/-- Takes a path of words alone and gives its tokens. -/
def wordTokens : TokenReader (List Token) := do
  let (absolute, names) ← words
  return (if absolute then Token.op "::" else []) ++
    Token.separated (Token.op "::") (names.map Token.ident)

/-! ## Attributes -/

/-- Takes the path of an attribute; `unsafe` may stand for one. -/
def attributePath : TokenReader (Bool × List String) := do
  if atWord "unsafe" (← get) then return (false, [← word]) else words

/-- Takes what is given with an attribute. -/
def attributeInput : TokenReader AttributeInput := do
  match ← Reader.peek with
  | some (.group delimiter content) =>
    let _ ← Reader.next
    return .arguments delimiter content
  | _ =>
    if atOp "=" (← get) then
      let _ ← op "="
      if atOp "#" (← get) then failure
      return .value (← g.expressionTokens true)
    else return .nothing

/-- Takes an attribute without its brackets. -/
def attributeContent : TokenReader Attribute := do
  let (absolute, names) ← attributePath
  return ⟨absolute, names, ← g.attributeInput⟩

/-- Takes the attributes in front of something. -/
def attributes : TokenReader (List Attribute) := do
  repeatWhile (atOp "#") do
    let _ ← op "#"
    inside .bracket g.attributeContent

/-- Takes the attributes in front of something and gives their tokens. -/
def attributeTokens : TokenReader (List Token) := do
  return (← g.attributes).flatMap Attribute.tokens

/-- Takes the attributes that a block has for itself, and gives their tokens. -/
def innerAttributeTokens : TokenReader (List Token) := do
  let found ← repeatWhile (fun tokens => atOp "#" tokens && atOp "!" (tokens.drop 1)) do
    let lead := (← op "#") ++ (← op "!")
    return lead ++ Token.brackets (← inside .bracket g.attributeContent).content
  return found.flatten

end Grammar

end Storytest.Source
