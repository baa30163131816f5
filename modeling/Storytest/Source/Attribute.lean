import Storytest.Source.Token

/-!
# Attributes

An attribute stands in front of a parameter or an item: a path of words and what is given with it.
Arguments in a delimiter are kept as they are written, because only the attribute's owner knows how
to read them.
-/

namespace Storytest.Source

/-- What is given with an attribute. -/
inductive AttributeInput where
  | nothing
  /-- Arguments in a delimiter, as they are written. -/
  | arguments (delimiter : Delimiter) (content : List Token)
  /-- A value after an equals sign. -/
  | value (tokens : List Token)
  deriving Inhabited

namespace AttributeInput

/-- The tokens of what is given with an attribute. -/
def tokens : AttributeInput → List Token
  | nothing => []
  | arguments delimiter content => [.group delimiter content]
  | value tokens => Token.op "=" ++ tokens

end AttributeInput

/-- An attribute. -/
structure Attribute where
  /-- The path starts with `::`. -/
  absolute : Bool
  path : List String
  input : AttributeInput
  deriving Inhabited

namespace Attribute

/-- The attribute's path is this one word. -/
def isNamed (name : String) (attr : Attribute) : Bool :=
  !attr.absolute && attr.path == [name]

/-- The attribute without its brackets. -/
def content (attr : Attribute) : List Token :=
  (if attr.absolute then Token.op "::" else []) ++
    Token.separated (Token.op "::") (attr.path.map Token.ident) ++ attr.input.tokens

/-- The tokens of an attribute in front of what it belongs to. -/
def tokens (attr : Attribute) : List Token :=
  Token.op "#" ++ Token.brackets attr.content

end Attribute

end Storytest.Source
