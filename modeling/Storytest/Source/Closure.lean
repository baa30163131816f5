import Storytest.Source.Attribute
import Storytest.Source.Pattern
import Storytest.Source.Reader
import Storytest.Source.TypeText

/-!
# Closures in source text

A closure has parameters, each with attributes, a pattern and perhaps a type, and a body. What
stands before the parameters and after them is only passed on.
-/

namespace Storytest.Source

/-- A parameter of a closure. -/
structure ClosureParam where
  attributes : List Attribute
  pattern : Pattern
  type : Option TypeText
  deriving Inhabited

namespace ClosureParam

/-- The tokens of a parameter. -/
def tokens (param : ClosureParam) : List Token :=
  param.attributes.flatMap Attribute.tokens ++ param.pattern.tokens ++
    match param.type with
    | some type => Token.op ":" ++ type.tokens
    | none => []

end ClosureParam

/-- A closure. -/
structure Closure where
  /-- What stands before the parameters, such as `move`. -/
  modifiers : List Token
  params : List ClosureParam
  /-- A comma follows the last parameter. -/
  openEnded : Bool
  /-- The arrow and the type of the result, if they are written. -/
  result : List Token
  body : List Token
  deriving Inhabited

namespace Closure

/-- The tokens of the parameters between the bars. -/
def paramTokens (closure : Closure) : List Token :=
  Token.separated (Token.op ",") (closure.params.map ClosureParam.tokens) ++
    if closure.openEnded then Token.op "," else []

/-- The tokens of a closure. -/
def tokens (closure : Closure) : List Token :=
  closure.modifiers ++ Token.op "|" ++ closure.paramTokens ++ Token.op "|" ++ closure.result ++
    closure.body

end Closure

end Storytest.Source
