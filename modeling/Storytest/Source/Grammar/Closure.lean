import Storytest.Source.Closure
import Storytest.Source.Grammar.Operator

/-!
# Reading closures
-/

namespace Storytest.Source

open TokenReader

namespace Grammar

variable (g : Grammar)

/-- Takes a parameter of a closure. -/
def closureParam : TokenReader ClosureParam := do
  let attributes ← g.attributes
  let pattern ← g.pattern
  if atOp ":" (← get) then
    let _ ← op ":"
    return ⟨attributes, pattern, some (← g.type true).text⟩
  else return ⟨attributes, pattern, none⟩

/-- Takes the result and the body of a closure. A body after a written result is a block. -/
def closureBody (structures : Bool) : TokenReader (List Token × List Token) := do
  if atOp "->" (← get) then
    let result ← g.resultTokens true
    return (result, ← g.block false)
  else return ([], ← g.expressionTokens structures)

/-- Takes a closure. -/
def closure (structures : Bool) : TokenReader Closure := do
  let binder ← g.binder?
  let modifiers := (← keyword? "const") ++ (← keyword? "static") ++ (← keyword? "async") ++
    (← keyword? "move")
  let _ ← op "|"
  let params ← listUntil "," (atOp "|") g.closureParam
  let _ ← op "|"
  let (result, body) ← g.closureBody structures
  return {
    modifiers := binder ++ modifiers
    params := params.map Listed.value
    openEnded := (params.getLast?.map Listed.separated).getD false
    result := result
    body := body
  }

end Grammar

end Storytest.Source
