import Storytest.Source.Grammar.Statement
import Storytest.Source.Lexer

/-!
# Reading source text

The grammar of a depth reads what nests at most that deep. A text cannot nest deeper than it is
long, so reading with a depth computed from the text reads it in full.
-/

namespace Storytest.Source

namespace Grammar

/-- The grammar that reads nothing. -/
def empty : Grammar where
  type _ := failure
  bound _ := failure
  pattern := failure
  expression _ := failure
  bounded := failure
  operand _ := failure
  block _ := failure

/-- The grammar that reads what it holds with another one. -/
def deepen (g : Grammar) : Grammar where
  type := g.readType
  bound := g.readBound
  pattern := g.readPattern
  expression := g.readExpression
  bounded := g.readBounded
  operand := g.readOperand
  block := g.readBlock

/-- The grammar of a depth. -/
def ofDepth : Nat → Grammar
  | 0 => empty
  | depth + 1 => (ofDepth depth).deepen

/-- The grammar that reads any of these tokens in full. -/
def reading (tokens : List Token) : Grammar :=
  ofDepth (4 * Token.sizeAll tokens + 4)

end Grammar

/-- What a reader makes of all the tokens, nothing left over. -/
def readAll? {α : Type} (reader : Grammar → TokenReader α) (tokens : List Token) : Option α :=
  Reader.whole (reader (.reading tokens)) tokens

/-- The type that tokens write. -/
def TypeText.ofTokens? (tokens : List Token) : Option TypeText :=
  readAll? (fun g => ReadType.text <$> g.type true) tokens

/-- The type that a text writes. -/
def TypeText.ofText? (text : String) : Option TypeText := do
  TypeText.ofTokens? (← tokens? text)

/-- The types that tokens write with commas between them. -/
def TypeText.listOfTokens? (tokens : List Token) : Option (List TypeText) :=
  readAll? (fun g => (·.map fun item => item.value.text) <$> TokenReader.commaList (g.type true))
    tokens

/-- The closure that tokens write. -/
def Closure.ofTokens? (tokens : List Token) : Option Closure :=
  readAll? (fun g => g.closure true) tokens

/-- The item that tokens write. -/
def Item.ofTokens? (tokens : List Token) : Option Item :=
  readAll? (fun g => do
    let attributes ← g.attributes
    return (← g.dataItem attributes).1) tokens

/-- The tokens of the path that a text writes, in their normal form. -/
def pathOfText? (text : String) : Option (List Token) := do
  readAll? (fun g => ReadPath.tokens <$> g.plainPath false) (← tokens? text)

end Storytest.Source
