import Storytest.Expansion.Fault
import Storytest.Source.Grammar.Depth

/-!
# Expansion of an item to an output instance

An instance makes values of a type outputs of steps: the value itself is stored. Everything that the
instance takes from the library goes through one path, which the attribute `step_output` can set.
-/

namespace Storytest.Expansion

open Source

/-! ## The library's path -/

/-- Takes the path in front of a setting, in which keywords are allowed, and says whether it is
`crate`. -/
def settingKey : TokenReader Bool := do
  let absolute ← TokenReader.op? "::"
  let first ← TokenReader.word
  let more ← TokenReader.repeatWhile (atOp "::") do
    let _ ← TokenReader.op "::"
    TokenReader.word
  return absolute.isEmpty && first == "crate" && more.isEmpty

/-- Takes the value of a setting: the path that a text writes. -/
def settingValue : TokenReader (List Token) := do
  let _ ← TokenReader.op "="
  match ← Reader.next with
  | .literal text =>
    match (Lexeme.textValue? text).bind pathOfText? with
    | some path => return path
    | none => failure
  | _ => failure

/-- The paths that settings with commas between them set, at most so many. -/
def settingsUpTo : Nat → List Token → Except Fault (List (List Token))
  | 0, _ => .error .malformed
  | count + 1, tokens => do
    let (isPath, rest) ← Fault.malformed.orElse (settingKey tokens)
    if !isPath then throw .unknownKey
    let (path, rest) ← Fault.malformed.orElse (settingValue rest)
    if rest.isEmpty then return [path]
    let (_, rest) ← Fault.malformed.orElse (TokenReader.op "," rest)
    if rest.isEmpty then return [path]
    return path :: (← settingsUpTo count rest)

/-- The paths that an attribute sets, in order. -/
def pathsSet (attr : Attribute) : Except Fault (List (List Token)) :=
  match attr.input with
  | .arguments _ content =>
    if content.isEmpty then .ok [] else settingsUpTo content.length content
  | .nothing | .value _ => .error .malformed

/-- The attribute sets something of the instance. -/
def isSetting (attr : Attribute) : Bool := attr.isNamed "step_output"

/-- The library's own path. -/
def defaultPath : List Token := Token.rooted ["gwt_scenario"]

/-- The path that attributes set: the last one set, or the library's own. -/
def resolvePath (attributes : List Attribute) : Except Fault (List Token) := do
  let paths ← (attributes.filter isSetting).mapM pathsSet
  return paths.flatten.getLast?.getD defaultPath

/-! ## Code -/

/-- An instance for an item, with the library's path. -/
structure OutputInstance where
  path : List Token
  item : Item

namespace OutputInstance

/-- A name of the library. -/
def libraryName (inst : OutputInstance) (name : String) : List Token :=
  inst.path ++ Token.op "::" ++ Token.ident name

/-- A name of the core library. -/
def coreName (names : List String) : List Token :=
  Token.rooted ("core" :: names)

/-- The condition that values can be stored. -/
def storable : List Token :=
  Token.ident "Self" ++ Token.op ":" ++ [.lifetime "static"]

/-- The generic parameters and conditions of the instance. -/
def generics (inst : OutputInstance) : Generics :=
  inst.item.generics.require storable

/-- The type of the output. -/
def resultTokens (inst : OutputInstance) : List Token :=
  inst.libraryName "ScenarioResult" ++ Token.op "<" ++ coreName ["option", "Option"] ++
    Token.op "<" ++ inst.libraryName "Value" ++ Token.op ">>"

/-- The output: the value itself. -/
def outputTokens (inst : OutputInstance) : List Token :=
  coreName ["result", "Result", "Ok"] ++ Token.parens
    (coreName ["option", "Option", "Some"] ++ Token.parens
      (inst.libraryName "Value" ++ Token.op "::" ++ Token.ident "new" ++
        Token.parens (Token.ident "self")))

/-- The function of the instance. -/
def functionTokens (inst : OutputInstance) : List Token :=
  Token.ident "fn" ++ Token.ident "into_output" ++
    Token.parens (Token.ident "self" ++ Token.op ",") ++ Token.op "->" ++ inst.resultTokens ++
    Token.braces inst.outputTokens

/-- The code of the instance. -/
def tokens (inst : OutputInstance) : List Token :=
  Token.ident "impl" ++ inst.generics.declarations ++ inst.libraryName "StepOutput" ++
    Token.ident "for" ++ Token.ident inst.item.name ++ inst.generics.arguments ++
    inst.generics.conditions ++ Token.braces inst.functionTokens

/-- The instance for an item. -/
def ofItem (item : Item) : Except Fault OutputInstance := do
  return ⟨← resolvePath item.attributes, item⟩

/-- The instance for source text of an item. -/
def ofText (text : String) : Except Fault OutputInstance := do
  ofItem (← Fault.malformed.orElse ((tokens? text).bind Item.ofTokens?))

end OutputInstance

end Storytest.Expansion
