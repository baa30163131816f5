import Storytest.Expansion.Fault
import Storytest.Param
import Storytest.Source.Grammar.Depth

/-!
# Expansion of a closure to a step

A closure with typed parameters is expanded to a call that constructs a step. The call holds the
closure itself, a signature with one declaration per parameter, and a wrapper that reads one
argument per parameter and hands them to the closure. Declarations and reads are made from the same
`Param`, in the order of the parameters.
-/

namespace Storytest.Expansion

open Source

/-! ## Parameters -/

/-- The attribute declares a union. -/
def isUnion (attr : Attribute) : Bool := attr.isNamed "one_of"

/-- The types that the attribute of a union lists. -/
def unionTypes (attr : Attribute) : Except Fault (List TypeText) :=
  match attr.input with
  | .arguments _ content =>
    match TypeText.listOfTokens? content with
    | none => .error .malformed
    | some [] => .error .emptyUnion
    | some types => .ok types
  | .nothing | .value _ => .error .malformed

/-- How the argument of a parameter is passed: as a union where an attribute says so, as an option
where the type is one, and else as a value of its type. -/
def kindOf (attributes : List Attribute) (type : TypeText) :
    Except Fault (ParamKind TypeText) :=
  match attributes.find? isUnion with
  | some attr => ParamKind.oneOf <$> unionTypes attr
  | none =>
    match type.optionInner? with
    | some inner => .ok (.optional inner)
    | none => .ok (.required type)

/-- The parameter that a parameter of a closure declares. It has a name where its pattern binds the
whole argument. -/
def declared (param : ClosureParam) : Except Fault (Param TypeText) :=
  match param.type with
  | none => .error .untyped
  | some type => (kindOf param.attributes type).map fun kind => ⟨param.pattern.name?, kind⟩

/-- A parameter of a closure without the attribute that declares a union. -/
def withoutUnion (param : ClosureParam) : ClosureParam :=
  { param with attributes := param.attributes.eraseP isUnion }

/-! ## Code -/

/-- The path of a name that generated code takes from the library. -/
def libraryPath (names : List String) : List Token :=
  Token.rooted ("gwt_scenario" :: names)

/-- A type as the argument of a generic function. -/
def turbofish (type : TypeText) : List Token :=
  Token.op "::" ++ Token.op "<" ++ type.tokens ++ Token.op ">"

/-- A declaration in the signature that is generated. -/
structure SpecCode where
  name : Option String
  accepted : List TypeText

namespace SpecCode

/-- The declaration of a parameter. -/
def ofParam (param : Param TypeText) : SpecCode := ⟨param.name, param.accepted⟩

/-- The code of a declaration. -/
def tokens (spec : SpecCode) : List Token :=
  let base := match spec.name with
    | some name => libraryPath ["ParamSpec", "named"] ++ Token.parens (Token.quoted name)
    | none => libraryPath ["ParamSpec", "unnamed"] ++ Token.parens []
  base ++ spec.accepted.flatMap fun type =>
    Token.op "." ++ Token.ident "accepts" ++ turbofish type ++ Token.parens []

end SpecCode

/-- How generated code reads an argument. -/
inductive ReadMethod where
  | required (type : TypeText)
  | optional (type : TypeText)
  | value

namespace ReadMethod

/-- The method that reads an argument of a kind. -/
def ofKind : ParamKind TypeText → ReadMethod
  | .required type => required type
  | .optional type => optional type
  | .oneOf _ => value

/-- The code of the method's name. -/
def tokens : ReadMethod → List Token
  | required type => Token.ident "required" ++ turbofish type
  | optional type => Token.ident "optional" ++ turbofish type
  | value => Token.ident "value"

end ReadMethod

/-- A read in the wrapper that is generated. -/
structure ReadCode where
  /-- What the argument is bound to. -/
  binding : String
  method : ReadMethod
  /-- What errors call the parameter. -/
  label : String

namespace ReadCode

/-- The read of a parameter. -/
def ofParam (binding : String) (param : Param TypeText) : ReadCode :=
  ⟨binding, .ofKind param.kind, param.label⟩

/-- The code of a read. -/
def tokens (read : ReadCode) : List Token :=
  Token.ident "let" ++ Token.ident read.binding ++ Token.op "=" ++ Token.ident "__gwt_args" ++
    Token.op "." ++ read.method.tokens ++ Token.parens (Token.quoted read.label) ++
    Token.op "?" ++ Token.op ";"

end ReadCode

/-- What the argument at a position is bound to. -/
def binding (position : Nat) : String := "__gwt_arg" ++ toString position

/-- A call that constructs a step from a closure. -/
structure StepCall where
  closure : Closure
  params : List (Param TypeText)

namespace StepCall

/-- The declarations of the signature. -/
def specs (call : StepCall) : List SpecCode :=
  call.params.map SpecCode.ofParam

/-- The reads of the wrapper. -/
def reads (call : StepCall) : List ReadCode :=
  call.params.mapIdx fun position param => ReadCode.ofParam (binding position) param

/-- What the closure is called with. -/
def arguments (call : StepCall) : List String :=
  call.reads.map ReadCode.binding

/-- The attribute of the closure's variable, which may be mutable without need. -/
def allowance : List Token :=
  Token.op "#" ++ Token.brackets (Token.ident "allow" ++ Token.parens
    (Token.ident "unused_mut" ++ Token.op "," ++ Token.ident "reason" ++ Token.op "=" ++
      Token.quoted "Fn closures are also called through FnMut"))

/-- The signature. -/
def signatureTokens (call : StepCall) : List Token :=
  libraryPath ["Signature", "Described"] ++ Token.parens
    (Token.rooted ["std", "vec"] ++ Token.op "!" ++
      Token.brackets (Token.separated (Token.op ",") (call.specs.map SpecCode.tokens)))

/-- The wrapper. -/
def wrapperTokens (call : StepCall) : List Token :=
  Token.ident "move" ++ Token.op "|" ++ Token.ident "__gwt_args" ++ Token.op ":" ++ Token.op "&" ++
    Token.ident "mut" ++ libraryPath ["Args"] ++ Token.op "|" ++
    Token.braces (call.reads.flatMap ReadCode.tokens ++
      libraryPath ["StepOutput", "into_output"] ++
      Token.parens (Token.ident "__gwt_call" ++
        Token.parens (Token.separated (Token.op ",") (call.arguments.map Token.ident))))

/-- The code of the call. -/
def tokens (call : StepCall) : List Token :=
  Token.braces
    (allowance ++ Token.ident "let" ++ Token.ident "mut" ++ Token.ident "__gwt_call" ++
      Token.op "=" ++ call.closure.tokens ++ Token.op ";" ++ libraryPath ["Step", "new"] ++
      Token.parens (call.signatureTokens ++ Token.op "," ++ call.wrapperTokens ++ Token.op ","))

/-- The call that a closure expands to. The first parameter at fault decides the fault. -/
def ofClosure (closure : Closure) : Except Fault StepCall := do
  let params ← closure.params.mapM declared
  return ⟨{ closure with params := closure.params.map withoutUnion }, params⟩

/-- The call that source text of a closure expands to. -/
def ofText (text : String) : Except Fault StepCall := do
  ofClosure (← Fault.malformed.orElse ((tokens? text).bind Closure.ofTokens?))

end StepCall

end Storytest.Expansion
