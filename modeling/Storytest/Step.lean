import Storytest.Output
import Storytest.Param

/-!
# Steps

A step is a callback together with the signature that the resolver reads. Callbacks work on a
state `σ` that all steps of a run share: it is handed from one call to the next in call order.
`Step.typed` makes a step from a body with typed parameters, which reads its arguments in order of
declaration and runs only when every read succeeds.
-/

namespace Storytest

/-- Why a call did not return: it failed, or something in it panicked. -/
inductive Halt where
  | failed (failure : Failure)
  | panicked (message : String)

/-- A callback and what is known about its parameters. -/
structure Step (σ : Type) where
  signature : Signature
  call : Arguments → σ → Except Halt (Option Value) × σ

/-- A body with typed parameters: one binding for each, absent where an optional argument is. It
returns a value or panics with a message. -/
abbrev Body (σ : Type) := List (Option Value) → σ → Except String Output × σ

namespace Step

variable {σ : Type}

/-- How a step is shown: by its signature. -/
def display (step : Step σ) : String :=
  "Step \x7b signature: " ++ step.signature.display ++ ", .. \x7d"

/-- Runs the callback on resolved arguments. -/
def invoke (step : Step σ) (arguments : List Value) (world : σ) :
    Except Halt (Option Value) × σ :=
  step.call (Arguments.ofList arguments) world

/-- What a body's completion amounts to. -/
def settle : Except String Output → Except Halt (Option Value)
  | .ok output => output.produce.mapError .failed
  | .error message => .error (.panicked message)

/-- The reads of a list of parameters. -/
def reads (params : List (Param Ty)) : List (Read × String) :=
  params.map fun param => (param.read, param.label)

/-- The step that reads one argument for each parameter and then runs the body. -/
def typed (params : List (Param Ty)) (body : Body σ) : Step σ where
  signature := .described (params.map Param.spec)
  call args world :=
    match args.readAll (reads params) with
    | .error failure => (.error (.failed failure), world)
    | .ok bindings =>
      let (completion, after) := body bindings world
      (settle completion, after)

/-- The step of a closure of which only the parameter types are known. -/
def ofTypes (types : List Ty) (body : Body σ) : Step σ :=
  typed (types.map Param.ofType) body

/-- The step that declares nothing and so is given no arguments. -/
def undescribed (call : Arguments → σ → Except Halt (Option Value) × σ) : Step σ :=
  ⟨.opaqueCall, call⟩

end Step

end Storytest
