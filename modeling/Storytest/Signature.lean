import Storytest.Text.Quoted
import Storytest.Value

/-!
# Signatures

What a step tells the resolver about itself: the parameters it declares, each with an optional
name and the types it accepts, or nothing at all.
-/

namespace Storytest

/-- A declared parameter. -/
structure ParamSpec where
  name : Option String
  accepts : List Ty
  deriving DecidableEq, Repr, Inhabited

namespace ParamSpec

/-- The parameter accepts values of the type. -/
def admits (spec : ParamSpec) (ty : Ty) : Bool :=
  ty ∈ spec.accepts

/-- How a parameter is shown. -/
def display (spec : ParamSpec) : String :=
  "ParamSpec \x7b name: " ++ Text.quoteOption spec.name ++ ", accepts: [" ++
    ", ".intercalate (spec.accepts.map Ty.display) ++ "] \x7d"

end ParamSpec

/-- What a step declares: a list of parameters, or nothing that could be known. -/
inductive Signature where
  | described (params : List ParamSpec)
  | opaqueCall
  deriving DecidableEq, Repr, Inhabited

namespace Signature

/-- How a signature is shown. -/
def display : Signature → String
  | .described params => "Described([" ++ ", ".intercalate (params.map ParamSpec.display) ++ "])"
  | .opaqueCall => "Opaque"

/-- The signature that declares no parameter. -/
def empty : Signature := .described []

/-- Appends a parameter; the unknown signature becomes a described one. -/
def param : Signature → ParamSpec → Signature
  | .described params, spec => .described (params ++ [spec])
  | .opaqueCall, spec => .described [spec]

/-- The declared parameters, when there are any to be known. -/
def params? : Signature → Option (List ParamSpec)
  | .described params => some params
  | .opaqueCall => none

end Signature

end Storytest
