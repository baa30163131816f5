import Storytest.Arguments
import Storytest.Signature

/-!
# Typed parameters

A parameter of a typed body: an optional name and the way its argument is passed. Types are left
abstract, because a parameter is looked at both while a body runs, where it has run-time types,
and in source text, where its types are text.
-/

namespace Storytest

/-- How the argument of a parameter is passed. -/
inductive ParamKind (τ : Type) where
  /-- As a value of the type. -/
  | required (ty : τ)
  /-- As a value of the type, or as nothing. -/
  | optional (ty : τ)
  /-- As a value of any one of the types. -/
  | oneOf (types : List τ)
  deriving DecidableEq, Repr

/-- A parameter of a typed body. -/
structure Param (τ : Type) where
  name : Option String
  kind : ParamKind τ
  deriving DecidableEq, Repr

namespace Param

variable {τ : Type}

/-- The types the parameter accepts, in order. -/
def accepted (param : Param τ) : List τ :=
  match param.kind with
  | .required ty | .optional ty => [ty]
  | .oneOf types => types

/-- What errors call the parameter. -/
def label (param : Param τ) : String :=
  param.name.getD "_"

/-- The parameter as the signature declares it. -/
def spec (param : Param Ty) : ParamSpec :=
  ⟨param.name, param.accepted⟩

/-- The read that fetches the argument. -/
def read (param : Param Ty) : Read :=
  match param.kind with
  | .required ty => .required ty
  | .optional ty => .optional ty
  | .oneOf _ => .anything

/-- An unnamed parameter of a type, as closures declare it that tell only their types. -/
def ofType (ty : Ty) : Param Ty :=
  ⟨none, .required ty⟩

end Param

end Storytest
