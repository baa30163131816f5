import Storytest.Failure.Basic

/-!
# What a step returns

A body returns a value, or a result that holds a further return value or an error. Nothing is
stored for the unit value and for an absent option; an option that is present is opened once, and
a value that is already typed is stored as it is. Everything else is stored as itself.
-/

namespace Storytest

/-- What a step's body returns. -/
inductive Output where
  /-- A value of any type. -/
  | plain (value : Value)
  /-- A result that succeeded. -/
  | ok (output : Output)
  /-- A result that failed. -/
  | err (cause : Cause)

namespace Ty

/-- The type of the values in an option. -/
def optional? : Ty → Option Ty
  | .named home name [item] =>
    if name = "Option" ∧ home = Ty.home "Option" then some item else none
  | _ => none

/-- The type of what a result holds when it succeeded. -/
def success? : Ty → Option Ty
  | .named home name [item, _] =>
    if name = "Result" ∧ home = Ty.home "Result" then some item else none
  | _ => none

end Ty

namespace Value

/-- The typed value inside a value of the type of typed values. -/
def opened (value : Value) : Value :=
  match value.datum with
  | .nested ty content => ⟨ty, content⟩
  | _ => value

/-- What is stored for a returned value. -/
def stored? (value : Value) : Option Value :=
  match value.ty.optional? with
  | some item =>
    match value.datum with
    | .present content => some ⟨item, content⟩
    | _ => none
  | none =>
    if value.ty = .tuple [] then none
    else if value.ty = type then some value.opened
    else some value

end Value

namespace Output

/-- The type of errors that are only a text; it can not be named. -/
def textError : Ty := .named ["std", "error"] "StringError" []

/-- The return value that is this value: results are opened, all the way down. -/
def ofValue (ty : Ty) : Datum → Output
  | .success content =>
    match ty.success? with
    | some inner => .ok (ofValue inner content)
    | none => .plain ⟨ty, .success content⟩
  | .failure message =>
    match ty.success? with
    | some _ => .err (.plain textError message)
    | none => .plain ⟨ty, .failure message⟩
  | datum => .plain ⟨ty, datum⟩

/-- What a return value produces: a value to store, nothing, or a failed step. -/
def produce : Output → Except Failure (Option Value)
  | .plain value => .ok value.stored?
  | .ok output => output.produce
  | .err cause => .error (.step cause)

end Output

end Storytest
