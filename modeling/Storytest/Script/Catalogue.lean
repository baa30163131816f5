import Storytest.Script.Step

/-!
# A catalogue of closures

Closures with declared parameters, by name. They cover every way of passing an argument and every
kind of pattern: a closure shows the variables that its patterns bind, so a wildcard shows nothing
and a tuple shows its items.
-/

namespace Storytest.Script

/-- A closure with declared parameters: what it shows of its bindings, and what it returns where
that does not depend on the script. -/
structure Closure where
  params : List (Param Ty)
  shown : List (Option Value) → List Binding
  fixed : Option (List Binding → Except String Output)

namespace Closure

/-! ## Parameters and patterns -/

/-- A type of the standard library without arguments. -/
def ty (name : String) : Ty := Ty.standard name []

/-- A parameter that must be there. -/
def need (name : String) (ty : Ty) : Param Ty := ⟨some name, .required ty⟩

/-- A parameter that may be absent. -/
def want (name : String) (ty : Ty) : Param Ty := ⟨some name, .optional ty⟩

/-- A parameter that takes any of the types. -/
def union (name : String) (types : List Ty) : Param Ty := ⟨some name, .oneOf types⟩

/-- A parameter whose pattern is no identifier. -/
def unnamed (ty : Ty) : Param Ty := ⟨none, .required ty⟩

/-- A closure that shows its bindings as they are. -/
def plain (params : List (Param Ty)) : Closure :=
  ⟨params, List.map Binding.ofOption, none⟩

/-- A closure with one parameter whose value is shown by its parts. -/
def parts (param : Param Ty) (split : Value → List Value) : Closure :=
  ⟨[param], fun bindings => (bindings.filterMap id).flatMap fun value => (split value).map .value,
    none⟩

/-- A closure that shows nothing of its bindings. -/
def silent (param : Param Ty) : Closure :=
  ⟨[param], fun _ => [], none⟩

/-- A closure that shows what is inside its bindings. -/
def opening (params : List (Param Ty)) : Closure :=
  ⟨params, List.map fun binding => .ofOption (binding.map Value.opened), none⟩

/-- The items of a pair of integers. -/
def pairItems (value : Value) : List Value :=
  match value.datum with
  | .sequence items => items.map fun item => ⟨int32, item⟩
  | _ => []

/-- The value one above an integer. -/
def successor (value : Value) : Value :=
  ⟨int32, .integer (wrap32 (integerOf value.datum + 1))⟩

/-- What `block` returns for an integer: an error for a negative one, nothing for zero, and else
the integer below. -/
def countdown (bindings : List Binding) : Except String Output :=
  let number := ((bindings.filterMap Binding.value?).map fun value => integerOf value.datum).headD 0
  if number < 0 then .ok (.err (Cause.insufficientFunds (-number)))
  else if number = 0 then .ok (.ok (.plain ⟨optionOf int32, .absent⟩))
  else .ok (.ok (.plain ⟨optionOf int32, .present (.integer (number - 1))⟩))

/-! ## The catalogue -/

/-- The closures by name. -/
def catalogue : List (String × Closure) :=
  let i32 := int32
  let u32 := ty "u32"
  let u64 := ty "u64"
  let wrapper := programType "Wrapper" [int32]
  [("zero", plain []),
    ("a_b2", plain [need "a" i32, need "b2" i32]),
    ("sum", plain [need "a" i32, need "b" i32]),
    ("total", plain [need "total" u64]),
    ("balance_amount", plain [need "balance" u32, need "amount" u32]),
    ("name_limit", plain [need "name" string, want "limit" u32]),
    ("limit_name", plain [want "limit" u32, need "name" string]),
    ("missing_name", plain [need "missing" u64, need "name" string]),
    ("optionals", plain [want "x" i32, want "y" string, want "z" (ty "bool")]),
    ("nested_option", plain [want "o" (optionOf i32)]),
    ("union", plain [union "id" [u64, string]]),
    ("union_reversed", plain [union "id" [string, u64]]),
    ("union_one", silent ⟨none, .oneOf [ty "bool"]⟩),
    ("union_count", plain [union "id" [u64, string], need "count" u32]),
    ("untyped_value", opening [need "inner" Value.type]),
    ("optional_value", opening [want "inner" Value.type]),
    ("wild", silent (unnamed string)),
    ("wild_then",
      ⟨[unnamed (ty "bool"), need "n" i32], fun bindings => (bindings.drop 1).map .ofOption, none⟩),
    ("tuple_pattern", parts (unnamed (.tuple [i32, i32])) pairItems),
    ("struct_pattern",
      parts (unnamed (programType "Invoice" [])) fun value => [⟨u64, value.datum⟩]),
    ("mut_binding", parts (need "n" i32) fun value => [successor value]),
    ("at_binding", plain [need "whole" i32]),
    ("raw_ident", plain [need "r#type" string]),
    ("user", plain [need "user" (.named ["billing"] "User" [])]),
    ("user_text", plain [need "user" string]),
    ("staff", plain [need "user" (.named ["staff"] "User" [])]),
    ("response", plain [need "response" string]),
    ("response_i32", plain [need "response" i32]),
    ("generics",
      plain [need "items" (Ty.standard "Vec" [string]),
        need "ledger" (Ty.standard "BTreeMap" [string, ty "i64"]), need "w" wrapper]),
    ("seven",
      plain [need "a" (ty "i8"), need "b2" (ty "i16"), need "c" i32, need "d" (ty "i64"),
        need "e" (ty "u8"), need "f" (ty "u16"), need "g" u32]),
    ("same_twice", plain [need "first" i32, need "second" i32, want "third" i32]),
    ("block", { plain [need "n" i32] with fixed := some countdown })]

/-- The closure of a name. -/
def find? (name : String) : Option Closure :=
  catalogue.lookup name

/-- The step of a closure with a label and what it is scripted to return. -/
def step (closure : Closure) (label : String) (returned : Return) : Step World :=
  Step.typed closure.params (body label closure.shown (closure.fixed.getD returned.output))

end Closure

end Storytest.Script
