import Storytest.Script.Cause
import Storytest.Script.World

/-!
# Return values as data

What a scripted step returns, written in terms of the arguments it put on record.
-/

namespace Storytest.Script

/-- The 32-bit integer that an integer wraps around to. -/
def wrap32 (value : Int) : Int :=
  value.bmod 0x100000000

/-- The integer in a datum; nothing else counts. -/
def integerOf : Datum → Int
  | .integer value => value
  | _ => 0

/-- The text in a datum: texts and characters as they are, numbers by their digits. -/
def textOf? : Datum → Option String
  | .text value => some value
  | .character value => some value.toString
  | .integer value => some (toString value)
  | .float bits => some (toString bits)
  | _ => none

/-- A value in terms of the recorded arguments. -/
inductive Term where
  | literal (value : Value)
  /-- The argument at a place. -/
  | argument (index : Nat)
  /-- The wrapped sum of the arguments at these places. -/
  | sum (indices : List Nat)
  /-- The texts of the arguments at these places, with hyphens between them. -/
  | join (indices : List Nat)

/-- The data of the arguments at these places; places beyond the last argument are skipped. -/
def pick (bindings : List Binding) (indices : List Nat) : List Datum :=
  indices.filterMap fun index => (bindings[index]?.bind Binding.value?).map Value.datum

/-- The value of a term. -/
def Term.value (bindings : List Binding) : Term → Value
  | .literal value => value
  | .argument index => (bindings[index]?.bind Binding.value?).getD ⟨.tuple [], .unit⟩
  | .sum indices =>
    ⟨int32, .integer (((pick bindings indices).map integerOf).foldl (fun a b => wrap32 (a + b)) 0)⟩
  | .join indices => ⟨string, .text ("-".intercalate ((pick bindings indices).filterMap textOf?))⟩

/-- What a scripted step returns. -/
inductive Return where
  | nothing
  /-- A value of its own type. -/
  | plain (term : Term)
  /-- A typed value that holds the value. -/
  | value (term : Term)
  /-- An option that is present. -/
  | some (term : Term)
  /-- An absent option of the type. -/
  | none (ty : Ty)
  | ok (inner : Return)
  | err (cause : Storytest.Cause)
  /-- Panics with a message instead of returning. -/
  | panic (message : String)

/-- An optional value of the type. -/
def optionOf (ty : Ty) : Ty := Ty.standard "Option" [ty]

/-- Computes what is returned, or the message of the panic on the way. -/
def Return.output (bindings : List Binding) : Return → Except String Output
  | .nothing => .ok (.plain ⟨.tuple [], .unit⟩)
  | .plain term =>
    let value := term.value bindings
    .ok (.ofValue value.ty value.datum)
  | .value term => .ok (.plain (term.value bindings).nest)
  | .some term =>
    let value := term.value bindings
    .ok (.plain ⟨optionOf value.ty, .present value.datum⟩)
  | .none ty => .ok (.plain ⟨optionOf ty, .absent⟩)
  | .ok inner => (inner.output bindings).map .ok
  | .err cause => .ok (.err cause)
  | .panic message => .error message

end Storytest.Script
