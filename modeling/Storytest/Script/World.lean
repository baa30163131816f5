import Storytest.Auth
import Storytest.Step

/-!
# The world of scripted callbacks

Scripted callbacks put what they were called with on record, in call order. The record, and the
facades that were swapped for their doubles, are the state that they share.
-/

namespace Storytest.Script

/-- What a callback was given for one of its arguments. -/
inductive Binding where
  | value (value : Value)
  | absent
  /-- The number of arguments left, where a callback asked for it. -/
  | count (number : Nat)

namespace Binding

/-- A value that may be absent. -/
def ofOption : Option Value → Binding
  | some found => .value found
  | none => .absent

/-- The value that was given. -/
def value? : Binding → Option Value
  | .value found => some found
  | _ => none

end Binding

/-- A call on record. -/
inductive Record where
  /-- A step, with its label and the arguments it saw. -/
  | step (label : String) (bindings : List Binding)
  /-- A provider, with what it was asked to authenticate. -/
  | provider (name : String) (principal : Value) (abilities : List String)
      (guard : Option String)

/-- The shared state of scripted callbacks. -/
structure World where
  records : List Record
  activated : List String

namespace World

/-- Nothing on record. -/
def empty : World := ⟨[], []⟩

/-- Puts a call on record. -/
def record (world : World) (record : Record) : World :=
  { world with records := world.records ++ [record] }

/-- Notes that a facade was swapped. -/
def activate (world : World) (facade : String) : World :=
  { world with activated := world.activated ++ [facade] }

/-- How often a facade was swapped. -/
def activations (world : World) (facade : String) : Nat :=
  world.activated.count facade

end World

end Storytest.Script
