import Storytest.Event
import Storytest.Signature
import Storytest.Store.Descending

/-!
# Parameter injection

Every declared parameter is resolved on its own. The value under its name is taken whatever its
type; failing that, the value of an accepted type that comes last in descending order, which is the
one with the smallest key; failing that, the parameter is left out of the arguments. Values are
matched by being there: zero, false and empty ones are injected like all others.
-/

namespace Storytest

/-- How a parameter was resolved. -/
inductive Match where
  | byName (value : Value)
  | byType (key : String) (value : Value)
  | none

namespace Match

/-- The value that was found. -/
def value? : Match → Option Value
  | .byName value | .byType _ value => some value
  | .none => Option.none

/-- What is reported about a match for the parameter at a position. -/
def event (position : Nat) (spec : ParamSpec) : Match → Event
  | .byName _ => .injectedByName spec.name
  | .byType key value => .injectedByType spec.name key value.ty
  | .none => .omitted position spec.name

end Match

namespace ParamSpec

/-- The value stored under the parameter's name. -/
def named? (spec : ParamSpec) (store : Store) : Option Value :=
  spec.name.bind store.get?

/-- The last entry in descending order whose type the parameter accepts. -/
def smallest? (spec : ParamSpec) (store : Store) : Option (String × Value) :=
  (store.descending.filter fun entry => spec.admits entry.2.ty).getLast?

/-- Finds the value for a parameter. -/
def find (spec : ParamSpec) (store : Store) : Match :=
  match spec.named? store with
  | some value => .byName value
  | none =>
    match spec.smallest? store with
    | some (key, value) => .byType key value
    | none => .none

/-- The value for a parameter, if there is one. -/
def resolve (spec : ParamSpec) (store : Store) : Option Value :=
  (spec.find store).value?

end ParamSpec

namespace Signature

/-- The arguments that a store provides: one for every parameter that is resolved, in order of
declaration. -/
def arguments (signature : Signature) (store : Store) : List Value :=
  match signature with
  | .described params => params.filterMap fun spec => spec.resolve store
  | .opaqueCall => []

/-- What is reported about parameters, the first of which is at the position. -/
def eventsFrom (store : Store) (position : Nat) : List ParamSpec → List Event
  | [] => []
  | spec :: rest => (spec.find store).event position spec :: eventsFrom store (position + 1) rest

/-- What is reported while a signature is resolved. -/
def events (signature : Signature) (store : Store) : List Event :=
  match signature with
  | .described params => eventsFrom store 0 params
  | .opaqueCall => [.undescribed]

end Signature

end Storytest
