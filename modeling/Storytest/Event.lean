import Storytest.Text.Quoted
import Storytest.Value

/-!
# Events

What the library reports while it works, as data. `level`, `message` and `fields` say how each
event is written; a field that has no value is left out.
-/

namespace Storytest

/-- The stage of a scenario that a step belongs to. -/
inductive Phase where
  | condition
  | action
  | assertion
  deriving DecidableEq, Repr

/-- How a phase is called. -/
def Phase.name : Phase → String
  | .condition => "condition"
  | .action => "action"
  | .assertion => "assertion"

/-- Something the library reports. -/
inductive Event where
  /-- A step declares nothing, so no argument is injected. -/
  | undescribed
  /-- A parameter takes the value under its name. -/
  | injectedByName (parameter : Option String)
  /-- A parameter takes a value of a type it accepts. -/
  | injectedByType (parameter : Option String) (key : String) (ty : Ty)
  /-- A parameter matches nothing and is left out. -/
  | omitted (position : Nat) (parameter : Option String)
  /-- A registered step is about to run. -/
  | evaluating (phase : Phase) (key : Option String) (arguments : Nat)
  /-- The assertion is about to run. -/
  | asserting (arguments : Nat)
  /-- A value without a key takes the place of another of its type. -/
  | overwritten (key : String)
  /-- A literal condition is stored; its type is told where its key was given. -/
  | literalStored (key : String) (ty : Option Ty)
  /-- A facade swaps itself for its test double. -/
  | fakeActivated (facade : String)
  /-- A principal is registered. -/
  | actingAs (key : String) (guard : Option String) (abilities : Nat)
  /-- Suite settings passed validation. -/
  | validated (provider guard : Option String)
  /-- A scenario failed as expected. -/
  | failureObserved (expected error : String)
  deriving DecidableEq, Repr

namespace Event

/-- How important an event is. -/
inductive Level where
  | trace
  | debug
  | warn
  deriving DecidableEq, Repr

/-- How a level is called. -/
def Level.name : Level → String
  | .trace => "TRACE"
  | .debug => "DEBUG"
  | .warn => "WARN"

/-- The level of an event. -/
def level : Event → Level
  | .undescribed | .injectedByName _ | .injectedByType .. | .omitted .. => .trace
  | .overwritten _ => .warn
  | _ => .debug

/-- What an event says. -/
def message : Event → String
  | .undescribed => "signature is opaque; injecting no arguments"
  | .injectedByName _ => "injecting by name"
  | .injectedByType .. => "injecting by type"
  | .omitted .. => "no stored value matches; omitting"
  | .evaluating .. | .asserting _ => "evaluating step"
  | .overwritten _ => "inferred key overwrites an existing value"
  | .literalStored .. => "storing literal condition"
  | .fakeActivated _ => "activating fake"
  | .actingAs .. => "acting as principal"
  | .validated .. => "scenario configuration validated"
  | .failureObserved .. => "expected failure observed"

/-- A field that is there only when it has a value. -/
def field? (name : String) (value : Option String) : List (String × String) :=
  (value.map fun text => (name, text)).toList

/-- The fields of an event, by name. -/
def fields : Event → List (String × String)
  | .undescribed => []
  | .injectedByName parameter => [("parameter", Text.quoteOption parameter)]
  | .injectedByType parameter key ty =>
    [("parameter", Text.quoteOption parameter), ("key", key), ("ty", ty.shortName)]
  | .omitted position parameter =>
    [("position", toString position), ("parameter", Text.quoteOption parameter)]
  | .evaluating phase key arguments =>
    [("phase", phase.name), ("key", key.getD "<unkeyed>"), ("arguments", toString arguments)]
  | .asserting arguments =>
    [("phase", Phase.assertion.name), ("arguments", toString arguments)]
  | .overwritten key => [("key", key)]
  | .literalStored key ty => ("key", key) :: field? "ty" (ty.map Ty.shortName)
  | .fakeActivated facade => [("facade", facade)]
  | .actingAs key guard abilities =>
    ("key", key) :: field? "guard" guard ++ [("abilities", toString abilities)]
  | .validated provider guard => field? "provider" provider ++ field? "guard" guard
  | .failureObserved expected error => [("expected", expected), ("error", error)]

end Event

end Storytest
