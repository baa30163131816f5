import Storytest.Script.Return

/-!
# Scripted steps

Steps whose callbacks are written as data: which arguments they read, what they put on record and
what they return.
-/

namespace Storytest.Script

/-- Something that a callback asks of its arguments. -/
inductive Reading where
  | read (read : Read) (parameter : String)
  /-- How many arguments are left. -/
  | remaining

/-- Makes the readings in order, up to the first that fails. -/
def perform (args : Arguments) : List Reading → Except Failure (List Binding)
  | [] => .ok []
  | .remaining :: rest => (perform args rest).map (.count args.remaining :: ·)
  | .read read parameter :: rest =>
    match args.read read parameter with
    | (.error failure, _) => .error failure
    | (.ok found, next) => (perform next rest).map (.ofOption found :: ·)

/-- What a scripted callback does once it has read its arguments: it puts itself on record, then
raises an error if it is to, and else returns. -/
structure Ending where
  label : String
  raised : Option Storytest.Cause
  returned : Return

/-- Carries out an ending. -/
def Ending.carryOut (ending : Ending) (bindings : List Binding) (world : World) :
    Except Halt (Option Value) × World :=
  (match ending.raised with
    | some cause => .error (.failed (Cause.raise cause))
    | none => Step.settle (ending.returned.output bindings),
    world.record (.step ending.label bindings))

/-- The callback that makes readings. -/
def callback (readings : List Reading) (ending : Ending) (args : Arguments) (world : World) :
    Except Halt (Option Value) × World :=
  match perform args readings with
  | .error failure => (.error (.failed failure), world)
  | .ok bindings => ending.carryOut bindings world

/-- A step with a signature of its own. -/
def step (signature : Signature) (readings : List Reading) (ending : Ending) : Step World :=
  ⟨signature, callback readings ending⟩

/-- The body that puts on record what it shows of its bindings. -/
def body (label : String) (shown : List (Option Value) → List Binding)
    (returned : List Binding → Except String Output) : Body World := fun bindings world =>
  (returned (shown bindings), world.record (.step label (shown bindings)))

/-- A closure of which only the parameter types are known. -/
def closure (types : List Ty) (label : String) (returned : Return) : Step World :=
  Step.ofTypes types (body label (List.map Binding.ofOption) returned.output)

end Storytest.Script
