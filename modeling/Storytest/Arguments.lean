import Storytest.Failure.Basic

/-!
# Arguments

`Arguments` is the cursor by which a step reads what was resolved for it. A read looks at the next
value, consumes it whether or not its type fits, and moves the position on, so positions in errors
count reads and not values.
-/

namespace Storytest

/-- Resolved values, and the number of reads made so far. -/
structure Arguments where
  values : List Value
  position : Nat

namespace Arguments

/-- The values before the first read. -/
def ofList (values : List Value) : Arguments :=
  ⟨values, 0⟩

/-- The number of values not yet read. -/
def remaining (args : Arguments) : Nat :=
  args.values.length

/-- The cursor after one more read. -/
def advance (args : Arguments) : Arguments :=
  ⟨args.values.drop 1, args.position + 1⟩

end Arguments

/-- One way of reading an argument. -/
inductive Read where
  /-- A value of the type must be there. -/
  | required (ty : Ty)
  /-- A value of the type, or nothing when no value is left. -/
  | optional (ty : Ty)
  /-- A value of any type must be there. -/
  | anything
  deriving DecidableEq, Repr

namespace Read

/-- The type that a read expects; a read of any value reports the type of values. -/
def expected : Read → Ty
  | .required ty | .optional ty => ty
  | .anything => Value.type

/-- The read takes a value of the type. -/
def accepts : Read → Ty → Bool
  | .required ty, found | .optional ty, found => found = ty
  | .anything, _ => true

/-- Reads from the value at hand, if there is one, under a position and a parameter name. -/
def from? (read : Read) (position : Nat) (parameter : String) :
    Option Value → Except Failure (Option Value)
  | some found =>
    if read.accepts found.ty then .ok (some found)
    else .error (.argumentType position parameter read.expected.shortName found.ty.shortName)
  | none =>
    match read with
    | .optional _ => .ok none
    | _ => .error (.missingArgument position parameter read.expected.shortName)

end Read

namespace Arguments

/-- Makes one read: its outcome, and the cursor after it. -/
def read (args : Arguments) (read : Read) (parameter : String) :
    Except Failure (Option Value) × Arguments :=
  (read.from? args.position parameter args.values.head?, args.advance)

/-- Makes reads in order up to the first that fails. -/
def readAll (args : Arguments) : List (Read × String) → Except Failure (List (Option Value))
  | [] => .ok []
  | (read, parameter) :: rest =>
    match args.read read parameter with
    | (.error failure, _) => .error failure
    | (.ok found, next) => (next.readAll rest).map (found :: ·)

/-- Makes all reads, also those after one that failed; every outcome with the number of values then
left. -/
def readEach (args : Arguments) :
    List (Read × String) → List (Except Failure (Option Value) × Nat)
  | [] => []
  | (read, parameter) :: rest =>
    let (outcome, next) := args.read read parameter
    (outcome, next.remaining) :: next.readEach rest

end Arguments

end Storytest
