import Storytest.Table.Assoc

/-!
# Recorders

Call logs and counters that several names share: whatever is recorded under one name is seen under
all names that share the recorder. `get?_update_self` says what is then seen under the name itself.
-/

namespace Storytest

/-- Recorders, each with the names that share it. A name belongs to the first recorder that lists
it. -/
abbrev Recorders (α : Type) := List (List String × α)

namespace Recorders

variable {α : Type}

/-- What is recorded under a name. -/
def get? (recorders : Recorders α) (name : String) : Option α :=
  match recorders with
  | [] => none
  | (names, content) :: rest => if name ∈ names then some content else get? rest name

/-- Changes what is recorded under a name, and so under all names that share it. -/
def update (recorders : Recorders α) (name : String) (change : α → α) : Recorders α :=
  match recorders with
  | [] => []
  | (names, content) :: rest =>
    if name ∈ names then (names, change content) :: rest
    else (names, content) :: update rest name change

/-- Takes a name away from its recorder. -/
def release (recorders : Recorders α) (name : String) : Recorders α :=
  recorders.map fun recorder => (recorder.1.filter (· ≠ name), recorder.2)

/-- Gives a name a recorder of its own. -/
def fresh (recorders : Recorders α) (name : String) (content : α) : Recorders α :=
  recorders.release name ++ [([name], content)]

/-- Lets a name share the recorder of another. -/
def share (recorders : Recorders α) (source name : String) : Recorders α :=
  if source = name then recorders
  else
    (recorders.release name).map fun recorder =>
      if source ∈ recorder.1 then (recorder.1 ++ [name], recorder.2) else recorder

/-- The names that share the recorder of a name. -/
def sharers (recorders : Recorders α) (name : String) : List String :=
  match recorders with
  | [] => []
  | (names, _) :: rest => if name ∈ names then names else sharers rest name

theorem get?_update_self (recorders : Recorders α) (name : String) (change : α → α) :
    (recorders.update name change).get? name = (recorders.get? name).map change := by
  induction recorders with
  | nil => rfl
  | cons recorder rest ih =>
    obtain ⟨names, content⟩ := recorder
    by_cases h : name ∈ names <;> simp [update, get?, h, ih]

end Recorders

/-- The variables of an environment, by name. -/
abbrev Environment := List (String × String)

/-- Runs something in an environment with more variables set, one after the other, and gives back
the environment as it was. -/
def Environment.within {α : Type} (environment : Environment) (assignments : List (String × String))
    (run : Environment → α) : α × Environment :=
  (run (assignments.foldl (fun inner entry => Assoc.put inner entry.1 entry.2) environment),
    environment)

end Storytest
