/-!
# Readers

A reader takes symbols from the front of a list and either gives a value and the rest of the list
or fails. Readers are a state monad over the symbols that are left, so `<|>` tries its second
reader where the first one started.
-/

namespace Storytest

/-- Reads a value from the front of a list of symbols. -/
abbrev Reader (σ α : Type) := StateT (List σ) Option α

namespace Reader

variable {σ α : Type}

/-- The next symbol, left in place. -/
def peek : Reader σ (Option σ) := do
  return (← get).head?

/-- Takes the next symbol. -/
def next : Reader σ σ := fun
  | [] => none
  | s :: rest => some (s, rest)

/-- Takes the next symbol if it satisfies the predicate. -/
def satisfy (p : σ → Bool) : Reader σ σ := fun
  | [] => none
  | s :: rest => if p s then some (s, rest) else none

/-- Takes the next symbol if it is this one. -/
def one [BEq σ] (s : σ) : Reader σ Unit := do
  let _ ← satisfy (· == s)

/-- Takes these symbols. -/
def all [BEq σ] : List σ → Reader σ Unit
  | [] => pure ()
  | s :: rest => do one s; all rest

/-- Takes the symbols up to the first that fails the predicate. -/
def takeWhile (p : σ → Bool) : Reader σ (List σ) := fun input =>
  some (input.takeWhile p, input.dropWhile p)

/-- Takes at least one symbol, up to the first that fails the predicate. -/
def takeWhile1 (p : σ → Bool) : Reader σ (List σ) := do
  let taken ← takeWhile p
  if taken.isEmpty then failure else return taken

/-- Succeeds only when nothing is left. -/
def atEnd : Reader σ Unit := do
  if (← get).isEmpty then pure () else failure

/-- Says whether the symbol comes next, and takes it if so. -/
def optional [BEq σ] (s : σ) : Reader σ Bool := fun
  | [] => some (false, [])
  | t :: rest => if t == s then some (true, rest) else some (false, t :: rest)

/-- What the reader makes of the whole list, nothing left over. -/
def whole (reader : Reader σ α) (input : List σ) : Option α :=
  match reader input with
  | some (value, []) => some value
  | _ => none

theorem bind_of_eq_some {β : Type} {first : Reader σ α} {next : α → Reader σ β}
    {input left : List σ} {value : α} (h : first input = some (value, left)) :
    (first >>= next) input = next value left := by
  change (first input).bind _ = _
  rw [h]
  rfl

theorem bind_eq_some_iff {β : Type} {first : Reader σ α} {next : α → Reader σ β}
    {input left : List σ} {value : β} : (first >>= next) input = some (value, left) ↔
      ∃ found rest, first input = some (found, rest) ∧ next found rest = some (value, left) := by
  change (first input).bind _ = _ ↔ _
  rw [Option.bind_eq_some_iff, Prod.exists]

theorem one_cons [BEq σ] [LawfulBEq σ] (s : σ) (rest : List σ) :
    one s (s :: rest) = some ((), rest) := by
  have h : satisfy (· == s) (s :: rest) = some (s, rest) := if_pos (beq_self_eq_true s)
  exact bind_of_eq_some h

theorem takeWhile_append_cons {p : σ → Bool} {run : List σ} {stop : σ}
    (hrun : ∀ s ∈ run, p s = true) (hstop : ¬p stop = true) (rest : List σ) :
    takeWhile p (run ++ stop :: rest) = some (run, stop :: rest) := by
  rw [takeWhile, List.takeWhile_append_of_pos hrun, List.dropWhile_append_of_pos hrun,
    List.takeWhile_cons_of_neg hstop, List.dropWhile_cons_of_neg hstop, List.append_nil]

end Reader

end Storytest
