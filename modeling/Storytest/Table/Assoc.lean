/-!
# Association lists in insertion order

`put` replaces the value of a key where it stands and appends a new key at the end. Main facts:
`keys_put` (a key keeps its first position), `get?_put` (the last value put is the one found), and
`nodup_put` (keys stay distinct).
-/

namespace Storytest.Assoc

variable {κ α : Type} [DecidableEq κ]

/-- The keys, in order. -/
def keys (entries : List (κ × α)) : List κ :=
  entries.map Prod.fst

/-- The value under a key. -/
def get? (entries : List (κ × α)) (key : κ) : Option α :=
  match entries with
  | [] => none
  | (k, value) :: rest => if k = key then some value else get? rest key

/-- Puts a value under a key: in place when the key is there, else at the end. -/
def put (entries : List (κ × α)) (key : κ) (value : α) : List (κ × α) :=
  match entries with
  | [] => [(key, value)]
  | (k, old) :: rest => if k = key then (key, value) :: rest else (k, old) :: put rest key value

/-- Puts a value under a key and gives the value that it takes the place of. -/
def exchange (entries : List (κ × α)) (key : κ) (value : α) : Option α × List (κ × α) :=
  match entries with
  | [] => (none, [(key, value)])
  | (k, old) :: rest =>
    if k = key then (some old, (key, value) :: rest)
    else
      let (replaced, changed) := exchange rest key value
      (replaced, (k, old) :: changed)

theorem exchange_eq (entries : List (κ × α)) (key : κ) (value : α) :
    exchange entries key value = (get? entries key, put entries key value) := by
  induction entries with
  | nil => rfl
  | cons entry rest ih =>
    obtain ⟨k, old⟩ := entry
    by_cases h : k = key <;> simp [exchange, get?, put, h, ih]

theorem keys_put (entries : List (κ × α)) (key : κ) (value : α) :
    keys (put entries key value) =
      if key ∈ keys entries then keys entries else keys entries ++ [key] := by
  induction entries with
  | nil => simp [keys, put]
  | cons entry rest ih =>
    obtain ⟨k, old⟩ := entry
    by_cases h : k = key
    · simp [put, keys, h]
    · simp only [put, h, if_false, keys, List.map_cons, List.mem_cons] at ih ⊢
      rw [ih]
      have h' : ¬key = k := fun e => h e.symm
      by_cases m : key ∈ List.map Prod.fst rest <;> simp [m, h']

theorem get?_put (entries : List (κ × α)) (key other : κ) (value : α) :
    get? (put entries key value) other =
      if key = other then some value else get? entries other := by
  induction entries with
  | nil => simp [get?, put]
  | cons entry rest ih =>
    obtain ⟨k, old⟩ := entry
    by_cases h : k = key
    · subst h
      by_cases e : k = other <;> simp [put, get?, e]
    · by_cases e : key = other
      · subst e
        simp [put, get?, h, ih]
      · simp [put, get?, h, ih, e]

theorem nodup_put {entries : List (κ × α)} (h : (keys entries).Nodup) (key : κ) (value : α) :
    (keys (put entries key value)).Nodup := by
  rw [keys_put]
  split
  · exact h
  · rename_i absent
    refine List.nodup_append.2 ⟨h, by simp, ?_⟩
    intro a ha b hb e
    simp only [List.mem_singleton] at hb
    exact absent (hb ▸ e ▸ ha)

theorem get?_isSome_iff {entries : List (κ × α)} {key : κ} :
    (get? entries key).isSome = true ↔ key ∈ keys entries := by
  induction entries with
  | nil => simp [get?, keys]
  | cons entry rest ih =>
    obtain ⟨k, value⟩ := entry
    by_cases h : k = key
    · simp [get?, keys, h]
    · have h' : ¬key = k := fun e => h e.symm
      simpa [get?, keys, h, h'] using ih

end Storytest.Assoc
