import Storytest.Table.Assoc

/-!
# Association lists sorted by key

`insert` puts a value at the place of its key in ascending order and replaces the value of a key
that is there. Main facts: `sorted_insert` and `get?_insert`.
-/

namespace Storytest.Sorted

variable {α : Type}

/-- Puts a value under a key, keeping the keys in ascending order. -/
def insert (entries : List (String × α)) (key : String) (value : α) : List (String × α) :=
  match entries with
  | [] => [(key, value)]
  | (k, old) :: rest =>
    if key = k then (key, value) :: rest
    else if key < k then (key, value) :: (k, old) :: rest
    else (k, old) :: insert rest key value

/-- The entries put one after the other into an empty table. -/
def ofList (entries : List (String × α)) : List (String × α) :=
  entries.foldl (fun table entry => insert table entry.1 entry.2) []

/-- The keys ascend strictly. -/
def IsSorted (entries : List (String × α)) : Prop :=
  (Assoc.keys entries).Pairwise (· < ·)

theorem get?_insert (entries : List (String × α)) (key other : String) (value : α) :
    Assoc.get? (insert entries key value) other =
      if key = other then some value else Assoc.get? entries other := by
  induction entries with
  | nil => simp [insert, Assoc.get?]
  | cons entry rest ih =>
    obtain ⟨k, old⟩ := entry
    by_cases h : key = k
    · subst h
      by_cases e : key = other <;> simp [insert, Assoc.get?, e]
    · by_cases lt : key < k
      · simp [insert, h, lt, Assoc.get?]
      · have h' : ¬k = key := fun e => h e.symm
        by_cases e : key = other
        · subst e
          simp [insert, h, lt, h', Assoc.get?, ih]
        · simp [insert, h, lt, Assoc.get?, ih, e]

theorem mem_keys_insert {entries : List (String × α)} {key other : String} {value : α} :
    other ∈ Assoc.keys (insert entries key value) ↔ other = key ∨ other ∈ Assoc.keys entries := by
  rw [← Assoc.get?_isSome_iff, ← Assoc.get?_isSome_iff, get?_insert]
  by_cases h : key = other
  · simp [h]
  · have h' : ¬other = key := fun e => h e.symm
    simp [h, h']

theorem sorted_insert {entries : List (String × α)} (h : IsSorted entries) (key : String)
    (value : α) : IsSorted (insert entries key value) := by
  induction entries with
  | nil => simp [IsSorted, insert, Assoc.keys]
  | cons entry rest ih =>
    obtain ⟨k, old⟩ := entry
    obtain ⟨below, tail⟩ := List.pairwise_cons.1 h
    by_cases e : key = k
    · subst e
      simpa [IsSorted, insert, Assoc.keys] using h
    · by_cases lt : key < k
      · simp only [IsSorted, insert, e, lt, if_true, if_false, Assoc.keys, List.map_cons,
          List.pairwise_cons] at h ⊢
        refine ⟨?_, h⟩
        intro other m
        rcases List.mem_cons.1 m with rfl | m
        · exact lt
        · exact String.lt_trans lt (h.1 other m)
      · have gt : k < key := by
          apply Decidable.byContradiction
          intro le
          exact e (String.le_antisymm (String.not_lt.1 le) (String.not_lt.1 lt))
        simp only [insert, e, lt, if_false]
        refine List.pairwise_cons.2 ⟨?_, ih tail⟩
        intro other m
        rcases mem_keys_insert.1 m with rfl | m
        · exact gt
        · exact below other m

end Storytest.Sorted
