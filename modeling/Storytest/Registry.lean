import Storytest.Step

/-!
# Registries of pending steps

Steps wait in the order of their registration. A step registered under a key takes the place of
the one that waits there; a step without a key, or under the empty one, always waits behind all
others.
-/

namespace Storytest

/-- A waiting step with the key of its result. -/
structure Entry (σ : Type) where
  key : Option String
  step : Step σ

/-- Waiting steps. No two share a key and none has the empty one. -/
structure Registry (σ : Type) where
  entries : List (Entry σ)
  distinct : (entries.filterMap Entry.key).Nodup
  nonempty : ∀ entry ∈ entries, entry.key ≠ some ""

namespace Registry

variable {σ : Type}

/-- The registry without steps. -/
def empty : Registry σ :=
  ⟨[], by simp, by simp⟩

instance : Inhabited (Registry σ) := ⟨empty⟩

/-- The number of waiting steps. -/
def size (registry : Registry σ) : Nat :=
  registry.entries.length

/-- Puts another step into the entry under a key. -/
def replaceStep (key : String) (step : Step σ) (entry : Entry σ) : Entry σ :=
  if entry.key = some key then { entry with step } else entry

theorem key_replaceStep (key : String) (step : Step σ) (entry : Entry σ) :
    (replaceStep key step entry).key = entry.key := by
  unfold replaceStep
  split <;> rfl

/-- Adds a step without a key. -/
def push (registry : Registry σ) (step : Step σ) : Registry σ where
  entries := registry.entries ++ [⟨none, step⟩]
  distinct := by simpa using registry.distinct
  nonempty := by
    intro entry member
    rcases List.mem_append.1 member with member | member
    · exact registry.nonempty entry member
    · simp [List.mem_singleton.1 member]

/-- Adds a step under a key that is not empty. -/
def put (registry : Registry σ) (key : String) (step : Step σ) (h : key ≠ "") : Registry σ :=
  if present : some key ∈ registry.entries.map Entry.key then
    { entries := registry.entries.map (replaceStep key step)
      distinct := by
        have same : Entry.key ∘ replaceStep key step = Entry.key :=
          funext (key_replaceStep key step)
        rw [List.filterMap_map, same]
        exact registry.distinct
      nonempty := by
        intro entry member
        obtain ⟨old, there, rfl⟩ := List.mem_map.1 member
        rw [key_replaceStep]
        exact registry.nonempty old there }
  else
    { entries := registry.entries ++ [⟨some key, step⟩]
      distinct := by
        rw [List.filterMap_append]
        refine List.nodup_append.2 ⟨registry.distinct, by simp, ?_⟩
        intro a ha b hb e
        obtain ⟨entry, there, named⟩ := List.mem_filterMap.1 ha
        have new : b = key := by simpa using hb
        exact present (List.mem_map.2 ⟨entry, there, by rw [named, e, new]⟩)
      nonempty := by
        intro entry member
        rcases List.mem_append.1 member with member | member
        · exact registry.nonempty entry member
        · simpa [List.mem_singleton.1 member] using h }

/-- Adds a step; the empty key counts as none. -/
def add (registry : Registry σ) (step : Step σ) (key : Option String) : Registry σ :=
  match key with
  | none => registry.push step
  | some name => if h : name = "" then registry.push step else registry.put name step h

/-- Takes all steps out. -/
def drain (registry : Registry σ) : List (Entry σ) × Registry σ :=
  (registry.entries, empty)

end Registry

end Storytest
