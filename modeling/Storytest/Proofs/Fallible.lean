import Mathlib

/-!
# Computations that can be refused

Reading settings and expanding source text go step by step and end at the first refusal. These are
the facts about two steps, and about the same step taken for every member of a list.
-/

namespace Storytest

variable {ε α β : Type}

theorem bind_eq_ok {first : Except ε α} {next : α → Except ε β} {value : β} :
    first >>= next = .ok value ↔ ∃ found, first = .ok found ∧ next found = .ok value := by
  cases first with
  | error fault => exact ⟨nofun, nofun⟩
  | ok found =>
    constructor
    · intro h
      exact ⟨found, rfl, h⟩
    · rintro ⟨other, ho, h⟩
      cases ho
      exact h

variable {make : α → Except ε β}

theorem mapM_cons_eq (first : α) (rest : List α) : (first :: rest).mapM make =
    match make first, rest.mapM make with
    | .error fault, _ => .error fault
    | .ok _, .error fault => .error fault
    | .ok value, .ok values => .ok (value :: values) := by
  rw [List.mapM_cons]
  cases make first with
  | error fault => rfl
  | ok value => cases rest.mapM make <;> rfl

theorem map_eq_of_mapM_eq_ok {list : List α} {values : List β} (h : list.mapM make = .ok values) :
    list.map make = values.map .ok := by
  induction list generalizing values with
  | nil =>
    cases h
    rfl
  | cons first rest ih =>
    rw [mapM_cons_eq] at h
    split at h
    · cases h
    · cases h
    · next value others hf hr =>
      cases h
      rw [List.map_cons, List.map_cons, hf, ih hr]

/-- Of a list, the first member at fault decides the fault. -/
theorem mapM_eq_error_iff {list : List α} {fault : ε} :
    list.mapM make = .error fault ↔ ∃ before first after, list = before ++ first :: after ∧
      (∀ other ∈ before, ∃ value, make other = .ok value) ∧ make first = .error fault := by
  constructor
  · intro h
    induction list with
    | nil => cases h
    | cons first rest ih =>
      rw [mapM_cons_eq] at h
      split at h
      · next hf =>
        cases h
        exact ⟨[], first, rest, rfl, nofun, hf⟩
      · next value _ hf hr =>
        cases h
        obtain ⟨before, bad, after, rfl, hb, hbad⟩ := ih hr
        exact ⟨first :: before, bad, after, rfl, List.forall_mem_cons.2 ⟨⟨value, hf⟩, hb⟩, hbad⟩
      · cases h
  · rintro ⟨before, first, after, rfl, hb, hf⟩
    induction before with
    | nil => rw [List.nil_append, mapM_cons_eq, hf]
    | cons good before ih =>
      obtain ⟨⟨value, hv⟩, hb⟩ := List.forall_mem_cons.1 hb
      rw [List.cons_append, mapM_cons_eq, hv, ih hb]

end Storytest
