import Storytest.Resolution

/-!
# What the resolver finds

A resolved value is a stored one (`mem_of_resolve`), and the one the rules give (`chosen_of_resolve`):
the value under the parameter's name, or else the one of an accepted type with the smallest key. A
parameter is left out exactly when there is neither (`resolve_eq_none_iff`).
-/

namespace Storytest

theorem Assoc.mem_of_get? {κ α : Type} [DecidableEq κ] {entries : List (κ × α)} {key : κ} {value : α}
    (h : get? entries key = some value) : (key, value) ∈ entries := by
  induction entries with
  | nil => cases h
  | cons entry rest ih =>
    obtain ⟨k, old⟩ := entry
    by_cases hk : k = key
    · simp only [get?, hk, if_true, Option.some.injEq] at h
      simp [hk, h]
    · simp only [get?, hk, if_false] at h
      exact List.mem_cons_of_mem _ (ih h)

theorem Key.le_refl (key : String) : Key.le key key = true := by
  simpa using Key.le_total key key

namespace ParamSpec

/-- The value is the one under the parameter's name, or else one of an accepted type under the
smallest key. -/
def Chosen (spec : ParamSpec) (store : Store) (value : Value) : Prop :=
  spec.named? store = some value ∨
    spec.named? store = none ∧ ∃ key, (key, value) ∈ store.entries ∧ value.ty ∈ spec.accepts ∧
      ∀ entry ∈ store.entries, entry.2.ty ∈ spec.accepts → Key.le key entry.1 = true

/-- A parameter takes the value that is stored under its name. -/
theorem resolve_of_named {spec : ParamSpec} {store : Store} {value : Value}
    (h : spec.named? store = some value) : spec.resolve store = some value := by
  simp only [resolve, find, h, Match.value?]

/-- Failing that, it takes the value found by type. -/
theorem resolve_of_named_none {spec : ParamSpec} {store : Store} (h : spec.named? store = none) :
    spec.resolve store = (spec.smallest? store).map Prod.snd := by
  simp only [resolve, find, h]
  cases spec.smallest? store <;> rfl

theorem mem_of_named {spec : ParamSpec} {store : Store} {value : Value}
    (h : spec.named? store = some value) : ∃ key, (key, value) ∈ store.entries := by
  obtain ⟨key, -, hk⟩ := Option.bind_eq_some_iff.1 h
  exact ⟨key, Assoc.mem_of_get? hk⟩

/-- The entries that a parameter accepts, from the greatest key to the smallest. -/
theorem mem_accepted {spec : ParamSpec} {store : Store} {entry : String × Value} :
    entry ∈ store.descending.filter (fun entry => spec.admits entry.2.ty) ↔
      entry ∈ store.entries ∧ entry.2.ty ∈ spec.accepts := by
  rw [List.mem_filter, store.descending_perm.mem_iff]
  simp [admits]

/-- The entry found by type is stored, has an accepted type, and no other such entry has a smaller
key. -/
theorem smallest_spec {spec : ParamSpec} {store : Store} {key : String} {value : Value}
    (h : spec.smallest? store = some (key, value)) :
    (key, value) ∈ store.entries ∧ value.ty ∈ spec.accepts ∧
      ∀ entry ∈ store.entries, entry.2.ty ∈ spec.accepts → Key.le key entry.1 = true := by
  obtain ⟨before, hb⟩ := List.getLast?_eq_some_iff.1 h
  have hm := mem_accepted.1 (hb ▸ List.mem_append_right before (List.mem_singleton_self (key, value)))
  refine ⟨hm.1, hm.2, fun entry he ht => ?_⟩
  have hp : (before ++ [(key, value)]).Pairwise fun a b => Store.notBelow a b = true :=
    hb ▸ store.pairwise_descending.filter _
  rcases List.mem_append.1 (hb ▸ mem_accepted.2 ⟨he, ht⟩) with hin | hin
  · exact (List.pairwise_append.1 hp).2.2 entry hin (key, value) (List.mem_singleton_self _)
  · rw [List.mem_singleton.1 hin]
    exact Key.le_refl key

theorem smallest_eq_none_iff {spec : ParamSpec} {store : Store} :
    spec.smallest? store = none ↔ ∀ entry ∈ store.entries, entry.2.ty ∉ spec.accepts := by
  rw [smallest?, List.getLast?_eq_none_iff, List.eq_nil_iff_forall_not_mem]
  simp only [mem_accepted, not_and]

/-- A resolved value is the one the rules give. -/
theorem chosen_of_resolve {spec : ParamSpec} {store : Store} {value : Value}
    (h : spec.resolve store = some value) : spec.Chosen store value := by
  cases hn : spec.named? store with
  | some found =>
    rw [resolve_of_named hn] at h
    exact .inl (hn.trans h)
  | none =>
    rw [resolve_of_named_none hn] at h
    obtain ⟨⟨key, found⟩, hs, rfl⟩ := Option.map_eq_some_iff.1 h
    obtain ⟨hm, ht, hk⟩ := smallest_spec hs
    exact .inr ⟨hn, key, hm, ht, hk⟩

/-- A resolved value is a stored one. -/
theorem mem_of_resolve {spec : ParamSpec} {store : Store} {value : Value}
    (h : spec.resolve store = some value) : ∃ key, (key, value) ∈ store.entries := by
  rcases chosen_of_resolve h with hn | ⟨-, key, hm, -⟩
  · exact mem_of_named hn
  · exact ⟨key, hm⟩

/-- A parameter is left out when nothing is stored under its name and no stored value has an
accepted type. -/
theorem resolve_eq_none_iff {spec : ParamSpec} {store : Store} :
    spec.resolve store = none ↔
      spec.named? store = none ∧ ∀ entry ∈ store.entries, entry.2.ty ∉ spec.accepts := by
  rw [← smallest_eq_none_iff]
  cases hn : spec.named? store with
  | some value => simp [resolve_of_named hn]
  | none => simp [resolve_of_named_none hn]

end ParamSpec

end Storytest
