import Storytest.Registry

/-!
# Adding steps

What waits once steps were added one after the other. Steps of other keys than those that wait come
to wait behind them: `addAll_apart`.
-/

namespace Storytest.Registry

variable {σ : Type} {registry front back whole : Registry σ}

/-- Adds entries one after the other. -/
def addAll (registry : Registry σ) (entries : List (Entry σ)) : Registry σ :=
  entries.foldl (fun registry entry => registry.add entry.step entry.key) registry

theorem addAll_append (registry : Registry σ) (earlier later : List (Entry σ)) :
    registry.addAll (earlier ++ later) = (registry.addAll earlier).addAll later :=
  List.foldl_append

theorem put_entries_eq (registry : Registry σ) {key : String} (step : Step σ) (h : key ≠ "") :
    (registry.put key step h).entries =
      if some key ∈ registry.entries.map Entry.key then
        registry.entries.map (replaceStep key step)
      else registry.entries ++ [⟨some key, step⟩] := by
  unfold put
  split <;> rfl

/-- The empty key counts as none. -/
theorem add_filter (registry : Registry σ) (step : Step σ) (key : Option String) :
    registry.add step (key.filter (· ≠ "")) = registry.add step key := by
  cases key with
  | none => rfl
  | some name =>
    by_cases h : name = ""
    · subst h
      rfl
    · rw [Option.filter_some, if_pos (decide_eq_true h)]

/-- What waits once a step was added waited before, or is that step. -/
theorem mem_add {step : Step σ} {key : Option String} {entry : Entry σ}
    (h : entry ∈ (registry.add step key).entries) :
    entry ∈ registry.entries ∨ entry = ⟨key.filter (· ≠ ""), step⟩ := by
  have hpush : entry ∈ (registry.push step).entries →
      entry ∈ registry.entries ∨ entry = ⟨none, step⟩ := by simp [push]
  cases key with
  | none => exact hpush h
  | some name =>
    by_cases he : name = ""
    · subst he
      exact hpush h
    · simp only [add, dif_neg he, put_entries_eq] at h
      rw [Option.filter_some, if_pos (decide_eq_true he)]
      split at h
      · obtain ⟨old, hm, rfl⟩ := List.mem_map.1 h
        unfold replaceStep
        split
        · next hkey => exact .inr (by rw [hkey])
        · exact .inl hm
      · simpa using h

theorem mem_addAll {entries : List (Entry σ)} {entry : Entry σ}
    (h : entry ∈ (registry.addAll entries).entries) :
    entry ∈ registry.entries ∨
      ∃ added ∈ entries, entry = ⟨added.key.filter (· ≠ ""), added.step⟩ := by
  induction entries generalizing registry with
  | nil => exact .inl h
  | cons first entries ih =>
    rcases ih h with hm | ⟨added, ha, he⟩
    · exact (mem_add hm).imp_right fun he => ⟨first, List.mem_cons_self, he⟩
    · exact .inr ⟨added, List.mem_cons_of_mem _ ha, he⟩

/-- A step that is added under a key of none in front is added among those behind. -/
theorem add_append (h : whole.entries = front.entries ++ back.entries) {key : Option String}
    (hk : ∀ entry ∈ front.entries, entry.key ≠ none → entry.key ≠ key) (step : Step σ) :
    (whole.add step key).entries = front.entries ++ (back.add step key).entries := by
  have hpush : (whole.push step).entries = front.entries ++ (back.push step).entries := by
    simp only [push, h, List.append_assoc]
  cases key with
  | none => exact hpush
  | some name =>
    by_cases he : name = ""
    · simp only [add, dif_pos he, hpush]
    · have habsent : ∀ entry ∈ front.entries, entry.key ≠ some name :=
        fun entry hm hkey => hk entry hm (by simp [hkey]) hkey
      have hsame : front.entries.map (replaceStep name step) = front.entries :=
        (List.map_congr_left fun entry hm => if_neg (habsent entry hm)).trans (List.map_id' _)
      have hmem : some name ∈ whole.entries.map Entry.key ↔
          some name ∈ back.entries.map Entry.key := by
        rw [h, List.map_append, List.mem_append, or_iff_right]
        intro hin
        obtain ⟨entry, hm, hkey⟩ := List.mem_map.1 hin
        exact habsent entry hm hkey
      simp only [add, dif_neg he, put_entries_eq, hmem]
      split
      · rw [h, List.map_append, hsame]
      · rw [h, List.append_assoc]

theorem addAll_append_entries (h : whole.entries = front.entries ++ back.entries)
    {entries : List (Entry σ)}
    (hk : ∀ entry ∈ front.entries, entry.key ≠ none → ∀ later ∈ entries, entry.key ≠ later.key) :
    (whole.addAll entries).entries = front.entries ++ (back.addAll entries).entries := by
  induction entries generalizing back whole with
  | nil => exact h
  | cons later entries ih =>
    have hnext := add_append h (fun entry hm hsome => hk entry hm hsome later (by simp)) later.step
    exact ih hnext fun entry hm hsome other ho => hk entry hm hsome other (by simp [ho])

/-- Steps that are added after others, under none of their keys, wait behind them. -/
theorem addAll_apart {earlier later : List (Entry σ)}
    (hk : ∀ entry ∈ earlier, entry.key ≠ none → ∀ other ∈ later, entry.key ≠ other.key) :
    (empty.addAll (earlier ++ later)).entries =
      (empty.addAll earlier).entries ++ (empty.addAll later).entries := by
  rw [addAll_append]
  refine addAll_append_entries (by simp [empty]) fun entry hm hsome other ho he => ?_
  rcases mem_addAll hm with hin | ⟨added, ha, rfl⟩
  · cases hin
  · -- The key is not the empty one, so it is that of the step as it was added.
    obtain ⟨key, hkey⟩ := Option.ne_none_iff_exists'.1 hsome
    obtain ⟨hadded, -⟩ := Option.filter_eq_some_iff.1 hkey
    refine hk added ha (by simp [hadded]) other ho ?_
    rw [hadded, ← hkey]
    exact he

end Storytest.Registry
