import Mathlib
import Storytest.Proofs.Adding

/-!
# The places of waiting steps

What waits in a registry is told by the steps that were added since it was last drained
(`standing`): the first step under a key makes a place, the last one under that key fills it, and
steps without a key have places of their own. `recounts` says so after any uses of a registry.
-/

namespace Storytest

variable {σ : Type}

/-- The key under which a step comes to wait; the empty one counts as none. -/
def Entry.name? (entry : Entry σ) : Option String :=
  entry.key.filter (· ≠ "")

namespace Registry

/-! ## What waits -/

/-- The step that was added last under a key. -/
def lastStep? (added : List (Entry σ)) (name : String) : Option (Step σ) :=
  ((added.filter fun entry => entry.name? = some name).getLast?).map Entry.step

/-- What waits in the place of the step that was added at an index: the step itself when it has no
key, and else the last one under its key, unless an earlier step made the place. -/
def place? (added : List (Entry σ)) (i : Nat) : Option (Entry σ) :=
  added[i]?.bind fun entry =>
    match entry.name? with
    | none => some ⟨none, entry.step⟩
    | some name =>
      if ∃ earlier ∈ added.take i, earlier.name? = some name then none
      else (lastStep? added name).map fun step => ⟨some name, step⟩

/-- What waits once steps were added to an empty registry, place by place. -/
def standing (added : List (Entry σ)) : List (Entry σ) :=
  (List.range added.length).filterMap (place? added)

/-- What waits in a place once another step is added. -/
def refresh (last : Entry σ) (entry : Entry σ) : Entry σ :=
  match last.name? with
  | none => entry
  | some name => replaceStep name last.step entry

variable {added : List (Entry σ)} {last : Entry σ} {registry : Registry σ}

theorem lastStep?_append (added : List (Entry σ)) (last : Entry σ) (name : String) :
    lastStep? (added ++ [last]) name =
      if last.name? = some name then some last.step else lastStep? added name := by
  unfold lastStep?
  by_cases h : last.name? = some name <;> simp [h]

theorem exists_lastStep? {entry : Entry σ} (h : entry ∈ added) {name : String}
    (hn : entry.name? = some name) : ∃ step, lastStep? added name = some step := by
  have hin : entry ∈ added.filter fun other => other.name? = some name :=
    List.mem_filter.2 ⟨h, by simp [hn]⟩
  rw [lastStep?, List.getLast?_eq_some_getLast (List.ne_nil_of_mem hin)]
  exact ⟨_, rfl⟩

theorem refresh_of_key_none {entry : Entry σ} (h : entry.key = none) :
    refresh last entry = entry := by
  unfold refresh replaceStep
  split
  · rfl
  · simp [h]

/-- A step that is added fills the place of its key and leaves the other places alone. -/
theorem place?_append_of_lt {i : Nat} (h : i < added.length) :
    place? (added ++ [last]) i = (place? added i).map (refresh last) := by
  unfold place?
  rw [List.getElem?_append_left h, List.take_append_of_le_length (Nat.le_of_lt h),
    List.getElem?_eq_getElem h, Option.bind_some, Option.bind_some]
  cases hn : added[i].name? with
  | none => exact congrArg some (refresh_of_key_none rfl).symm
  | some name =>
    simp only
    split
    · rfl
    · obtain ⟨step, hs⟩ := exists_lastStep? (List.getElem_mem h) hn
      rw [lastStep?_append, hs, Option.map_some, Option.map_some]
      by_cases hlast : last.name? = some name
      · rw [if_pos hlast]
        simp [refresh, hlast, replaceStep]
      · rw [if_neg hlast]
        cases hl : last.name? with
        | none => simp [refresh, hl]
        | some other =>
          have hne : ¬name = other := fun he => hlast (by rw [hl, he])
          simp [refresh, hl, replaceStep, hne]

/-- A step makes a place unless its key has one. -/
theorem place?_append_length (added : List (Entry σ)) (last : Entry σ) :
    place? (added ++ [last]) added.length =
      if last.name? ≠ none ∧ last.name? ∈ added.map Entry.name? then none
      else some ⟨last.name?, last.step⟩ := by
  unfold place?
  rw [List.getElem?_concat_length, Option.bind_some, List.take_left']
  · cases hn : last.name? with
    | none => rfl
    | some name =>
      simp only [ne_eq, reduceCtorEq, not_false_eq_true, true_and, List.mem_map]
      rw [lastStep?_append, if_pos hn]
      rfl
  · rfl

theorem standing_append (added : List (Entry σ)) (last : Entry σ) :
    standing (added ++ [last]) = (standing added).map (refresh last) ++
      if last.name? ≠ none ∧ last.name? ∈ added.map Entry.name? then []
      else [⟨last.name?, last.step⟩] := by
  have hold : (List.range added.length).filterMap (place? (added ++ [last])) =
      (standing added).map (refresh last) := by
    rw [standing, List.map_filterMap]
    exact List.filterMap_congr fun i hi => place?_append_of_lt (List.mem_range.1 hi)
  rw [standing, List.length_append, List.length_singleton, List.range_succ, List.filterMap_append,
    hold, List.filterMap_cons, place?_append_length]
  by_cases h : last.name? ≠ none ∧ last.name? ∈ added.map Entry.name?
  · rw [if_pos h, if_pos h]
    rfl
  · rw [if_neg h, if_neg h]
    rfl

/-! ## What a registry holds -/

theorem add_entries_refresh (registry : Registry σ) (last : Entry σ) :
    (registry.add last.step last.key).entries = registry.entries.map (refresh last) ++
      if last.name? ≠ none ∧ last.name? ∈ registry.entries.map Entry.key then []
      else [⟨last.name?, last.step⟩] := by
  have hadd := add_filter registry last.step last.key
  rw [← hadd]
  change (registry.add last.step last.name?).entries = _
  cases hn : last.name? with
  | none =>
    have hrefresh : refresh last = id := by
      funext entry
      simp [refresh, hn]
    rw [hrefresh, List.map_id]
    rfl
  | some name =>
    have hne : name ≠ "" := by
      rintro rfl
      simp [Entry.name?, Option.filter_eq_some_iff] at hn
    have hrefresh : refresh last = replaceStep name last.step := by
      funext entry
      simp [refresh, hn]
    simp only [add, dif_neg hne, put_entries_eq, hrefresh, ne_eq, reduceCtorEq, not_false_eq_true,
      true_and]
    split
    · rw [List.append_nil]
    · next habsent =>
      -- No step waits under the key, so none is replaced.
      have hsame : registry.entries.map (replaceStep name last.step) = registry.entries :=
        (List.map_congr_left fun entry hin => if_neg fun hkey =>
          habsent (List.mem_map.2 ⟨entry, hin, hkey⟩)).trans (List.map_id' _)
      rw [hsame]

theorem key_refresh (last entry : Entry σ) : (refresh last entry).key = entry.key := by
  unfold refresh
  split
  · rfl
  · exact key_replaceStep _ _ entry

theorem addAll_concat (registry : Registry σ) (added : List (Entry σ)) (last : Entry σ) :
    registry.addAll (added ++ [last]) = (registry.addAll added).add last.step last.key :=
  addAll_append registry added [last]

/-- A step waits under a key when one was added under it. -/
theorem mem_keys_addAll {name : String} :
    some name ∈ ((empty (σ := σ)).addAll added).entries.map Entry.key ↔
      some name ∈ added.map Entry.name? := by
  induction added using List.reverseRecOn with
  | nil => simp [addAll, empty]
  | append_singleton added last ih =>
    have hkeys : Entry.key ∘ refresh last = Entry.key := funext (key_refresh last)
    rw [addAll_concat, add_entries_refresh, List.map_append, List.map_map, hkeys, List.mem_append,
      ih, List.map_append, List.mem_append, List.map_singleton, List.mem_singleton]
    refine ⟨?_, ?_⟩
    · rintro (h | h)
      · exact .inl h
      · split at h
        · cases h
        · exact .inr (List.mem_singleton.1 h)
    · rintro (h | h)
      · exact .inl h
      · by_cases hin : some name ∈ added.map Entry.name?
        · exact .inl hin
        · right
          rw [if_neg fun hp => hin (ih.1 (h ▸ hp.2))]
          exact List.mem_singleton.2 h

theorem holds_iff {name? : Option String} :
    name? ≠ none ∧ name? ∈ ((empty (σ := σ)).addAll added).entries.map Entry.key ↔
      name? ≠ none ∧ name? ∈ added.map Entry.name? := by
  cases name? with
  | none => simp
  | some name => rw [mem_keys_addAll]

theorem addAll_entries (added : List (Entry σ)) : (empty.addAll added).entries = standing added := by
  induction added using List.reverseRecOn with
  | nil => rfl
  | append_singleton added last ih =>
    rw [addAll_concat, add_entries_refresh, standing_append, ih.symm]
    simp only [holds_iff]

theorem size_addAll (added : List (Entry σ)) :
    (empty.addAll added).size =
      (added.filterMap Entry.name?).toFinset.card + added.countP fun entry => entry.name? = none := by
  induction added using List.reverseRecOn with
  | nil => rfl
  | append_singleton added last ih =>
    rw [size] at ih
    rw [addAll_concat, size, add_entries_refresh, List.length_append, List.length_map, ih,
      List.countP_append, List.filterMap_append, List.toFinset_append]
    simp only [holds_iff]
    cases hn : last.name? with
    | none => simp [hn, Nat.add_assoc]
    | some name =>
      have hnames : ([last].filterMap Entry.name?).toFinset = {name} := by simp [hn]
      have hcount : ([last].countP fun entry => entry.name? = none) = 0 := by simp [hn]
      have hmem : name ∈ (added.filterMap Entry.name?).toFinset ↔
          some name ∈ added.map Entry.name? := by simp [List.mem_filterMap]
      rw [hnames, hcount]
      by_cases hin : some name ∈ added.map Entry.name?
      · rw [if_pos ⟨Option.some_ne_none name, hin⟩,
          Finset.union_eq_left.2 (Finset.singleton_subset_iff.2 (hmem.2 hin))]
        rfl
      · have hcard : ((added.filterMap Entry.name?).toFinset ∪ {name}).card =
            (added.filterMap Entry.name?).toFinset.card + 1 := by
          rw [Finset.union_comm, ← Finset.insert_eq,
            Finset.card_insert_of_notMem (hmem.not.2 hin)]
        rw [if_neg fun h => hin h.2, hcard, List.length_singleton]
        omega

/-! ## Any use of a registry -/

/-- A use of a registry: a step is added, under a key or not, or all steps are taken out. -/
inductive Use (σ : Type) where
  | add (step : Step σ) (key : Option String)
  | drain

/-- The registry after a use. -/
def after (registry : Registry σ) : Use σ → Registry σ
  | .add step key => registry.add step key
  | .drain => registry.drain.2

/-- The registry after some uses. -/
def afterAll (registry : Registry σ) (uses : List (Use σ)) : Registry σ :=
  uses.foldl after registry

/-- The added steps after another use: one more, or none. -/
def collect (added : List (Entry σ)) : Use σ → List (Entry σ)
  | .add step key => added ++ [⟨key, step⟩]
  | .drain => []

/-- The steps that were added since all steps were last taken out, each with its key as given. -/
def sinceDrain (uses : List (Use σ)) : List (Entry σ) :=
  uses.foldl collect []

theorem afterAll_eq (uses : List (Use σ)) : empty.afterAll uses = empty.addAll (sinceDrain uses) := by
  induction uses using List.reverseRecOn with
  | nil => rfl
  | append_singleton uses last ih =>
    have hafter : empty.afterAll (uses ++ [last]) = (empty.afterAll uses).after last :=
      List.foldl_append
    have hsince : sinceDrain (uses ++ [last]) = collect (sinceDrain uses) last :=
      List.foldl_append
    rw [hafter, hsince, ih]
    cases last with
    | add step key => exact (addAll_concat _ _ ⟨key, step⟩).symm
    | drain => rfl

/-- What a registry is after these uses, when it was empty before. -/
structure Recounts (uses : List (Use σ)) (registry : Registry σ) : Prop where
  /-- Each step without a key waits, and under each key the last step in the place of the first. -/
  entries : registry.entries = standing (sinceDrain uses)
  /-- No two steps wait under one key. -/
  keys : (registry.entries.filterMap Entry.key).Nodup
  /-- None waits under the empty key. -/
  named : ∀ entry ∈ registry.entries, entry.key ≠ some ""
  /-- It counts the keys and the steps without one. -/
  size : registry.size = ((sinceDrain uses).filterMap Entry.name?).toFinset.card +
    (sinceDrain uses).countP fun entry => entry.name? = none
  /-- Taking all steps out gives just these, in this order. -/
  drained : registry.drain.1 = standing (sinceDrain uses)
  /-- From then on it is like one that was never used. -/
  afresh : ∀ later, registry.afterAll (.drain :: later) = empty.afterAll later

/-- Of all that was added to a registry since the steps were last taken out, each step without a key
waits, and under each key the last step at the place of the first. The size counts just these, and
taking them out gives them in this order and leaves a registry as if it was never used. -/
theorem recounts (uses : List (Use σ)) : Recounts uses (empty.afterAll uses) := by
  have hentries : (empty.afterAll uses).entries = standing (sinceDrain uses) := by
    rw [afterAll_eq, addAll_entries]
  exact {
    entries := hentries
    keys := (empty.afterAll uses).distinct
    named := (empty.afterAll uses).nonempty
    size := by rw [afterAll_eq, size_addAll]
    drained := hentries
    afresh := fun _ => rfl
  }

/-- A later step takes the place of the first under its key; the empty key is none. -/
example (first second third : Step σ) :
    standing [⟨some "user", first⟩, ⟨some "", second⟩, ⟨some "user", third⟩] =
      [⟨some "user", third⟩, ⟨none, second⟩] := by rfl

end Registry

end Storytest
