import Storytest.Store.Keep

/-!
# The value written last

Values that are stored one after the other leave under every key the one that was written last
(`get?_keepAll`), and a store that held all of these already stays as it is
(`keepAll_eq_self_iff`): its keys, their order and its values.
-/

namespace Storytest

/-! ## Stores with the same keys and values -/

/-- Entries under distinct keys are told by their keys, in order, and the values under them. -/
theorem Assoc.ext_get? {κ α : Type} [DecidableEq κ] {first second : List (κ × α)}
    (hd : (keys first).Nodup) (hk : keys first = keys second)
    (hg : ∀ key ∈ keys first, get? first key = get? second key) : first = second := by
  induction first generalizing second with
  | nil =>
    cases second with
    | nil => rfl
    | cons entry rest => cases hk
  | cons entry rest ih =>
    obtain ⟨key, value⟩ := entry
    cases second with
    | nil => cases hk
    | cons other others =>
      obtain ⟨key', value'⟩ := other
      obtain ⟨rfl, hrest⟩ : key = key' ∧ keys rest = keys others := List.cons.inj hk
      obtain ⟨habsent, hd⟩ : key ∉ keys rest ∧ (keys rest).Nodup := List.nodup_cons.1 hd
      have hvalue : value = value' := by
        simpa [get?] using hg key List.mem_cons_self
      -- Under the other keys the head is passed over on both sides.
      have hothers : ∀ k ∈ keys rest, get? rest k = get? others k := by
        intro k hkin
        have hne : ¬key = k := fun he => habsent (he ▸ hkin)
        simpa [get?, hne] using hg k (List.mem_cons_of_mem _ hkin)
      rw [hvalue, ih hd hrest hothers]

/-- A store is told by its keys, in order, and the values under them. -/
theorem Store.ext_get? {first second : Store} (hk : first.keys = second.keys)
    (hg : ∀ key ∈ first.keys, first.get? key = second.get? key) : first = second := by
  have he : first.entries = second.entries := Assoc.ext_get? first.distinct hk hg
  cases first
  cases second
  cases he
  rfl

/-! ## Writes -/

/-- A value that is written, with a key of its own if it has one. -/
abbrev Write := Option String × Value

namespace Write

/-- The key under which the value is written: its own, or the short name of its type. -/
def key (write : Write) : String :=
  write.1.getD write.2.inferredKey

/-- The value that is written last under a key. -/
def latest (writes : List Write) (name : String) : Option Value :=
  ((writes.filter fun write => write.key = name).getLast?).map Prod.snd

/-- Later writes count before earlier ones. -/
theorem latest_append (earlier later : List Write) (name : String) :
    latest (earlier ++ later) name = (latest later name).or (latest earlier name) := by
  unfold latest
  rw [List.filter_append, List.getLast?_append]
  cases (later.filter fun write => write.key = name).getLast? <;> rfl

theorem latest_singleton (write : Write) (name : String) :
    latest [write] name = if write.key = name then some write.2 else none := by
  unfold latest
  by_cases h : write.key = name <;> simp [h]

/-- Under the key of a write, something was written last. -/
theorem latest_isSome {writes : List Write} {write : Write} (h : write ∈ writes) :
    ∃ value, latest writes write.key = some value := by
  obtain ⟨earlier, later, rfl⟩ := List.append_of_mem h
  rw [List.append_cons, latest_append, latest_append, latest_singleton, if_pos rfl]
  cases latest later write.key with
  | none => exact ⟨write.2, rfl⟩
  | some value => exact ⟨value, rfl⟩

end Write

namespace Store

theorem keep_eq_set (store : Store) (write : Write) :
    store.keep write.1 write.2 = store.set write.key write.2 := by
  obtain ⟨key, value⟩ := write
  cases key <;> rfl

theorem keepAll_cons (store : Store) (write : Write) (writes : List Write) :
    store.keepAll (write :: writes) = (store.set write.key write.2).keepAll writes := by
  rw [← keep_eq_set]
  rfl

theorem keepAll_append (earlier later : List Write) (store : Store) :
    store.keepAll (earlier ++ later) = (store.keepAll earlier).keepAll later := by
  induction earlier generalizing store with
  | nil => rfl
  | cons write earlier ih => exact ih _

/-- After some writes, the value under a key is the one written last, or else the one before. -/
theorem get?_keepAll (writes : List Write) (store : Store) (name : String) :
    (store.keepAll writes).get? name = (Write.latest writes name).or (store.get? name) := by
  induction writes generalizing store with
  | nil => rfl
  | cons write writes ih =>
    rw [keepAll_cons, ih, get?_set, ← List.singleton_append, Write.latest_append,
      Write.latest_singleton]
    by_cases h : write.key = name <;> cases Write.latest writes name <;> simp [h]

/-- Writes under keys that are there add no key. -/
theorem keys_keepAll {writes : List Write} {store : Store}
    (h : ∀ write ∈ writes, write.key ∈ store.keys) : (store.keepAll writes).keys = store.keys := by
  induction writes generalizing store with
  | nil => rfl
  | cons write writes ih =>
    have hset : (store.set write.key write.2).keys = store.keys := by
      rw [keys_set, if_pos (h write List.mem_cons_self)]
    rw [keepAll_cons, ih, hset]
    rw [hset]
    exact fun other ho => h other (List.mem_cons_of_mem _ ho)

/-- Writes leave a store as it is when the values written last are there already. -/
theorem keepAll_eq_self_iff {writes : List Write} {store : Store} :
    store.keepAll writes = store ↔
      ∀ name value, Write.latest writes name = some value → store.get? name = some value := by
  constructor
  · intro h name value hl
    rw [← h, get?_keepAll, hl]
    rfl
  · intro h
    have hkeys : (store.keepAll writes).keys = store.keys := by
      refine keys_keepAll fun write hw => ?_
      obtain ⟨value, hl⟩ := Write.latest_isSome hw
      rw [← has_iff, has, h _ _ hl]
      rfl
    refine ext_get? hkeys fun name _ => ?_
    rw [get?_keepAll]
    cases hl : Write.latest writes name with
    | none => rfl
    | some value => exact (h name value hl).symm

end Store

end Storytest
