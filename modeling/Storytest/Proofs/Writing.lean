import Storytest.Proofs.Selection

/-!
# What a store was told

Writes answer: one with a key of its own with the value that it replaced, any other with the key that
was chosen for it. `recalls`: the answers to writes on an empty store, and all that is looked up
later by key or by type, are told by the writes alone. Keys stand in the order of their first
writing and hold what was written last.
-/

namespace Storytest

/-! ## Looking up by type -/

/-- The first value that satisfies a predicate is under the first key whose value does. -/
theorem Assoc.find?_values {κ α : Type} [DecidableEq κ] {entries : List (κ × α)}
    (hd : (keys entries).Nodup) (p : α → Bool) :
    (entries.map Prod.snd).find? p =
      ((keys entries).find? fun key => (get? entries key).any p).bind (get? entries) := by
  induction entries with
  | nil => rfl
  | cons entry rest ih =>
    obtain ⟨key, value⟩ := entry
    obtain ⟨habsent, hd⟩ : key ∉ keys rest ∧ (keys rest).Nodup := List.nodup_cons.1 hd
    have hself : get? ((key, value) :: rest) key = some value := by simp [get?]
    have hother : ∀ k ∈ keys rest, get? ((key, value) :: rest) k = get? rest k := by
      intro k hk
      have hne : ¬key = k := fun he => habsent (he ▸ hk)
      simp [get?, hne]
    have hkeys : keys ((key, value) :: rest) = key :: keys rest := rfl
    rw [hkeys, List.map_cons, List.find?_cons, List.find?_cons, hself, Option.any_some]
    cases hp : p value with
    | true => exact hself.symm
    | false =>
      -- Behind the head, the look-ups are those of the rest.
      have hfind : ((keys rest).find? fun k => (get? ((key, value) :: rest) k).any p) =
          (keys rest).find? fun k => (get? rest k).any p :=
        List.find?_congr fun k hk => by rw [hother k hk]
      simp only
      rw [ih hd, hfind]
      refine Option.bind_congr fun k hk => ?_
      exact (hother k (List.mem_of_find?_eq_some hk)).symm

namespace Store

theorem findType?_eq (store : Store) (ty : Ty) :
    store.findType? ty =
      (store.keys.find? fun key => (store.get? key).any fun value => value.ty = ty).bind
        store.get? :=
  Assoc.find?_values store.distinct _

end Store

/-! ## Writes and their answers -/

/-- What a write answers. -/
inductive Answer where
  /-- The value that it replaced, where its key was given. -/
  | replaced (old : Option Value)
  /-- The key that was chosen for it. -/
  | chosen (key : String)

namespace Store

/-- Makes a write: what it answers, what it reports, and the store with the value. -/
def write (store : Store) : Write → Answer × List Event × Store
  | (some key, value) =>
    let (old, after) := store.exchange key value
    (.replaced old, [], after)
  | (none, value) =>
    let (key, events, after) := store.infer value
    (.chosen key, events, after)

/-- Makes writes one after the other: what each answers and reports, and the store in the end. -/
def writeAll (store : Store) : List Write → List (Answer × List Event) × Store
  | [] => ([], store)
  | write :: rest =>
    let (answer, events, after) := store.write write
    let (told, last) := after.writeAll rest
    ((answer, events) :: told, last)

/-- What a write answers and reports by the writes before it: the value that was last written under
its key, or the short name of its value's type, with a warning when that was written under. -/
def answerAfter (before : List Write) : Write → Answer × List Event
  | (some key, _) => (.replaced (Write.latest before key), [])
  | (none, value) =>
    (.chosen value.ty.shortName,
      if value.ty.shortName ∈ before.map Write.key then [.overwritten value.ty.shortName] else [])

theorem write_store (store : Store) (write : Write) :
    (store.write write).2.2 = store.set write.key write.2 := by
  obtain ⟨key, value⟩ := write
  cases key with
  | some key => exact congrArg Prod.snd (store.exchange_eq key value)
  | none => exact congrArg Prod.snd (store.exchange_eq value.inferredKey value)

theorem writeAll_store (writes : List Write) (store : Store) :
    (store.writeAll writes).2 = store.keepAll writes := by
  induction writes generalizing store with
  | nil => rfl
  | cons write rest ih =>
    rw [keepAll_cons, ← write_store, ← ih]
    rfl

theorem writeAll_concat (writes : List Write) (last : Write) (store : Store) :
    (store.writeAll (writes ++ [last])).1 = (store.writeAll writes).1 ++
      [(((store.keepAll writes).write last).1, ((store.keepAll writes).write last).2.1)] := by
  induction writes generalizing store with
  | nil => rfl
  | cons write rest ih =>
    rw [keepAll_cons, ← write_store]
    exact congrArg (_ :: ·) (ih _)

theorem get?_of_writes (writes : List Write) (key : String) :
    (empty.keepAll writes).get? key = Write.latest writes key := by
  rw [get?_keepAll]
  exact Option.or_none

theorem has_of_writes {writes : List Write} {key : String} :
    (empty.keepAll writes).has key = true ↔ key ∈ writes.map Write.key := by
  rw [has_iff, keys_of_writes, List.mem_eraseDups]

theorem write_answer (before : List Write) (write : Write) :
    (((empty.keepAll before).write write).1, ((empty.keepAll before).write write).2.1) =
      answerAfter before write := by
  obtain ⟨key, value⟩ := write
  cases key with
  | some key =>
    have hold : ((empty.keepAll before).exchange key value).1 = Write.latest before key := by
      rw [exchange_eq]
      exact get?_of_writes before key
    exact congrArg (fun old => (Answer.replaced old, [])) hold
  | none =>
    refine congrArg (Prod.mk (Answer.chosen value.ty.shortName)) ?_
    change (empty.keepAll before).inferredEvents value = _
    simp only [inferredEvents, has_of_writes]
    rfl

theorem told_of_writes (writes : List Write) :
    (empty.writeAll writes).1 = writes.mapIdx fun i write => answerAfter (writes.take i) write := by
  induction writes using List.reverseRecOn with
  | nil => rfl
  | append_singleton writes last ih =>
    have hold : (writes.mapIdx fun i write => answerAfter ((writes ++ [last]).take i) write) =
        writes.mapIdx fun i write => answerAfter (writes.take i) write := by
      refine List.ext_getElem? fun i => ?_
      rw [List.getElem?_mapIdx, List.getElem?_mapIdx]
      by_cases hi : i < writes.length
      · rw [List.take_append_of_le_length (Nat.le_of_lt hi)]
      · rw [List.getElem?_eq_none (Nat.le_of_not_lt hi)]
        rfl
    rw [writeAll_concat, ih, write_answer, List.mapIdx_concat, hold, List.take_left' rfl]

/-! ## All that was written -/

/-- What a store that was empty before answers to some writes, and holds after them. -/
structure Recalls (writes : List Write) (told : List (Answer × List Event)) (store : Store) :
    Prop where
  /-- Each key stands where it was first written. -/
  keys : store.keys = (writes.map Write.key).eraseDups
  /-- Under a key is what was last written there. -/
  found : ∀ key, store.get? key = Write.latest writes key
  /-- Each write answers by the writes before it. -/
  answered : told = writes.mapIdx fun i write => answerAfter (writes.take i) write
  size : store.size = (writes.map Write.key).toFinset.card
  /-- By type, the first key counts under which a value of the type was last written. -/
  typed : ∀ ty, store.findType? ty =
    ((writes.map Write.key).eraseDups.find? fun key =>
      (Write.latest writes key).any fun value => value.ty = ty).bind (Write.latest writes)
  /-- Once a value of another type is written under a key, the key is passed over. -/
  retyped : ∀ ty key value, value.ty ≠ ty →
    (store.set key value).findType? ty =
      (((writes.map Write.key).eraseDups.filter (· ≠ key)).find? fun other =>
        (Write.latest writes other).any fun value => value.ty = ty).bind (Write.latest writes)

theorem findType?_set (store : Store) {ty : Ty} {key : String} {value : Value}
    (h : value.ty ≠ ty) :
    (store.set key value).findType? ty =
      ((store.keys.filter (· ≠ key)).find? fun other =>
        (store.get? other).any fun value => value.ty = ty).bind store.get? := by
  have hmiss : ((store.set key value).get? key).any (fun value => value.ty = ty) = false := by
    simp [get?_set, h]
  have hother : ∀ {other}, other ≠ key → (store.set key value).get? other = store.get? other := by
    intro other hne
    rw [get?_set, if_neg (Ne.symm hne)]
  rw [findType?_eq]
  -- The key itself is passed over, whether it is new or not.
  have hkeys : ((store.set key value).keys.find? fun other =>
        ((store.set key value).get? other).any fun value => value.ty = ty) =
      (store.keys.filter (· ≠ key)).find? fun other =>
        (store.get? other).any fun value => value.ty = ty := by
    have hfilter : (store.set key value).keys.filter (· ≠ key) = store.keys.filter (· ≠ key) := by
      rw [keys_set]
      split <;> simp
    rw [← hfilter, List.find?_filter]
    refine List.find?_congr fun other _ => ?_
    by_cases he : other = key
    · subst he
      simp [hmiss]
    · simp [hother he, he]
  rw [hkeys]
  refine Option.bind_congr fun other ho => ?_
  obtain ⟨-, hne⟩ := List.mem_filter.1 (List.mem_of_find?_eq_some ho)
  exact hother (of_decide_eq_true hne)

theorem size_of_writes (writes : List Write) :
    (empty.keepAll writes).size = (writes.map Write.key).toFinset.card := by
  have hkeys : (empty.keepAll writes).keys.toFinset = (writes.map Write.key).toFinset := by
    ext key
    rw [List.mem_toFinset, List.mem_toFinset, keys_of_writes, List.mem_eraseDups]
  have hcard : (empty.keepAll writes).keys.toFinset.card = (empty.keepAll writes).keys.length :=
    List.toFinset_card_of_nodup (empty.keepAll writes).distinct
  rw [← hkeys, hcard]
  exact (List.length_map Prod.fst).symm

/-- After any writes, a store has each key at the place where it was first written, with the value
that was written last. Every write answers by those before it, and a look-up by type takes the first
key under which a value of the type was written last. -/
theorem recalls (writes : List Write) :
    Recalls writes (empty.writeAll writes).1 (empty.writeAll writes).2 := by
  have hkeys := keys_of_writes writes
  have hget : (empty.keepAll writes).get? = Write.latest writes := funext (get?_of_writes writes)
  rw [writeAll_store]
  exact {
    keys := hkeys
    found := get?_of_writes writes
    answered := told_of_writes writes
    size := size_of_writes writes
    typed := fun ty => by rw [findType?_eq, hkeys, hget]
    retyped := fun ty key value h => by rw [findType?_set _ h, hkeys, hget]
  }

open Script in
/-- A text and then a number under one key: the second write answers with the first, and the text is
found by its type no more. -/
example :
    let writes : List Write :=
      [(some "id", ⟨string, .text "a"⟩), (none, ⟨int32, .integer 1⟩),
        (some "id", ⟨int32, .integer 2⟩)]
    (empty.writeAll writes).2.keys = ["id", "i32"] ∧
      ((empty.writeAll writes).2.findType? string).isNone := by
  decide +kernel

end Store

end Storytest
