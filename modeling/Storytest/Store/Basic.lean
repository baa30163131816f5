import Storytest.Table.Assoc
import Storytest.Value

/-!
# The store

A `Store` keeps the values of a scenario under distinct keys, in the order in which the keys were
first written. Every operation is described through the entries: `keys_set` (an overwritten key
keeps its place) and `get?_set` (the last value written is the one found).
-/

namespace Storytest

/-- Values under distinct keys, in the order of their first writing. -/
structure Store where
  entries : List (String × Value)
  distinct : (Assoc.keys entries).Nodup

namespace Store

/-- The store without values. -/
def empty : Store :=
  ⟨[], by simp [Assoc.keys]⟩

instance : Inhabited Store := ⟨empty⟩

/-- The keys, in the order of their first writing. -/
def keys (store : Store) : List String :=
  Assoc.keys store.entries

/-- The value under a key. -/
def get? (store : Store) (key : String) : Option Value :=
  Assoc.get? store.entries key

/-- The content under a key, when its value is of the type. -/
def contentOf? (store : Store) (key : String) (ty : Ty) : Option Datum :=
  (store.get? key).bind fun value => value.content? ty

/-- The key is there. -/
def has (store : Store) (key : String) : Bool :=
  (store.get? key).isSome

/-- The first value of a type, in the order of the keys. -/
def findType? (store : Store) (ty : Ty) : Option Value :=
  (store.entries.map Prod.snd).find? fun value => value.ty = ty

/-- The number of keys. -/
def size (store : Store) : Nat :=
  store.entries.length

/-- Writes a value under a key. -/
def set (store : Store) (key : String) (value : Value) : Store :=
  ⟨Assoc.put store.entries key value, Assoc.nodup_put store.distinct key value⟩

/-- Writes a value under a key and gives the value that it takes the place of. -/
def exchange (store : Store) (key : String) (value : Value) : Option Value × Store :=
  match h : Assoc.exchange store.entries key value with
  | (replaced, entries) =>
    (replaced, ⟨entries, by
      rw [← (Prod.mk.inj ((Assoc.exchange_eq store.entries key value).symm.trans h)).2]
      exact Assoc.nodup_put store.distinct key value⟩)

/-- Writes a value under the short name of its type. -/
def setInferred (store : Store) (value : Value) : Store :=
  store.set value.inferredKey value

/-- How a store is shown: by its keys and the types of its values. -/
def display (store : Store) : String :=
  let shown := store.entries.map fun entry => Text.quote entry.1 ++ ": " ++ entry.2.display
  "ParameterStore \x7b entries: \x7b" ++ ", ".intercalate shown ++ "\x7d \x7d"

theorem exchange_eq (store : Store) (key : String) (value : Value) :
    store.exchange key value = (store.get? key, store.set key value) := by
  unfold exchange
  split
  next replaced entries h =>
    obtain ⟨rfl, rfl⟩ := Prod.mk.inj ((Assoc.exchange_eq store.entries key value).symm.trans h)
    rfl

theorem get?_set (store : Store) (key other : String) (value : Value) :
    (store.set key value).get? other = if key = other then some value else store.get? other :=
  Assoc.get?_put store.entries key other value

theorem keys_set (store : Store) (key : String) (value : Value) :
    (store.set key value).keys =
      if key ∈ store.keys then store.keys else store.keys ++ [key] :=
  Assoc.keys_put store.entries key value

theorem has_iff {store : Store} {key : String} : store.has key = true ↔ key ∈ store.keys :=
  Assoc.get?_isSome_iff

end Store

end Storytest
