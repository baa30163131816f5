import Storytest.Event
import Storytest.Store.Basic

/-!
# Keeping values

A value is kept under a key of its own, or under the short name of its type; the second is reported
when it takes the place of another value.
-/

namespace Storytest.Store

/-- What is reported when a value is stored under the short name of its type. -/
def inferredEvents (store : Store) (value : Value) : List Event :=
  if store.has value.inferredKey then [.overwritten value.inferredKey] else []

/-- Writes a value under the short name of its type: that key, what is reported, and the store with
the value. -/
def infer (store : Store) (value : Value) : String × List Event × Store :=
  let key := value.inferredKey
  (key, store.inferredEvents value, (store.exchange key value).2)

/-- Stores a value under a key, or under the short name of its type. -/
def keep (store : Store) : Option String → Value → Store
  | some key, value => store.set key value
  | none, value => store.setInferred value

/-- What is reported when a value is stored. -/
def keepEvents (store : Store) : Option String → Value → List Event
  | some _, _ => []
  | none, value => store.inferredEvents value

/-- Stores values one after the other. -/
def keepAll (store : Store) : List (Option String × Value) → Store
  | [] => store
  | (key, value) :: rest => (store.keep key value).keepAll rest

/-- What is reported when values are stored one after the other. -/
def keepAllEvents (store : Store) : List (Option String × Value) → List Event
  | [] => []
  | (key, value) :: rest => store.keepEvents key value ++ (store.keep key value).keepAllEvents rest

end Storytest.Store
