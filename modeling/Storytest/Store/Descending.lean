import Storytest.Key.Order
import Storytest.Store.Basic

/-!
# The store in descending order

The entries from the greatest key to the smallest. Keys of equal rank stay in the order in which
they were first written (`descending_perm` and `pairwise_descending` together with the stability
of the sort).
-/

namespace Storytest.Store

/-- One entry may stand before another in descending order. -/
def notBelow (first second : String × Value) : Bool :=
  Key.le second.1 first.1

/-- The entries in descending order of their keys. -/
def descending (store : Store) : List (String × Value) :=
  store.entries.mergeSort notBelow

theorem notBelow_trans (a b c : String × Value) (ab : notBelow a b = true)
    (bc : notBelow b c = true) : notBelow a c = true :=
  Key.le_trans bc ab

theorem notBelow_total (a b : String × Value) : (notBelow a b || notBelow b a) = true :=
  Key.le_total b.1 a.1

theorem descending_perm (store : Store) : store.descending.Perm store.entries :=
  List.mergeSort_perm _ _

theorem pairwise_descending (store : Store) :
    store.descending.Pairwise fun first second => notBelow first second = true :=
  List.pairwise_mergeSort notBelow_trans notBelow_total _

end Storytest.Store
