import Storytest.Text.Numeral

/-!
# The order of keys

Keys that are numerals of 64-bit integers come first and compare by number; all other keys compare
as texts. `compare` is a total preorder (`Std.OrientedCmp`, `Std.TransCmp`): two keys compare equal
exactly when they have the same rank, as `7`, `07` and `+7` have.
-/

namespace Storytest.Key

/-- What a key is compared by. -/
inductive Rank where
  | number (value : Int)
  | text (key : String)
  deriving DecidableEq, Repr

/-- The least 64-bit integer. -/
def lowest : Int := -0x8000000000000000

/-- The greatest 64-bit integer. -/
def highest : Int := 0x7fffffffffffffff

/-- The rank of a key. -/
def rank (key : String) : Rank :=
  match Text.Numeral.read? lowest highest key.toList with
  | some value => .number value
  | none => .text key

namespace Rank

/-- Numbers come before texts. -/
def compare : Rank → Rank → Ordering
  | .number a, .number b => Ord.compare a b
  | .number _, .text _ => .lt
  | .text _, .number _ => .gt
  | .text a, .text b => Ord.compare a b

instance : Std.OrientedCmp compare where
  eq_swap {a b} := by
    cases a <;> cases b
    · exact Std.OrientedOrd.eq_swap
    · rfl
    · rfl
    · exact Std.OrientedOrd.eq_swap

instance : Std.TransCmp compare where
  isLE_trans {a b c} ab bc := by
    cases a <;> cases b <;> cases c <;> simp only [compare] at *
    · exact Std.TransOrd.isLE_trans ab bc
    · rfl
    · cases bc
    · rfl
    · cases ab
    · cases ab
    · cases bc
    · exact Std.TransOrd.isLE_trans ab bc

instance : Std.LawfulEqCmp compare where
  eq_of_compare {a b} h := by
    cases a <;> cases b <;> simp_all [compare]

end Rank

/-- Compares two keys by rank. -/
def compare (left right : String) : Ordering :=
  (rank left).compare (rank right)

instance : Std.OrientedCmp compare where
  eq_swap := (inferInstance : Std.OrientedCmp Rank.compare).eq_swap

instance : Std.TransCmp compare where
  isLE_trans := (inferInstance : Std.TransCmp Rank.compare).isLE_trans

theorem compare_eq_iff {left right : String} : compare left right = .eq ↔ rank left = rank right :=
  ⟨fun h => (inferInstance : Std.LawfulEqCmp Rank.compare).eq_of_compare h,
    fun h => by rw [compare, h]; exact Std.ReflCmp.compare_self⟩

/-- The left key is at or before the right one. -/
def le (left right : String) : Bool :=
  (compare left right).isLE

theorem le_trans {a b c : String} (ab : le a b = true) (bc : le b c = true) : le a c = true :=
  Std.TransCmp.isLE_trans ab bc

theorem le_total (a b : String) : (le a b || le b a) = true := by
  have swap : compare b a = (compare a b).swap := Std.OrientedCmp.eq_swap
  simp only [le, swap]
  cases compare a b <;> rfl

end Storytest.Key
