import Storytest.Proofs.Numerals

/-!
# Keys in order

Keys are compared by number or by text, whichever both of them have. `ranks_compare`: this is one
total preorder all the same, in which different keys are level only where they are the same number.
`descending_eq_iff`: the entries of a store in descending order are its only arrangement by that
preorder in which level keys stay in the order of their first writing.
-/

namespace Storytest

/-! ## The preorder -/

namespace Key

open Text.Numeral

/-- The key is a numeral of the number, which fits into 64 bits. -/
def Counts (key : String) (number : Int) : Prop :=
  Writes key.toList number ∧ Within number

theorem rank_of_counts_none {key : String} (h : ∀ number, ¬Counts key number) :
    rank key = .text key :=
  rank_of_beyond fun number hw hin => h number ⟨hw, hin⟩

theorem rank_eq_iff {left right : String} :
    rank left = rank right ↔
      left = right ∨ ∃ number, Counts left number ∧ Counts right number := by
  constructor
  · intro h
    by_cases hl : ∃ number, Counts left number
    · obtain ⟨number, hl⟩ := hl
      have hr : rank right = .number number := h.symm.trans (rank_eq_number_iff.2 hl)
      exact .inr ⟨number, hl, rank_eq_number_iff.1 hr⟩
    · have hl' : rank left = .text left := rank_of_counts_none fun number hn => hl ⟨number, hn⟩
      exact .inl (eq_of_text_rank (h.symm.trans hl'))
  · rintro (rfl | ⟨number, hl, hr⟩)
    · rfl
    · rw [rank_eq_number_iff.2 hl, rank_eq_number_iff.2 hr]

theorem compare_swap (left right : String) : compare right left = (compare left right).swap :=
  Std.OrientedCmp.eq_swap

/-- A comparison that ranks all keys, with those that are 64-bit integers in front. -/
structure Ranks (order : String → String → Ordering) : Prop where
  /-- Compared the other way round, two keys give the reverse. -/
  reversed : ∀ a b, order b a = (order a b).swap
  /-- A key that is not above one that is not above a third is not above the third. -/
  transitive : ∀ a b c, order a b ≠ .gt → order b c ≠ .gt → order a c ≠ .gt
  /-- A key is level with itself, and with the other keys that are the same number. -/
  level : ∀ a b, order a b = .eq ↔ a = b ∨ ∃ number, Counts a number ∧ Counts b number
  /-- A key that is a number is below every key that is none. -/
  below : ∀ a b, (∃ number, Counts a number) → (∀ number, ¬Counts b number) → order a b = .lt

/-- Comparing keys the other way round gives the reverse, and the comparison is transitive. Two keys
are level exactly if they are the same or the same 64-bit integer, and keys that are such integers
are below all others. -/
theorem ranks_compare : Ranks compare where
  reversed := compare_swap
  transitive a b c hab hbc := by
    have hle : (compare a c).isLE = true :=
      Std.TransCmp.isLE_trans (Ordering.isLE_iff_ne_gt.2 hab) (Ordering.isLE_iff_ne_gt.2 hbc)
    exact Ordering.isLE_iff_ne_gt.1 hle
  level a b := compare_eq_iff.trans rank_eq_iff
  below a b ha hb := by
    obtain ⟨number, ha⟩ := ha
    rw [compare, rank_eq_number_iff.2 ha, rank_of_counts_none hb]
    rfl

/-- One number in three spellings, and the greatest 64-bit integer below the one after it, which
ranks as a text. -/
example : compare "7" "07" = .eq ∧ compare "07" "+7" = .eq ∧
    compare "9223372036854775807" "9223372036854775808" = .lt ∧
      compare "9223372036854775808" "-1" = .gt := by
  decide

end Key

/-! ## The descending arrangement -/

namespace Store

/-- The entries of the store from the greatest key to the smallest, where keys that compare equal
keep their order. -/
structure Arranges (store : Store) (entries : List (String × Value)) : Prop where
  /-- They are the entries of the store in some order. -/
  perm : entries.Perm store.entries
  /-- No key is there twice. -/
  once : (Assoc.keys entries).Nodup
  /-- Every key of the store is there, with its own value. -/
  own : ∀ key value, (key, value) ∈ entries ↔ store.get? key = some value
  /-- The key of an earlier entry is greater than or equal to that of a later one. -/
  descends : entries.Pairwise fun first second => (Key.compare first.1 second.1).isGE = true
  /-- Of two keys that compare equal, the one that was first written earlier stands earlier
  (`keys_of_writes`). -/
  stable : entries.Pairwise fun first second => Key.compare first.1 second.1 = .eq →
    store.keys.idxOf first.1 < store.keys.idxOf second.1

variable {store : Store} {entries others : List (String × Value)}

theorem isGE_of_notBelow {first second : String × Value} (h : notBelow first second = true) :
    (Key.compare first.1 second.1).isGE = true := by
  rw [notBelow, Key.le, Key.compare_swap, Ordering.isLE_swap] at h
  exact h

/-- The arguments of the comparison are swapped, and the sort is stable. -/
theorem arranges_descending (store : Store) : store.Arranges store.descending := by
  have honce : (Assoc.keys store.descending).Nodup :=
    (store.descending_perm.map Prod.fst).nodup_iff.2 store.distinct
  refine ⟨store.descending_perm, honce, ?_, ?_, ?_⟩
  · intro key value
    rw [store.descending_perm.mem_iff, get?_eq_some_iff]
  · exact store.pairwise_descending.imp isGE_of_notBelow
  · -- Different keys have different places.
    have hkeys : store.descending.Pairwise fun first second => first.1 ≠ second.1 :=
      List.pairwise_map.1 honce
    refine (store.pairwise_written.and hkeys).imp_of_mem ?_
    rintro first second hf - ⟨hle, hne⟩ hcompare
    have hin : first.1 ∈ store.keys :=
      List.mem_map_of_mem (store.descending_perm.mem_iff.1 hf)
    exact Nat.lt_of_le_of_ne (hle hcompare) fun he => hne ((List.idxOf_inj hin).1 he)

/-- There is no other arrangement. -/
theorem Arranges.unique (h : store.Arranges entries) (ho : store.Arranges others) :
    entries = others := by
  refine List.Perm.eq_of_pairwise ?_ (h.descends.and h.stable) (ho.descends.and ho.stable)
    (h.perm.trans ho.perm.symm)
  rintro first second - - ⟨hge, hstable⟩ ⟨hge', hstable'⟩
  -- Two entries cannot each stand in front of the other: their keys would be equal.
  have hle : (Key.compare first.1 second.1).isLE = true := by
    rwa [Key.compare_swap, Ordering.isGE_swap] at hge'
  have hle' : (Key.compare second.1 first.1).isLE = true := by
    rwa [Key.compare_swap, Ordering.isGE_swap] at hge
  have hcompare : Key.compare first.1 second.1 = .eq := Std.OrientedCmp.isLE_antisymm hle hle'
  have := hstable hcompare
  have := hstable' (Std.OrientedCmp.eq_comm.1 hcompare)
  omega

/-- The descending entries are the entries of the store with the greatest key in front, where keys
that compare equal stay in the order of their first writing; and no other list is. -/
theorem descending_eq_iff : store.descending = entries ↔ store.Arranges entries := by
  constructor
  · rintro rfl
    exact arranges_descending store
  · intro h
    exact (arranges_descending store).unique h

/-- Three keys that are one number stay in the order in which they were written. -/
example : ((((((empty.set "07" default).set "b" default).set "10" default).set "7" default).set "+7"
    default).set "07" default).descending.map Prod.fst = ["b", "10", "07", "7", "+7"] := by
  cbv

end Store

end Storytest
