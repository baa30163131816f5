import Storytest.Proofs.Selection

/-!
# Keys that are numerals

A numeral is an optional sign and one or more decimal digits (`Writes`). The order of keys knows
those whose number fits into 64 bits; to it, all others are texts. `orders_of_writes` says when
numerals compare as their numbers, when they come before other keys, and when the value injected by
type is the one under the smallest number.
-/

namespace Storytest

/-! ## Numerals and their numbers -/

namespace Text.Numeral

/-- The number that decimal digits write. -/
def worth (digits : List Char) : Nat :=
  Nat.ofDigits 10 (digits.reverse.map fun c => c.toNat - 48)

/-- An optional sign and one or more decimal digits, with the integer that they write. -/
inductive Writes : List Char → Int → Prop
  | unsigned {digits : List Char} :
      digits ≠ [] → (∀ c ∈ digits, c.isDigit = true) → Writes digits (worth digits)
  | plus {digits : List Char} :
      digits ≠ [] → (∀ c ∈ digits, c.isDigit = true) → Writes ('+' :: digits) (worth digits)
  | minus {digits : List Char} :
      digits ≠ [] → (∀ c ∈ digits, c.isDigit = true) → Writes ('-' :: digits) (-worth digits)

theorem worth_cons (c : Char) (digits : List Char) :
    worth (c :: digits) = (c.toNat - 48) * 10 ^ digits.length + worth digits := by
  simp only [worth, List.reverse_cons, List.map_append, List.map_cons, List.map_nil,
    Nat.ofDigits_append, Nat.ofDigits_singleton, List.length_map, List.length_reverse]
  ring

theorem digitsFrom_eq_some_iff {value n : Nat} {text : List Char} :
    digitsFrom value text = some n ↔
      (∀ c ∈ text, c.isDigit = true) ∧ n = value * 10 ^ text.length + worth text := by
  induction text generalizing value with
  | nil =>
    rw [digitsFrom]
    simp only [List.not_mem_nil, false_implies, implies_true, true_and, worth, List.reverse_nil,
      List.map_nil, Nat.ofDigits_nil, List.length_nil, pow_zero, mul_one, add_zero,
      Option.some.injEq]
    exact eq_comm
  | cons c text ih =>
    rw [digitsFrom]
    by_cases hc : c.isDigit = true
    · rw [if_pos hc, ih, worth_cons]
      have he : (10 * value + (c.toNat - 48)) * 10 ^ text.length + worth text =
          value * 10 ^ (c :: text).length + ((c.toNat - 48) * 10 ^ text.length + worth text) := by
        rw [List.length_cons]
        ring
      simp [he, hc]
    · simp [hc]

theorem digits_eq_some_iff {n : Nat} {text : List Char} :
    digits? text = some n ↔ text ≠ [] ∧ (∀ c ∈ text, c.isDigit = true) ∧ n = worth text := by
  cases text with
  | nil => simp [digits?]
  | cons c text =>
    have hd : digits? (c :: text) = digitsFrom 0 (c :: text) := rfl
    rw [hd, digitsFrom_eq_some_iff]
    simp

theorem value_eq_some_iff {n : Int} {text : List Char} : value? text = some n ↔ Writes text n := by
  constructor
  · intro h
    unfold value? at h
    split at h <;> obtain ⟨m, hm, rfl⟩ := Option.map_eq_some_iff.1 h <;>
      obtain ⟨hne, hd, rfl⟩ := digits_eq_some_iff.1 hm
    · exact .plus hne hd
    · exact .minus hne hd
    · exact .unsigned hne hd
  · intro h
    cases h with
    | plus hne hd => simp [value?, digits_eq_some_iff.2 ⟨hne, hd, rfl⟩]
    | minus hne hd => simp [value?, digits_eq_some_iff.2 ⟨hne, hd, rfl⟩]
    | unsigned hne hd =>
      unfold value?
      -- A digit is no sign.
      split
      · exact absurd (hd '+' List.mem_cons_self) (by decide)
      · exact absurd (hd '-' List.mem_cons_self) (by decide)
      · simp [digits_eq_some_iff.2 ⟨hne, hd, rfl⟩]

theorem Writes.unique {text : List Char} {m n : Int} (h : Writes text m) (h' : Writes text n) :
    m = n := by
  rw [← value_eq_some_iff] at h h'
  exact Option.some.inj (h.symm.trans h')

end Text.Numeral

open Text.Numeral

/-! ## Ranks of numerals -/

namespace Key

/-- The integer fits into 64 bits. -/
def Within (n : Int) : Prop :=
  lowest ≤ n ∧ n ≤ highest

instance (n : Int) : Decidable (Within n) :=
  inferInstanceAs (Decidable (lowest ≤ n ∧ n ≤ highest))

theorem rank_of_within {key : String} {n : Int} (h : Writes key.toList n) (hn : Within n) :
    rank key = .number n := by
  have hr : read? lowest highest key.toList = some n := by
    simp [read?, value_eq_some_iff.2 h, Option.filter_some, hn.1, hn.2]
  rw [rank, hr]

theorem rank_of_beyond {key : String} (h : ∀ n, Writes key.toList n → ¬Within n) :
    rank key = .text key := by
  have hr : read? lowest highest key.toList = none := by
    rw [read?, Option.filter_eq_none_iff]
    intro n hv hn
    simp only [Bool.and_eq_true, decide_eq_true_eq] at hn
    exact h n (value_eq_some_iff.1 hv) hn
  rw [rank, hr]

theorem rank_eq_number_iff {key : String} {n : Int} :
    rank key = .number n ↔ Writes key.toList n ∧ Within n := by
  constructor
  · intro h
    by_cases hw : ∃ m, Writes key.toList m ∧ Within m
    · obtain ⟨m, hm, hin⟩ := hw
      rw [rank_of_within hm hin] at h
      cases h
      exact ⟨hm, hin⟩
    · rw [rank_of_beyond fun m hm hin => hw ⟨m, hm, hin⟩] at h
      cases h
  · intro h
    exact rank_of_within h.1 h.2

theorem rank_of_writes_beyond {key : String} {n : Int} (h : Writes key.toList n)
    (hn : ¬Within n) : rank key = .text key :=
  rank_of_beyond fun _ hm => hm.unique h ▸ hn

/-- Two numerals compare as their numbers when both fit into 64 bits, and when one fits and the other
is above. Two that do not fit compare as texts. -/
theorem compare_writes {left right : String} {m n : Int} (hl : Writes left.toList m)
    (hr : Writes right.toList n) :
    compare left right = Ord.compare m n ↔
      (Within m ∨ Within n → lowest ≤ m ∧ lowest ≤ n) ∧
        (¬Within m → ¬Within n → Ord.compare left right = Ord.compare m n) := by
  unfold compare
  by_cases hm : Within m <;> by_cases hn : Within n
  · rw [rank_of_within hl hm, rank_of_within hr hn]
    simp [Rank.compare, hm, hn, hm.1, hn.1]
  · rw [rank_of_within hl hm, rank_of_writes_beyond hr hn]
    have h : Ord.compare m n = .lt ↔ lowest ≤ n := by
      rw [compare_lt_iff_lt]
      unfold Within at hm hn
      omega
    simp [Rank.compare, hm, hm.1, ← h, eq_comm]
  · rw [rank_of_writes_beyond hl hm, rank_of_within hr hn]
    have h : Ord.compare m n = .gt ↔ lowest ≤ m := by
      rw [compare_gt_iff_gt]
      unfold Within at hm hn
      omega
    simp [Rank.compare, hn, hn.1, ← h, eq_comm]
  · rw [rank_of_writes_beyond hl hm, rank_of_writes_beyond hr hn]
    simp [Rank.compare, hm, hn]

/-- A numeral comes before a key that is none when its number fits into 64 bits, and else when it
does so as a text. -/
theorem compare_other {left other : String} {m : Int} (hl : Writes left.toList m)
    (ho : ∀ n, ¬Writes other.toList n) :
    compare left other = .lt ↔ Within m ∨ Ord.compare left other = .lt := by
  unfold compare
  rw [rank_of_beyond fun n hn => absurd hn (ho n)]
  by_cases hm : Within m
  · rw [rank_of_within hl hm]
    simp [Rank.compare, hm]
  · rw [rank_of_writes_beyond hl hm]
    simp [Rank.compare, hm]

end Key

/-! ## The smallest number -/

namespace ParamSpec

/-- A value of an accepted type is stored under a numeral of the number. -/
def Offered (spec : ParamSpec) (store : Store) (key : String) (n : Int) : Prop :=
  Writes key.toList n ∧ ∃ value, store.get? key = some value ∧ value.ty ∈ spec.accepts

/-- The value that is injected by type is the one under the smallest number. -/
def TakesSmallest (spec : ParamSpec) (store : Store) : Prop :=
  ∃ key value n, spec.find store = .byType key value ∧ spec.Offered store key n ∧
    ∀ other m, spec.Offered store other m → n ≤ m

/-- The numeral of the smallest number is the first text among the keys of accepted values. -/
def SmallestFirst (spec : ParamSpec) (store : Store) : Prop :=
  ∃ key n, spec.Offered store key n ∧ (∀ other m, spec.Offered store other m → n ≤ m) ∧
    ∀ other candidate, store.get? other = some candidate → candidate.ty ∈ spec.accepts →
      (Ord.compare key other).isLE = true

variable {spec : ParamSpec} {store : Store} {key : String} {n : Int}

theorem find_eq_byType_iff {value : Value} (hs : spec.Nameless store) :
    spec.find store = .byType key value ↔ spec.Least store key value := by
  rw [← smallest_eq_some_iff, find, named_eq_none_iff.2 hs]
  cases spec.smallest? store with
  | none => simp
  | some entry => simp [Prod.ext_iff]

theorem exists_least (ho : spec.Offered store key n) :
    ∃ least value, spec.Least store least value := by
  obtain ⟨-, value, hv, ht⟩ := ho
  cases h : spec.smallest? store with
  | none => exact absurd ht (smallest_eq_none_iff.1 h _ (Store.get?_eq_some_iff.1 hv))
  | some entry => exact ⟨entry.1, entry.2, least_of_smallest h⟩

/-- With a number that fits into 64 bits among them, the smallest such is the first. -/
theorem takesSmallest_of_within (hs : spec.Nameless store) (ho : spec.Offered store key n)
    (hn : Key.Within n) :
    spec.TakesSmallest store ↔ ∀ other m, spec.Offered store other m → Key.lowest ≤ m := by
  obtain ⟨least, value, hl⟩ := exists_least ho
  obtain ⟨hw, found, hf, ht⟩ := ho
  have hle := hl.smallest key found hf ht
  rw [Key.le, Key.compare, Key.rank_of_within hw hn] at hle
  cases hrank : Key.rank least with
  | text t => rw [hrank] at hle; cases hle
  | number k =>
    obtain ⟨hk, hin⟩ := Key.rank_eq_number_iff.1 hrank
    constructor
    · rintro ⟨key', value', n', hfind, ho', hmin⟩ other m hother
      obtain ⟨rfl, rfl⟩ := ((find_eq_byType_iff hs).1 hfind).unique hl
      have hsame := ho'.1.unique hk
      have := hmin other m hother
      have := hin.1
      omega
    · intro hlow
      refine ⟨least, value, k, (find_eq_byType_iff hs).2 hl, ⟨hk, value, hl.stored, hl.accepted⟩, ?_⟩
      intro other m hother
      by_cases hm : Key.Within m
      · obtain ⟨hwm, candidate, hc, hct⟩ := hother
        have := hl.smallest other candidate hc hct
        rw [Key.le, Key.compare, hrank, Key.rank_of_within hwm hm] at this
        exact Std.isLE_compare.1 this
      · have := hlow other m hother
        unfold Key.Within at hin hm
        omega

/-- With none that fits, the smallest is taken when its numeral is also the first text. -/
theorem takesSmallest_of_beyond (hs : spec.Nameless store) (ho : spec.Offered store key n)
    (hn : ∀ other m, spec.Offered store other m → ¬Key.Within m) :
    spec.TakesSmallest store ↔ spec.SmallestFirst store := by
  -- All keys of accepted values rank as texts.
  have hrank : ∀ other candidate, store.get? other = some candidate →
      candidate.ty ∈ spec.accepts → Key.rank other = .text other := by
    intro other candidate hc hct
    exact Key.rank_of_beyond fun m hm => hn other m ⟨hm, candidate, hc, hct⟩
  obtain ⟨least, value, hl⟩ := exists_least ho
  have hleast := hrank least value hl.stored hl.accepted
  constructor
  · rintro ⟨first, found, k, hfind, hfirst, hmin⟩
    obtain ⟨rfl, rfl⟩ := ((find_eq_byType_iff hs).1 hfind).unique hl
    refine ⟨first, k, hfirst, hmin, ?_⟩
    intro other candidate hc hct
    have := hl.smallest other candidate hc hct
    rwa [Key.le, Key.compare, hleast, hrank other candidate hc hct] at this
  · rintro ⟨first, k, hfirst, hmin, htext⟩
    obtain ⟨found, hf, hft⟩ := hfirst.2
    have hle := htext least value hl.stored hl.accepted
    have hge := hl.smallest first found hf hft
    rw [Key.le, Key.compare, hleast, hrank first found hf hft] at hge
    have heq : first = least :=
      Std.LawfulEqOrd.eq_of_compare (Std.OrientedCmp.isLE_antisymm hle hge)
    exact ⟨least, value, k, (find_eq_byType_iff hs).2 hl, heq ▸ hfirst, hmin⟩

end ParamSpec

namespace Key

/-- What the order of keys makes of a numeral of the number. -/
structure Orders (key : String) (number : Int) : Prop where
  /-- It compares with another numeral as the numbers do exactly when neither is below the 64-bit
  integers while the other is one of them and, if neither is one, their texts compare so too. -/
  numerals : ∀ other n, Writes other.toList n →
    (compare key other = Ord.compare number n ↔
      (Within number ∨ Within n → lowest ≤ number ∧ lowest ≤ n) ∧
        (¬Within number → ¬Within n → Ord.compare key other = Ord.compare number n))
  /-- It comes before a key that is no numeral exactly when it is a 64-bit integer, or when it comes
  before as a text. -/
  others : ∀ other, (∀ n, ¬Writes other.toList n) →
    (compare key other = .lt ↔ Within number ∨ Ord.compare key other = .lt)
  /-- Where a value of an accepted type is stored under it, the value injected by type is the one
  under the smallest number exactly when no such value is below the 64-bit integers, if there are
  some among them, and else when the smallest number is also the first text. -/
  injected : ∀ (spec : ParamSpec) (store : Store), spec.Nameless store →
    spec.Offered store key number →
      (spec.TakesSmallest store ↔
        (∃ other n, spec.Offered store other n ∧ Within n) ∧
            (∀ other n, spec.Offered store other n → lowest ≤ n) ∨
          (∀ other n, spec.Offered store other n → ¬Within n) ∧ spec.SmallestFirst store)

/-- A numeral compares with another as their numbers do exactly when neither is below the 64-bit
integers while the other is one of them and, if neither is one, their texts compare so too. It comes
before a key that is no numeral exactly when it is a 64-bit integer or its text comes before. The
value injected by type is the one under the smallest number exactly when none is below the 64-bit
integers, if some are among these, and else when the smallest number is also the first text. -/
theorem orders_of_writes {key : String} {number : Int} (h : Writes key.toList number) :
    Orders key number := by
  refine ⟨fun other n ho => compare_writes h ho, fun other ho => compare_other h ho, ?_⟩
  intro spec store hs hkey
  by_cases hw : ∃ other n, spec.Offered store other n ∧ Within n
  · obtain ⟨other, n, ho, hn⟩ := id hw
    have hnot : ¬∀ other n, spec.Offered store other n → ¬Within n := fun h => h other n ho hn
    rw [ParamSpec.takesSmallest_of_within hs ho hn]
    simp only [hw, hnot, true_and, false_and, or_false]
  · have hnone : ∀ other n, spec.Offered store other n → ¬Within n := fun other n ho hn =>
      hw ⟨other, n, ho, hn⟩
    rw [ParamSpec.takesSmallest_of_beyond hs hkey hnone]
    simp only [hw, false_and, false_or]
    exact (and_iff_right hnone).symm

open Script in
/-- A numeral beyond 64 bits, and one that is written shorter: the second comes first as a text. -/
theorem orders_beside_beyond :
    let store := ((Store.empty.set "10" ⟨int32, .integer 1⟩).set "9" ⟨int32, .integer 2⟩).set
      "18446744073709551616" ⟨int32, .integer 3⟩
    let spec : ParamSpec := ⟨none, [int32]⟩
    Writes "9".toList 9 ∧ Orders "9" 9 ∧ compare "9" "18446744073709551616" = .lt ∧
      spec.Nameless store ∧ spec.Offered store "9" 9 ∧ spec.TakesSmallest store := by
  intro store spec
  have hnine : Writes "9".toList 9 := value_eq_some_iff.1 (by decide)
  have hten : Writes "10".toList 10 := value_eq_some_iff.1 (by decide)
  have hlong : Writes "18446744073709551616".toList 18446744073709551616 :=
    value_eq_some_iff.1 (by decide)
  have horders : Orders "9" 9 := orders_of_writes hnine
  have hin : Within 9 := by decide
  have hcompare : compare "9" "18446744073709551616" = .lt :=
    ((horders.numerals _ _ hlong).2 ⟨fun _ => by decide, fun h => absurd hin h⟩).trans (by decide)
  have hs : spec.Nameless store := fun name h => by cases h
  have ho : spec.Offered store "9" 9 :=
    ⟨hnine, ⟨int32, .integer 2⟩, rfl, List.mem_singleton_self _⟩
  have hlow : ∀ other n, spec.Offered store other n → lowest ≤ n := by
    rintro other n ⟨hw, value, hv, -⟩
    have hkeys : other ∈ ["10", "9", "18446744073709551616"] :=
      Store.has_iff.1 (by rw [Store.has, hv]; rfl)
    simp only [List.mem_cons, List.not_mem_nil, or_false] at hkeys
    rcases hkeys with rfl | rfl | rfl
    · exact hw.unique hten ▸ by decide
    · exact hw.unique hnine ▸ by decide
    · exact hw.unique hlong ▸ by decide
  exact ⟨hnine, horders, hcompare, hs, ho,
    (horders.injected spec store hs ho).2 (.inl ⟨⟨"9", 9, ho, hin⟩, hlow⟩)⟩

/-- The number one above the 64-bit integers and a greater one, which comes first. -/
theorem compare_beyond_swapped :
    Writes "9223372036854775808".toList 9223372036854775808 ∧
      Writes "10000000000000000000".toList 10000000000000000000 ∧
        (9223372036854775808 : Int) < 10000000000000000000 ∧
          compare "9223372036854775808" "10000000000000000000" = .gt :=
  ⟨value_eq_some_iff.1 (by decide), value_eq_some_iff.1 (by decide), by decide, by decide⟩

end Key

end Storytest
