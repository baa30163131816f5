import Mathlib
import Storytest.Proofs.Latest
import Storytest.Proofs.Resolution
import Storytest.Script.Catalogue

/-!
# The choice of a value

What a parameter is given can be said without a sort and a scan (`Selects`): the value under its
name, or else the value of an accepted type with the smallest key, where of keys that are the same
number the one counts that was first written last. `arguments_eq_iff`: the resolver gives exactly
these values. They are told by what is stored under each key and by the set of accepted types, so
the order of writing and the order of a union do not matter (`arguments_eq_of_alike`), as long as no
two keys are one number.
-/

namespace Storytest

/-! ## Entries and the order of writing -/

theorem Assoc.get?_eq_some_iff {κ α : Type} [DecidableEq κ] {entries : List (κ × α)}
    (hd : (keys entries).Nodup) {key : κ} {value : α} :
    get? entries key = some value ↔ (key, value) ∈ entries := by
  refine ⟨mem_of_get?, fun h => ?_⟩
  have hin : (get? entries key).isSome = true := get?_isSome_iff.2 (List.mem_map_of_mem h)
  obtain ⟨found, hf⟩ := Option.isSome_iff_exists.1 hin
  have he : (key, found) = (key, value) :=
    List.inj_on_of_nodup_map hd (mem_of_get? hf) h rfl
  rw [hf, (Prod.mk.inj he).2]

namespace Store

/-- The keys of a store stand in the order in which they were first written. -/
theorem keys_of_writes (writes : List Write) :
    (empty.keepAll writes).keys = (writes.map Write.key).eraseDups := by
  induction writes using List.reverseRecOn with
  | nil => rfl
  | append_singleton earlier write ih =>
    have hlast : (empty.keepAll (earlier ++ [write])).keys =
        ((empty.keepAll earlier).set write.key write.2).keys := by
      rw [keepAll_append, keepAll_cons]
      rfl
    rw [hlast, keys_set, ih, List.map_append, List.map_singleton, List.eraseDups_append]
    by_cases hin : write.key ∈ earlier.map Write.key
    · have hnone : [write.key].removeAll (earlier.map Write.key) = [] := by
        simpa [List.removeAll, List.filter_cons] using hin
      rw [hnone, if_pos (List.mem_eraseDups.2 hin)]
      simp
    · have hself : [write.key].removeAll (earlier.map Write.key) = [write.key] := by
        simpa [List.removeAll, List.filter_cons] using hin
      rw [hself, if_neg (fun h => hin (List.mem_eraseDups.1 h))]
      simp [List.eraseDups_cons]

theorem get?_eq_some_iff {store : Store} {key : String} {value : Value} :
    store.get? key = some value ↔ (key, value) ∈ store.entries :=
  Assoc.get?_eq_some_iff store.distinct

theorem idxOf_key {store : Store} {i : Nat} {entry : String × Value}
    (h : store.entries[i]? = some entry) : store.keys.idxOf entry.1 = i := by
  obtain ⟨hi, rfl⟩ := List.getElem?_eq_some_iff.1 h
  have hk : i < store.keys.length := by simpa [keys, Assoc.keys] using hi
  have := store.distinct.idxOf_getElem i hk
  simpa [keys, Assoc.keys] using this

/-- The descending order keeps the order of writing among keys of one rank. -/
theorem pairwise_written (store : Store) :
    store.descending.Pairwise fun first second => Key.compare first.1 second.1 = .eq →
      store.keys.idxOf first.1 ≤ store.keys.idxOf second.1 := by
  -- The entries are sorted as if each were numbered, and equal ranks were put in order of number.
  rw [descending, ← List.mergeSort_zipIdx, List.pairwise_map]
  have hsorted := List.pairwise_mergeSort (List.zipIdxLE_trans notBelow_trans)
    (List.zipIdxLE_total notBelow_total) store.entries.zipIdx
  refine hsorted.imp_of_mem fun {first second} hf hs hle hcompare => ?_
  have hplace : ∀ {numbered : (String × Value) × Nat},
      numbered ∈ store.entries.zipIdx.mergeSort (List.zipIdxLE notBelow) →
        store.keys.idxOf numbered.1.1 = numbered.2 := fun hm =>
    idxOf_key (List.mk_mem_zipIdx_iff_getElem?.1 (List.mem_mergeSort.1 hm))
  have hback : notBelow second.1 first.1 = true := by
    rw [notBelow, Key.le, hcompare]
    rfl
  rw [hplace hf, hplace hs]
  rw [List.zipIdxLE, if_pos hback] at hle
  split at hle
  · exact of_decide_eq_true hle
  · cases hle

end Store

/-! ## The value of an accepted type -/

namespace ParamSpec

/-- The value under a key is the one to take by type: it has an accepted type, no value of such a
type has a smaller key, and none whose key is the same number has a key that was first written
later (keys stand in the order of their first writing, `Store.keys_of_writes`). -/
structure Least (spec : ParamSpec) (store : Store) (key : String) (value : Value) : Prop where
  stored : store.get? key = some value
  accepted : value.ty ∈ spec.accepts
  smallest : ∀ other candidate, store.get? other = some candidate → candidate.ty ∈ spec.accepts →
    Key.le key other = true
  latest : ∀ other candidate, store.get? other = some candidate → candidate.ty ∈ spec.accepts →
    Key.compare key other = .eq → store.keys.idxOf other ≤ store.keys.idxOf key

variable {spec : ParamSpec} {store : Store}

theorem Least.unique {key other : String} {value candidate : Value}
    (h : spec.Least store key value) (ho : spec.Least store other candidate) :
    key = other ∧ value = candidate := by
  have hle := h.smallest other candidate ho.stored ho.accepted
  have hge := ho.smallest key value h.stored h.accepted
  have heq : Key.compare key other = .eq := Std.OrientedCmp.isLE_antisymm hle hge
  have hindex : store.keys.idxOf other = store.keys.idxOf key :=
    Nat.le_antisymm (h.latest other candidate ho.stored ho.accepted heq)
      (ho.latest key value h.stored h.accepted (Std.OrientedCmp.eq_comm.1 heq))
  have hkey : other = key :=
    List.idxOf_inj (Store.has_iff.1 (by simp [Store.has, ho.stored])) |>.1 hindex
  subst hkey
  exact ⟨rfl, Option.some.inj (h.stored.symm.trans ho.stored)⟩

theorem least_of_smallest {key : String} {value : Value}
    (h : spec.smallest? store = some (key, value)) : spec.Least store key value := by
  obtain ⟨hm, ht, hk⟩ := smallest_spec h
  obtain ⟨before, hb⟩ := List.getLast?_eq_some_iff.1 h
  refine ⟨Store.get?_eq_some_iff.2 hm, ht,
    fun other candidate ho => hk (other, candidate) (Store.get?_eq_some_iff.1 ho), ?_⟩
  intro other candidate ho hta hcompare
  have hp : (before ++ [(key, value)]).Pairwise fun first second =>
      Key.compare first.1 second.1 = .eq →
        store.keys.idxOf first.1 ≤ store.keys.idxOf second.1 :=
    hb ▸ store.pairwise_written.filter _
  rcases List.mem_append.1 (hb ▸ mem_accepted.2 ⟨Store.get?_eq_some_iff.1 ho, hta⟩) with hin | hin
  · exact (List.pairwise_append.1 hp).2.2 _ hin _ (List.mem_singleton_self _)
      (Std.OrientedCmp.eq_comm.1 hcompare)
  · obtain ⟨rfl, rfl⟩ := Prod.mk.inj (List.mem_singleton.1 hin)
    exact Nat.le_refl _

theorem smallest_eq_some_iff {key : String} {value : Value} :
    spec.smallest? store = some (key, value) ↔ spec.Least store key value := by
  refine ⟨least_of_smallest, fun h => ?_⟩
  cases hs : spec.smallest? store with
  | none =>
    exact absurd h.accepted (smallest_eq_none_iff.1 hs _ (Store.get?_eq_some_iff.1 h.stored))
  | some entry =>
    obtain ⟨hkey, hvalue⟩ := (least_of_smallest hs).unique h
    rw [← hkey, ← hvalue]

/-! ## What a parameter is given -/

/-- Nothing is stored under the parameter's name, if it has one. -/
def Nameless (spec : ParamSpec) (store : Store) : Prop :=
  ∀ name, spec.name = some name → store.get? name = none

/-- What a parameter is to be given. -/
inductive Selects (spec : ParamSpec) (store : Store) : Option Value → Prop
  /-- The value under its name, whatever its type. -/
  | byName {name : String} {value : Value} :
      spec.name = some name → store.get? name = some value → Selects spec store (some value)
  /-- Failing that, the value of an accepted type with the smallest key. -/
  | byType {key : String} {value : Value} :
      spec.Nameless store → spec.Least store key value → Selects spec store (some value)
  /-- Nothing, where no stored value has an accepted type either. -/
  | nothing :
      spec.Nameless store → (∀ key value, store.get? key = some value → value.ty ∉ spec.accepts) →
        Selects spec store none

theorem named_eq_none_iff : spec.named? store = none ↔ spec.Nameless store :=
  Option.bind_eq_none_iff

theorem selects_resolve (spec : ParamSpec) (store : Store) :
    spec.Selects store (spec.resolve store) := by
  cases hn : spec.named? store with
  | some value =>
    obtain ⟨name, hname, hvalue⟩ := Option.bind_eq_some_iff.1 hn
    rw [resolve_of_named hn]
    exact .byName hname hvalue
  | none =>
    rw [resolve_of_named_none hn]
    cases hs : spec.smallest? store with
    | some entry => exact .byType (named_eq_none_iff.1 hn) (least_of_smallest hs)
    | none =>
      exact .nothing (named_eq_none_iff.1 hn) fun key value h =>
        smallest_eq_none_iff.1 hs (key, value) (Store.get?_eq_some_iff.1 h)

theorem resolve_eq_iff {choice : Option Value} :
    spec.resolve store = choice ↔ spec.Selects store choice := by
  refine ⟨fun h => h ▸ selects_resolve spec store, fun h => ?_⟩
  cases h with
  | byName hname hvalue =>
    exact resolve_of_named (Option.bind_eq_some_iff.2 ⟨_, hname, hvalue⟩)
  | byType hn hl =>
    rw [resolve_of_named_none (named_eq_none_iff.2 hn), smallest_eq_some_iff.2 hl]
    rfl
  | nothing hn hnone =>
    exact resolve_eq_none_iff.2 ⟨named_eq_none_iff.2 hn, fun entry he =>
      hnone entry.1 entry.2 (Store.get?_eq_some_iff.2 he)⟩

end ParamSpec

/-! ## Arguments -/

namespace Signature

/-- The arguments that a store holds for a signature: for each parameter on its own what it is to be
given, in order of declaration and without those that are given nothing. -/
inductive Supplies (store : Store) : Signature → List Value → Prop
  | described {params : List ParamSpec} {choices : List (Option Value)} :
      List.Forall₂ (fun spec choice => spec.Selects store choice) params choices →
        Supplies store (.described params) choices.reduceOption
  | opaqueCall : Supplies store .opaqueCall []

/-- The arguments are, in order of declaration and each parameter on its own, the value under its
name, or else the value of an accepted type with the smallest key, the one that was first written
last among keys that are the same number, or else none; and there are no others. -/
theorem arguments_eq_iff (signature : Signature) (store : Store) (values : List Value) :
    signature.arguments store = values ↔ Supplies store signature values := by
  constructor
  · rintro rfl
    cases signature with
    | described params =>
      have hchoices : (params.map fun spec => spec.resolve store).reduceOption =
          params.filterMap fun spec => spec.resolve store := by
        rw [List.reduceOption, List.filterMap_map]
        rfl
      rw [arguments, ← hchoices]
      exact .described <| List.forall₂_map_right_iff.2 <|
        List.forall₂_same.2 fun spec _ => spec.selects_resolve store
    | opaqueCall => exact .opaqueCall
  · rintro (@⟨params, choices, heach⟩ | _)
    · have hmap : params.map (fun spec => spec.resolve store) = choices :=
        List.forall₂_eq_eq_eq ▸ List.forall₂_map_left_iff.2
          (heach.imp fun _ _ h => ParamSpec.resolve_eq_iff.2 h)
      rw [← hmap, List.reduceOption, List.filterMap_map]
      rfl
    · rfl

open Script in
/-- Of keys that are one number, the one counts that was first written last, although another was
written later. -/
example : (described [⟨none, [int32]⟩]).arguments
    ((((Store.empty.set "1" ⟨int32, .integer 10⟩).set "01" ⟨int32, .integer 20⟩).set "2"
      ⟨int32, .integer 30⟩).set "1" ⟨int32, .integer 40⟩) = [⟨int32, .integer 20⟩] := by cbv

end Signature

/-! ## What does not matter -/

namespace Store

/-- The stores hold the same value under every key. -/
def Agrees (first second : Store) : Prop :=
  ∀ key, first.get? key = second.get? key

/-- No two keys are one number. Numerals beyond 64 bits are compared as texts, and may be. -/
def NumbersDiffer (store : Store) : Prop :=
  ∀ key other number, store.has key = true → store.has other = true →
    Key.rank key = .number number → Key.rank other = .number number → key = other

theorem Agrees.numbersDiffer {first second : Store} (h : first.Agrees second)
    (hn : first.NumbersDiffer) : second.NumbersDiffer := by
  intro key other number hkey hother
  rw [has, ← h] at hkey hother
  exact hn key other number hkey hother

end Store

theorem Key.eq_of_text_rank {key text : String} (h : rank key = .text text) : text = key := by
  unfold rank at h
  split at h
  · cases h
  · exact (Rank.text.inj h).symm

theorem Store.NumbersDiffer.eq_of_compare {store : Store} (hn : store.NumbersDiffer)
    {key other : String} (hkey : store.has key = true) (hother : store.has other = true)
    (h : Key.compare key other = .eq) : key = other := by
  have hrank := Key.compare_eq_iff.1 h
  cases hk : Key.rank key with
  | number number => exact hn key other number hkey hother hk (hrank.symm.trans hk)
  | text text =>
    exact (Key.eq_of_text_rank hk).symm.trans (Key.eq_of_text_rank (hrank.symm.trans hk))

namespace ParamSpec

/-- Parameters of one name that accept the same types, in any order and however often. -/
def Alike (spec other : ParamSpec) : Prop :=
  spec.name = other.name ∧ ∀ ty, ty ∈ spec.accepts ↔ ty ∈ other.accepts

variable {spec other : ParamSpec} {first second : Store}

theorem Least.of_alike {key : String} {value : Value} (h : spec.Least first key value)
    (hspec : spec.Alike other) (hstores : first.Agrees second) (hn : second.NumbersDiffer) :
    other.Least second key value where
  stored := hstores key ▸ h.stored
  accepted := (hspec.2 _).1 h.accepted
  smallest k candidate hk ht :=
    h.smallest k candidate ((hstores k).trans hk) ((hspec.2 _).2 ht)
  latest k candidate hk _ hcompare := by
    have hkey : second.get? key = some value := hstores key ▸ h.stored
    -- A key of the same rank is the key itself, so the order of writing is not asked.
    have heq : key = k :=
      hn.eq_of_compare (by simp [Store.has, hkey]) (by simp [Store.has, hk]) hcompare
    exact Nat.le_of_eq (by rw [heq])

theorem Selects.of_alike {choice : Option Value} (h : spec.Selects first choice)
    (hspec : spec.Alike other) (hstores : first.Agrees second) (hn : second.NumbersDiffer) :
    other.Selects second choice := by
  have hnameless : spec.Nameless first → other.Nameless second := fun hno name hname =>
    hstores name ▸ hno name (hspec.1.trans hname)
  cases h with
  | byName hname hvalue => exact .byName (hspec.1 ▸ hname) (hstores _ ▸ hvalue)
  | byType hno hl => exact .byType (hnameless hno) (hl.of_alike hspec hstores hn)
  | nothing hno hnone =>
    exact .nothing (hnameless hno) fun key value hk ht =>
      hnone key value ((hstores key).trans hk) ((hspec.2 _).2 ht)

end ParamSpec

namespace Signature

/-- Signatures that differ only in how the accepted types of their parameters are listed. -/
inductive Alike : Signature → Signature → Prop
  | described {params others : List ParamSpec} :
      List.Forall₂ ParamSpec.Alike params others → Alike (.described params) (.described others)
  | opaqueCall : Alike .opaqueCall .opaqueCall

/-- Stores that hold the same values, in whatever order these were written, give the same arguments
for signatures that accept the same types, however these are listed, when no two keys are one
number. -/
theorem arguments_eq_of_alike {signature other : Signature} {first second : Store}
    (hsignatures : signature.Alike other) (hstores : first.Agrees second)
    (hn : first.NumbersDiffer) : signature.arguments first = other.arguments second := by
  have hresolve : ∀ {spec another : ParamSpec}, spec.Alike another →
      spec.resolve first = another.resolve second := fun {spec another} hspec =>
    (ParamSpec.resolve_eq_iff.2 <| (spec.selects_resolve first).of_alike hspec hstores
      (hstores.numbersDiffer hn)).symm
  cases hsignatures with
  | opaqueCall => rfl
  | described hparams =>
    simp only [arguments]
    induction hparams with
    | nil => rfl
    | cons hspec _ ih => simp only [List.filterMap_cons, hresolve hspec, ih]

open Script Script.Closure in
/-- A number and a text under keys that are numbers, and a union that lists both types: the number
is written twice in one store and once, in front of the text, in the other; the union is listed the
other way round, with a repetition. -/
theorem arguments_of_reordered_store :
    let ten : Value := ⟨string, .text "ten"⟩
    let nine : Value := ⟨ty "u64", .integer 9⟩
    let first := ((Store.empty.set "10" ten).set "9" ⟨ty "u64", .integer 0⟩).set "9" nine
    let second := (Store.empty.set "9" nine).set "10" ten
    let signature := described [⟨none, [ty "u64", string]⟩, ⟨some "10", [int32]⟩]
    let other := described [⟨none, [string, ty "u64", string]⟩, ⟨some "10", [int32]⟩]
    signature.Alike other ∧ first.Agrees second ∧ first.NumbersDiffer ∧
      signature.arguments first = other.arguments second ∧
        signature.arguments first = [nine, ten] := by
  intro ten nine first second signature other
  have hsignatures : signature.Alike other := by
    refine .described (.cons ⟨rfl, fun t => ?_⟩ (.cons ⟨rfl, fun _ => Iff.rfl⟩ .nil))
    simp only [List.mem_cons, List.not_mem_nil, or_false]
    tauto
  have hstores : first.Agrees second := by
    intro key
    simp only [first, second, Store.get?_set]
    by_cases h : "9" = key
    · simp [← h]
    · simp [h]
  have hn : first.NumbersDiffer := by
    intro key another number hkey hanother h h'
    have hkeys : ∀ key ∈ ["10", "9"], ∀ another ∈ ["10", "9"],
        Key.rank key = Key.rank another → key = another := by decide
    exact hkeys key (Store.has_iff.1 hkey) another (Store.has_iff.1 hanother) (h.trans h'.symm)
  exact ⟨hsignatures, hstores, hn, arguments_eq_of_alike hsignatures hstores hn, by cbv⟩

end Signature

end Storytest
