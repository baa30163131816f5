import Mathlib
import Storytest.Proofs.Resolution
import Storytest.Script.Catalogue

/-!
# What typed steps bind

The resolver leaves out the parameters it finds nothing for, and the values behind them move up. A
typed step reads by position all the same. `calls_singles`: with parameters of one type each, a
shifted value never passes for another's, because a type that was not found is stored nowhere.
`unions_bound_iff`: a union parameter takes any value, so it holds its own only where every union
parameter was resolved.
-/

namespace Storytest

namespace Param

/-- The parameter accepts one type. -/
def IsSingle (param : Param Ty) : Prop :=
  ∃ ty, param.kind = .required ty ∨ param.kind = .optional ty

/-- The argument may be absent. -/
def IsOptional (param : Param Ty) : Prop :=
  ∃ ty, param.kind = .optional ty

/-- The parameter accepts any one of some types. -/
def IsUnion (param : Param Ty) : Prop :=
  ∃ types, param.kind = .oneOf types

/-- The value that the resolver chooses for the parameter. -/
def resolve (param : Param Ty) (store : Store) : Option Value :=
  param.spec.resolve store

theorem isSingle_or_isUnion (param : Param Ty) : param.IsSingle ∨ param.IsUnion := by
  obtain ⟨name, kind⟩ := param
  cases kind with
  | required ty => exact .inl ⟨ty, .inl rfl⟩
  | optional ty => exact .inl ⟨ty, .inr rfl⟩
  | oneOf types => exact .inr ⟨types, rfl⟩

theorem accepted_of_read {param : Param Ty} (hs : param.IsSingle) {ty : Ty} :
    param.read.accepts ty = true ↔ param.accepted = [ty] := by
  obtain ⟨t, h | h⟩ := hs <;> simp [read, accepted, h, Read.accepts, eq_comm]

/-- A value of a single parameter's type is stored nowhere when the parameter is left out. -/
theorem not_accepts_of_omitted {param : Param Ty} (hs : param.IsSingle) {store : Store}
    (hr : param.resolve store = none) {key : String} {value : Value}
    (hm : (key, value) ∈ store.entries) : param.read.accepts value.ty = false := by
  rw [Bool.eq_false_iff, ne_eq, accepted_of_read hs]
  intro ha
  have := (ParamSpec.resolve_eq_none_iff.1 hr).2 (key, value) hm
  simp [spec, ha] at this

end Param

/-! ## Single reads -/

namespace Read

theorem from_some {read : Read} {position : Nat} {parameter : String} {value : Value}
    {binding : Option Value} :
    read.from? position parameter (some value) = .ok binding ↔
      read.accepts value.ty = true ∧ binding = some value := by
  by_cases h : read.accepts value.ty = true <;> simp [from?, h, eq_comm]

theorem from_none {param : Param Ty} {position : Nat} {parameter : String}
    {binding : Option Value} :
    param.read.from? position parameter none = .ok binding ↔
      param.IsOptional ∧ binding = none := by
  obtain ⟨name, kind⟩ := param
  cases kind <;> simp [from?, Param.read, Param.IsOptional, eq_comm]

end Read

namespace Step

theorem readAll_cons {values : List Value} {position : Nat} {param : Param Ty}
    {params : List (Param Ty)} {bindings : List (Option Value)} :
    Arguments.readAll ⟨values, position⟩ (reads (param :: params)) = .ok bindings ↔
      ∃ binding rest, param.read.from? position param.label values.head? = .ok binding ∧
        Arguments.readAll ⟨values.drop 1, position + 1⟩ (reads params) = .ok rest ∧
        bindings = binding :: rest := by
  simp only [reads, List.map_cons, Arguments.readAll, Arguments.read, Arguments.advance]
  cases hf : param.read.from? position param.label values.head? with
  | error failure => simp
  | ok binding =>
    cases hr : Arguments.readAll ⟨values.drop 1, position + 1⟩ (reads params) with
    | error failure => simp [reads] at hr; simp [hr, Except.map]
    | ok rest => simp [reads] at hr; simp [hr, Except.map, eq_comm]

/-- Once no value is left, all further parameters have to be optional. -/
theorem readAll_nil {params : List (Param Ty)} : ∀ {position : Nat} {bindings : List (Option Value)},
    Arguments.readAll ⟨[], position⟩ (reads params) = .ok bindings ↔
      (∀ param ∈ params, param.IsOptional) ∧ bindings = params.map fun _ => none := by
  induction params with
  | nil => intro _ bindings; simp [reads, Arguments.readAll, eq_comm]
  | cons param params ih =>
    intro position bindings
    simp only [readAll_cons, List.head?_nil, Read.from_none, List.drop_nil, ih, List.map_cons,
      List.forall_mem_cons]
    constructor
    · rintro ⟨_, _, ⟨ho, rfl⟩, ⟨hos, rfl⟩, rfl⟩
      exact ⟨⟨ho, hos⟩, rfl⟩
    · rintro ⟨⟨ho, hos⟩, rfl⟩
      exact ⟨_, _, ⟨ho, rfl⟩, ⟨hos, rfl⟩, rfl⟩

/-! ## The values left for a list of parameters -/

/-- The values provided for parameters: those of the resolved ones, in order. -/
def provided (params : List (Param Ty)) (store : Store) : List Value :=
  params.filterMap fun param => param.resolve store

theorem provided_cons_some {param : Param Ty} {params : List (Param Ty)} {store : Store}
    {value : Value} (hr : param.resolve store = some value) :
    provided (param :: params) store = value :: provided params store :=
  List.filterMap_cons_some hr

theorem provided_cons_none {param : Param Ty} {params : List (Param Ty)} {store : Store}
    (hr : param.resolve store = none) : provided (param :: params) store = provided params store :=
  List.filterMap_cons_none hr

theorem mem_provided {params : List (Param Ty)} {store : Store} {value : Value} :
    value ∈ provided params store ↔ ∃ param ∈ params, param.resolve store = some value :=
  List.mem_filterMap

theorem provided_eq_nil_iff {params : List (Param Ty)} {store : Store} :
    provided params store = [] ↔ ∀ param ∈ params, param.resolve store = none := by
  simp [provided, List.filterMap_eq_nil_iff]

/-- The read of a single parameter that was left out succeeds only when nothing is left to read. -/
theorem provided_eq_nil_of_read {param : Param Ty} (hs : param.IsSingle) {store : Store}
    (hr : param.resolve store = none) {params : List (Param Ty)} {position : Nat}
    {parameter : String} {binding : Option Value}
    (h : param.read.from? position parameter (provided params store).head? = .ok binding) :
    provided params store = [] := by
  cases hp : provided params store with
  | nil => rfl
  | cons value rest =>
    rw [hp, List.head?_cons, Read.from_some] at h
    obtain ⟨q, -, hq⟩ := mem_provided.1 (hp ▸ List.mem_cons_self : value ∈ provided params store)
    obtain ⟨key, hm⟩ := ParamSpec.mem_of_resolve hq
    rw [Param.not_accepts_of_omitted hs hr hm] at h
    exact absurd h.1 Bool.false_ne_true

/-! ## Calls of the body -/

variable {σ : Type}

/-- The body, which also puts the bindings of every call of it on record. -/
def recorded (body : Body σ) : Body (σ × List (List (Option Value))) := fun bindings world =>
  let (completion, after) := body bindings world.1
  (completion, after, world.2 ++ [bindings])

/-- The step of a recorded body ends as the step of the body does and leaves the same world, so
recording changes nothing else. What is put on record are the bindings that were read. -/
theorem invoke_recorded (params : List (Param Ty)) (body : Body σ) (values : List Value) (world : σ)
    (record : List (List (Option Value))) :
    (typed params (recorded body)).invoke values (world, record) =
      let plain := (typed params body).invoke values world
      (plain.1, plain.2, record ++
        match Arguments.readAll ⟨values, 0⟩ (reads params) with
        | .ok bindings => [bindings]
        | .error _ => []) := by
  simp only [invoke, typed, Arguments.ofList]
  cases Arguments.readAll ⟨values, 0⟩ (reads params) with
  | error failure => simp only [List.append_nil]
  | ok bindings => rfl

/-- The bindings of every call of the body, in order, when the typed step is invoked on what a
store provides. They are what the step of the recorded body puts on record, which else does the
same (`invoke_recorded`). -/
def calls (params : List (Param Ty)) (body : Body σ) (store : Store) (world : σ) :
    List (List (Option Value)) :=
  let step := typed params (recorded body)
  (step.invoke (step.signature.arguments store) (world, [])).2.2

theorem arguments_typed (params : List (Param Ty)) (body : Body σ) (store : Store) :
    (typed params body).signature.arguments store = provided params store := by
  simp only [typed, Signature.arguments, List.filterMap_map]
  rfl

/-- The body is called once where every read succeeds, and else not at all. -/
theorem calls_eq (params : List (Param Ty)) (body : Body σ) (store : Store) (world : σ) :
    calls params body store world =
      match Arguments.readAll ⟨provided params store, 0⟩ (reads params) with
      | .ok bindings => [bindings]
      | .error _ => [] := by
  unfold calls
  dsimp only
  rw [arguments_typed, invoke_recorded]
  exact List.nil_append _

theorem mem_calls {params : List (Param Ty)} {body : Body σ} {store : Store} {world : σ}
    {bindings : List (Option Value)} :
    bindings ∈ calls params body store world ↔
      Arguments.readAll ⟨provided params store, 0⟩ (reads params) = .ok bindings := by
  rw [calls_eq]
  cases Arguments.readAll ⟨provided params store, 0⟩ (reads params) with
  | error failure => simp
  | ok found => simp [eq_comm]

/-- The body that does nothing. -/
def idle : Body Unit := fun _ world => (.ok (.plain ⟨.tuple [], .unit⟩), world)

/-! ## Parameters of one type each -/

/-- The first `m` parameters resolve to values of their own types, and all others to nothing,
which they allow. -/
def Filled (params : List (Param Ty)) (store : Store) (m : Nat) : Prop :=
  (∀ param ∈ params.take m,
    ∃ value, param.resolve store = some value ∧ param.accepted = [value.ty]) ∧
  ∀ param ∈ params.drop m, param.resolve store = none ∧ param.IsOptional

/-- What every parameter is to be given when the first `m` are filled. -/
def filling (params : List (Param Ty)) (store : Store) (m : Nat) : List (Option Value) :=
  (params.take m).map (fun param => param.resolve store) ++ (params.drop m).map fun _ => none

/-- Filled parameters are read as they are resolved. -/
theorem readAll_of_filled {store : Store} {params : List (Param Ty)}
    (hs : ∀ param ∈ params, param.IsSingle) : ∀ {m position : Nat}, Filled params store m →
      Arguments.readAll ⟨provided params store, position⟩ (reads params) =
        .ok (filling params store m) := by
  induction params with
  | nil => intro m position _; simp [provided, reads, Arguments.readAll, filling]
  | cons param params ih =>
    intro m position hf
    cases m with
    | zero =>
      have hn : provided (param :: params) store = [] :=
        provided_eq_nil_iff.2 fun q hq => (hf.2 q hq).1
      rw [hn, readAll_nil]
      exact ⟨fun q hq => (hf.2 q hq).2, by simp [filling]⟩
    | succ m =>
      obtain ⟨⟨value, hr, ht⟩, hrest⟩ := List.forall_mem_cons.1 hf.1
      rw [provided_cons_some hr, readAll_cons]
      refine ⟨some value, filling params store m, ?_, ?_, ?_⟩
      · rw [List.head?_cons, Read.from_some]
        exact ⟨(Param.accepted_of_read (hs param List.mem_cons_self)).2 ht, rfl⟩
      · exact ih (fun q hq => hs q (List.mem_cons_of_mem _ hq)) ⟨hrest, hf.2⟩
      · simp [filling, hr]

/-- Reads that succeed leave no gap: a parameter that was left out has only such behind it. -/
theorem filled_of_readAll {store : Store} {params : List (Param Ty)}
    (hs : ∀ param ∈ params, param.IsSingle) :
    ∀ {position : Nat} {bindings : List (Option Value)},
      Arguments.readAll ⟨provided params store, position⟩ (reads params) = .ok bindings →
      ∃ m, Filled params store m := by
  induction params with
  | nil => intro _ _ _; exact ⟨0, by simp [Filled]⟩
  | cons param params ih =>
    intro position bindings h
    have hp := hs param List.mem_cons_self
    cases hr : param.resolve store with
    | some value =>
      rw [provided_cons_some hr] at h
      obtain ⟨binding, rest, hb, hrest, -⟩ := readAll_cons.1 h
      obtain ⟨m, hm⟩ := ih (fun q hq => hs q (List.mem_cons_of_mem _ hq)) hrest
      have ht := (Param.accepted_of_read hp).1 (Read.from_some.1 hb).1
      refine ⟨m + 1, ?_, hm.2⟩
      exact List.forall_mem_cons.2 ⟨⟨value, hr, ht⟩, hm.1⟩
    | none =>
      rw [provided_cons_none hr] at h
      obtain ⟨binding, rest, hb, -, -⟩ := readAll_cons.1 h
      -- What is left would be read here, so nothing is, and the rest has to do without.
      have hn := provided_eq_nil_of_read hp hr hb
      rw [hn] at h
      refine ⟨0, by simp, fun q hq => ⟨?_, (readAll_nil.1 h).1 q hq⟩⟩
      rcases List.mem_cons.1 hq with rfl | hq
      · exact hr
      · exact provided_eq_nil_iff.1 hn q hq

/-- A typed step with parameters of one type each runs its body exactly when, up to some place,
every parameter resolves to a value of its type, and behind it every parameter resolves to nothing
and is optional. The body is then called once; each parameter up to that place gets the value that
was resolved for it, and those behind it get nothing. -/
theorem calls_singles (params : List (Param Ty)) (hs : ∀ param ∈ params, param.IsSingle)
    (body : Body σ) (store : Store) (world : σ) :
    (calls params body store world ≠ [] ↔ ∃ m, Filled params store m) ∧
      ∀ m, Filled params store m → calls params body store world = [filling params store m] := by
  have hcall : ∀ m, Filled params store m →
      calls params body store world = [filling params store m] := by
    intro m hm
    rw [calls_eq, readAll_of_filled hs hm]
  refine ⟨⟨fun h => ?_, fun ⟨m, hm⟩ => by simp [hcall m hm]⟩, hcall⟩
  obtain ⟨bindings, hb⟩ := List.exists_mem_of_ne_nil _ h
  exact filled_of_readAll hs (mem_calls.1 hb)

open Script Script.Closure in
/-- A text is found by name and a number is not found at all: the body runs with the text alone. -/
theorem calls_name_without_limit :
    (∀ param ∈ [need "name" string, want "limit" (ty "u32")], param.IsSingle) ∧
      calls [need "name" string, want "limit" (ty "u32")] idle
        ((Store.empty.set "a" ⟨int32, .integer 1⟩).set "name" ⟨string, .text "ada"⟩) () =
        [[some ⟨string, .text "ada"⟩, none]] := by
  have hs : ∀ param ∈ [need "name" string, want "limit" (ty "u32")], param.IsSingle := by
    simp only [List.forall_mem_cons, List.not_mem_nil, false_implies, implies_true, and_true]
    exact ⟨⟨_, .inl rfl⟩, _, .inr rfl⟩
  refine ⟨hs, ?_⟩
  rw [(calls_singles _ hs _ _ _).2 1 ⟨?_, ?_⟩]
  · cbv
  · simp only [List.take, List.forall_mem_cons, List.not_mem_nil, false_implies, implies_true, and_true]
    exact ⟨⟨string, .text "ada"⟩, by cbv, rfl⟩
  · simp only [List.drop, List.forall_mem_cons, List.not_mem_nil, false_implies, implies_true, and_true]
    exact ⟨by cbv, _, rfl⟩

/-! ## Union parameters -/

/-- Where every union parameter resolves, reads that succeed give every parameter its own. -/
theorem readAll_eq_resolve {store : Store} {params : List (Param Ty)}
    (hu : ∀ param ∈ params, param.IsUnion → param.resolve store ≠ none) :
    ∀ {position : Nat} {bindings : List (Option Value)},
      Arguments.readAll ⟨provided params store, position⟩ (reads params) = .ok bindings →
      bindings = params.map fun param => param.resolve store := by
  induction params with
  | nil => intro _ bindings h; simpa [provided, reads, Arguments.readAll, eq_comm] using h
  | cons param params ih =>
    intro position bindings h
    have hus := fun q hq => hu q (List.mem_cons_of_mem _ hq)
    cases hr : param.resolve store with
    | some value =>
      rw [provided_cons_some hr] at h
      obtain ⟨binding, rest, hb, hrest, rfl⟩ := readAll_cons.1 h
      rw [(Read.from_some.1 hb).2, ih hus hrest, List.map_cons, hr]
    | none =>
      rw [provided_cons_none hr] at h
      obtain ⟨binding, rest, hb, -, -⟩ := readAll_cons.1 h
      have hp : param.IsSingle :=
        param.isSingle_or_isUnion.resolve_right fun h => hu param List.mem_cons_self h hr
      have hn := provided_eq_nil_of_read hp hr hb
      rw [hn] at h
      rw [(readAll_nil.1 h).2, List.map_cons, List.map_cons, hr]
      congr 1
      exact List.map_congr_left fun q hq => (provided_eq_nil_iff.1 hn q hq).symm

/-- A union parameter that was left out is given what was resolved for a parameter behind it. -/
theorem shifted_of_readAll {store : Store} {params : List (Param Ty)} :
    ∀ {values : List Value} {position : Nat} {bindings : List (Option Value)},
      values.Sublist (provided params store) →
      Arguments.readAll ⟨values, position⟩ (reads params) = .ok bindings →
      ∀ {i : Nat} {param : Param Ty}, params[i]? = some param → param.IsUnion →
        param.resolve store = none → ∃ j other value, i < j ∧ params[j]? = some other ∧
          other.resolve store = some value ∧ bindings[i]? = some (some value) := by
  induction params with
  | nil => intro _ _ _ _ _ i param hi; simp at hi
  | cons first params ih =>
    intro values position bindings hv h i param hi hu hr
    obtain ⟨binding, rest, hb, hrest, rfl⟩ := readAll_cons.1 h
    cases i with
    | zero =>
      obtain rfl : first = param := by simpa using hi
      rw [provided_cons_none hr] at hv
      cases values with
      | nil =>
        obtain ⟨⟨ty, ho⟩, -⟩ := Read.from_none.1 hb
        obtain ⟨types, hk⟩ := hu
        rw [hk] at ho
        cases ho
      | cons value values =>
        obtain ⟨other, ho, hvalue⟩ := mem_provided.1 (hv.subset List.mem_cons_self)
        obtain ⟨j, hj⟩ := List.getElem?_of_mem ho
        refine ⟨j + 1, other, value, by omega, by simpa using hj, hvalue, ?_⟩
        simp [(Read.from_some.1 hb).2]
    | succ i =>
      have hv' : (values.drop 1).Sublist (provided params store) := by
        cases hf : first.resolve store with
        | some value =>
          rw [provided_cons_some hf] at hv
          simpa using hv.tail
        | none =>
          rw [provided_cons_none hf] at hv
          exact (List.drop_sublist 1 values).trans hv
      obtain ⟨j, other, value, hij, hj, hvalue, hbind⟩ :=
        ih hv' hrest (by simpa using hi) hu hr
      exact ⟨j + 1, other, value, by omega, by simpa using hj, hvalue, by simpa using hbind⟩

/-- Every union parameter holds the value that the resolver chose for it, which is the one under its
name, or else the one of a listed type with the smallest key. -/
def UnionsBound (params : List (Param Ty)) (store : Store) (bindings : List (Option Value)) : Prop :=
  ∀ (i : Nat) (param : Param Ty), params[i]? = some param → param.IsUnion →
    ∃ value, bindings[i]? = some (some value) ∧ param.resolve store = some value ∧
      param.spec.Chosen store value

/-- Whenever the body of a typed step runs, its union parameters hold their own values exactly when
each of them resolves to one. A union parameter that resolves to nothing holds what was resolved for
a parameter behind it. -/
theorem unions_bound_iff (params : List (Param Ty)) (body : Body σ) (store : Store) (world : σ)
    (bindings : List (Option Value)) (h : bindings ∈ calls params body store world) :
    (UnionsBound params store bindings ↔
      ∀ param ∈ params, param.IsUnion → param.resolve store ≠ none) ∧
    ∀ (i : Nat) (param : Param Ty), params[i]? = some param → param.IsUnion →
      param.resolve store = none → ∃ (j : Nat) (other : Param Ty) (value : Value), i < j ∧
        params[j]? = some other ∧ other.resolve store = some value ∧
          bindings[i]? = some (some value) := by
  have hread := mem_calls.1 h
  refine ⟨⟨fun hb param hp hu => ?_, fun hu i param hi hpu => ?_⟩, fun i param hi hu hr =>
    shifted_of_readAll (List.Sublist.refl _) hread hi hu hr⟩
  · obtain ⟨i, hi⟩ := List.getElem?_of_mem hp
    obtain ⟨value, -, hr, -⟩ := hb i param hi hu
    simp [hr]
  · obtain ⟨value, hr⟩ := Option.ne_none_iff_exists'.1 (hu param (List.mem_of_getElem? hi) hpu)
    refine ⟨value, ?_, hr, ParamSpec.chosen_of_resolve hr⟩
    rw [readAll_eq_resolve hu hread, List.getElem?_map, hi, Option.map_some, hr]

open Script Script.Closure in
/-- A union parameter that resolves by type, before a parameter that resolves by name. -/
theorem union_bound_beside_number :
    [some ⟨string, .text "x-7"⟩, some ⟨int32, .integer 7⟩] ∈
        calls [union "id" [ty "u64", string], need "n" int32] idle
          ((Store.empty.set "n" ⟨int32, .integer 7⟩).set "o" ⟨string, .text "x-7"⟩) () ∧
      UnionsBound [union "id" [ty "u64", string], need "n" int32]
        ((Store.empty.set "n" ⟨int32, .integer 7⟩).set "o" ⟨string, .text "x-7"⟩)
        [some ⟨string, .text "x-7"⟩, some ⟨int32, .integer 7⟩] := by
  have hc : calls [union "id" [ty "u64", string], need "n" int32] idle
      ((Store.empty.set "n" ⟨int32, .integer 7⟩).set "o" ⟨string, .text "x-7"⟩) () =
      [[some ⟨string, .text "x-7"⟩, some ⟨int32, .integer 7⟩]] := by cbv
  have hm := hc ▸ List.mem_singleton_self _
  refine ⟨hm, (unions_bound_iff _ _ _ _ _ hm).1.2 ?_⟩
  simp only [List.forall_mem_cons, List.not_mem_nil, false_implies, implies_true, and_true]
  constructor
  · intro _ hn
    exact (ParamSpec.resolve_eq_none_iff.1 hn).2 ("o", ⟨string, .text "x-7"⟩)
      (.tail _ (.head _)) (.tail _ (.head _))
  · rintro ⟨types, hk⟩
    cases hk

open Script Script.Closure in
/-- A union parameter for which nothing is stored takes the text that an optional parameter behind
it asked for by name. -/
theorem union_takes_shifted_text :
    [some ⟨string, .text "ada"⟩, none] ∈
        calls [union "id" [ty "u64", ty "bool"], want "name" string] idle
          (Store.empty.set "name" ⟨string, .text "ada"⟩) () ∧
      ¬UnionsBound [union "id" [ty "u64", ty "bool"], want "name" string]
        (Store.empty.set "name" ⟨string, .text "ada"⟩) [some ⟨string, .text "ada"⟩, none] := by
  have hc : calls [union "id" [ty "u64", ty "bool"], want "name" string] idle
      (Store.empty.set "name" ⟨string, .text "ada"⟩) () =
      [[some ⟨string, .text "ada"⟩, none]] := by cbv
  refine ⟨hc ▸ List.mem_singleton_self _, fun h => ?_⟩
  obtain ⟨value, -, hr, -⟩ := h 0 (union "id" [ty "u64", ty "bool"]) rfl ⟨_, rfl⟩
  rw [show (union "id" [ty "u64", ty "bool"]).resolve _ = none by cbv] at hr
  cases hr

end Step

end Storytest
