import Storytest.Proofs.Binding

/-!
# Which parameter is blamed

A typed step reads by position from values of which the parameters that were left out have none.
With parameters of one type each, the reads stay in step with the parameters up to the first that
cannot be read (`readAll_from`), so the failure is about that one: `blames_first`.
-/

namespace Storytest

theorem Param.expected_of_accepted {param : Param Ty} (hs : param.IsSingle) {ty : Ty}
    (ha : param.accepted = [ty]) : param.read.expected = ty := by
  obtain ⟨t, h | h⟩ := hs <;> simpa [read, accepted, h, Read.expected] using ha

theorem Param.exists_accepted {param : Param Ty} (hs : param.IsSingle) :
    ∃ ty, param.accepted = [ty] := by
  obtain ⟨ty, h | h⟩ := hs <;> exact ⟨ty, by simp [accepted, h]⟩

theorem Read.from_of_rejected {read : Read} {position : Nat} {parameter : String} {value : Value}
    (h : read.accepts value.ty = false) : read.from? position parameter (some value) =
      .error (.argumentType position parameter read.expected.shortName value.ty.shortName) := by
  simp [from?, h]

namespace Step

/-! ## Parameters that cannot be read -/

/-- The value of the first of these parameters that resolves to one. -/
def next? (params : List (Param Ty)) (store : Store) : Option Value :=
  params.findSome? fun param => param.resolve store

/-- A parameter with these others behind it cannot be read: it resolves to a value that is not of
its type, or to nothing although a later one resolves to a value or its own is required. -/
def Unreadable (param : Param Ty) (behind : List (Param Ty)) (store : Store) : Prop :=
  (∃ value, param.resolve store = some value ∧ param.accepted ≠ [value.ty]) ∨
    param.resolve store = none ∧
      ((∃ later ∈ behind, later.resolve store ≠ none) ∨ ¬param.IsOptional)

/-- The parameter at an index cannot be read. -/
def UnreadableAt (params : List (Param Ty)) (store : Store) (i : Nat) : Prop :=
  ∃ param, params[i]? = some param ∧ Unreadable param (params.drop (i + 1)) store

/-- What is said of a parameter that cannot be read: that a value of another type was found, its own
or else that of the next parameter that resolves to one, or that there was none. -/
def complaint (position : Nat) (param : Param Ty) (expected : Ty) (behind : List (Param Ty))
    (store : Store) : Failure :=
  match param.resolve store, next? behind store with
  | some own, _ => .argumentType position param.label expected.shortName own.ty.shortName
  | none, some next => .argumentType position param.label expected.shortName next.ty.shortName
  | none, none => .missingArgument position param.label expected.shortName

variable {store : Store} {param : Param Ty} {params behind : List (Param Ty)}

theorem head?_provided (params : List (Param Ty)) (store : Store) :
    (provided params store).head? = next? params store :=
  List.head?_filterMap

theorem next?_eq_none_iff :
    next? params store = none ↔ ∀ param ∈ params, param.resolve store = none :=
  List.findSome?_eq_none_iff

theorem unreadableAt_zero :
    UnreadableAt (param :: params) store 0 ↔ Unreadable param params store := by
  simp [UnreadableAt]

theorem unreadableAt_succ {i : Nat} :
    UnreadableAt (param :: params) store (i + 1) ↔ UnreadableAt params store i := by
  simp [UnreadableAt]

theorem exists_first (h : ∃ i, UnreadableAt params store i) :
    ∃ i, UnreadableAt params store i ∧ ∀ j < i, ¬UnreadableAt params store j := by
  classical
  exact ⟨Nat.find h, Nat.find_spec h, fun j hj => Nat.find_min h hj⟩

/-! ## One read -/

theorem readAll_cons_of_ok {values : List Value} {position : Nat} {binding : Option Value}
    (h : param.read.from? position param.label values.head? = .ok binding) :
    Arguments.readAll ⟨values, position⟩ (reads (param :: params)) =
      (Arguments.readAll ⟨values.drop 1, position + 1⟩ (reads params)).map (binding :: ·) := by
  simp only [reads, List.map_cons, Arguments.readAll, Arguments.read, Arguments.advance, h]

theorem readAll_cons_of_error {values : List Value} {position : Nat} {failure : Failure}
    (h : param.read.from? position param.label values.head? = .error failure) :
    Arguments.readAll ⟨values, position⟩ (reads (param :: params)) = .error failure := by
  simp only [reads, List.map_cons, Arguments.readAll, Arguments.read, h]

/-- A parameter that can be read is read as it is resolved, and the values left are those of the
parameters behind it. -/
theorem readAll_cons_of_readable (hs : param.IsSingle) (h : ¬Unreadable param behind store)
    (position : Nat) :
    Arguments.readAll ⟨provided (param :: behind) store, position⟩ (reads (param :: behind)) =
      (Arguments.readAll ⟨provided behind store, position + 1⟩ (reads behind)).map
        (param.resolve store :: ·) := by
  obtain ⟨hown, hnone⟩ := not_or.1 h
  cases hr : param.resolve store with
  | some value =>
    have ht : param.accepted = [value.ty] := by
      by_contra hne
      exact hown ⟨value, hr, hne⟩
    rw [provided_cons_some hr]
    exact readAll_cons_of_ok (Read.from_some.2 ⟨(Param.accepted_of_read hs).2 ht, rfl⟩)
  | none =>
    obtain ⟨hlater, hoptional⟩ := not_or.1 fun hor => hnone ⟨hr, hor⟩
    -- Nothing is left to read, neither here nor behind.
    have hempty : provided behind store = [] := by
      refine provided_eq_nil_iff.2 fun later hl => ?_
      by_contra hne
      exact hlater ⟨later, hl, hne⟩
    rw [provided_cons_none hr, hempty]
    exact readAll_cons_of_ok (Read.from_none.2 ⟨not_not.1 hoptional, rfl⟩)

theorem readAll_cons_of_unreadable (hs : param.IsSingle) {ty : Ty} (ha : param.accepted = [ty])
    (h : Unreadable param behind store) (position : Nat) :
    Arguments.readAll ⟨provided (param :: behind) store, position⟩ (reads (param :: behind)) =
      .error (complaint position param ty behind store) := by
  have hexpected := Param.expected_of_accepted hs ha
  apply readAll_cons_of_error
  rcases h with ⟨value, hr, ht⟩ | ⟨hr, hrest⟩
  · have hrejected : param.read.accepts value.ty = false := by
      rw [Bool.eq_false_iff, ne_eq, Param.accepted_of_read hs]
      exact ht
    rw [provided_cons_some hr, List.head?_cons, Read.from_of_rejected hrejected, hexpected,
      complaint, hr]
  · rw [provided_cons_none hr, head?_provided]
    cases hn : next? behind store with
    | some value =>
      -- The value is stored, and had it been of this type, the parameter would have got it.
      have hin : value ∈ provided behind store :=
        List.mem_of_mem_head? ((head?_provided behind store).trans hn)
      obtain ⟨later, -, hl⟩ := mem_provided.1 hin
      obtain ⟨key, hm⟩ := ParamSpec.mem_of_resolve hl
      rw [Read.from_of_rejected (Param.not_accepts_of_omitted hs hr hm), hexpected, complaint, hr,
        hn]
    | none =>
      have hrequired : ¬param.IsOptional :=
        hrest.resolve_left fun ⟨later, hl, hne⟩ => hne (next?_eq_none_iff.1 hn later hl)
      have hkind : param.kind = .required ty := by
        obtain ⟨t, hk | hk⟩ := hs
        · simpa [Param.accepted, hk] using ha
        · exact absurd ⟨t, hk⟩ hrequired
      rw [complaint, hr, hn]
      simp [Param.read, hkind, Read.from?, Read.expected]

/-! ## All reads -/

/-- Up to a parameter in front of which all can be read, the reads give what was resolved, and go on
with the values of the parameters from there on. -/
theorem readAll_from (hs : ∀ param ∈ params, param.IsSingle) : ∀ {i : Nat} (position : Nat),
    (∀ j < i, ¬UnreadableAt params store j) →
      Arguments.readAll ⟨provided params store, position⟩ (reads params) =
        (Arguments.readAll ⟨provided (params.drop i) store, position + i⟩
          (reads (params.drop i))).map
            (((params.take i).map fun param => param.resolve store) ++ ·) := by
  induction params with
  | nil => intro i position _; simp [provided, reads, Arguments.readAll, Except.map]
  | cons param params ih =>
    intro i position hb
    cases i with
    | zero =>
      simp only [List.drop_zero, List.take_zero, List.map_nil, List.nil_append, Nat.add_zero]
      cases Arguments.readAll _ _ <;> rfl
    | succ i =>
      have hhead : ¬Unreadable param params store := unreadableAt_zero.not.1 (hb 0 i.succ_pos)
      have hrest : ∀ j < i, ¬UnreadableAt params store j := fun j hj =>
        unreadableAt_succ.not.1 (hb (j + 1) (Nat.succ_lt_succ hj))
      rw [readAll_cons_of_readable (hs param List.mem_cons_self) hhead,
        ih (fun q hq => hs q (List.mem_cons_of_mem _ hq)) (position + 1) hrest,
        List.drop_succ_cons, List.take_succ_cons, Nat.add_right_comm, Nat.add_assoc]
      cases Arguments.readAll _ _ <;> rfl

theorem readAll_of_first (hs : ∀ param ∈ params, param.IsSingle) {i : Nat} {ty : Ty}
    (hi : params[i]? = some param) (ha : param.accepted = [ty])
    (hu : Unreadable param (params.drop (i + 1)) store)
    (hb : ∀ j < i, ¬UnreadableAt params store j) :
    Arguments.readAll ⟨provided params store, 0⟩ (reads params) =
      .error (complaint i param ty (params.drop (i + 1)) store) := by
  have hdrop : params.drop i = param :: params.drop (i + 1) := by
    obtain ⟨hlt, rfl⟩ := List.getElem?_eq_some_iff.1 hi
    exact List.drop_eq_getElem_cons hlt
  rw [readAll_from hs 0 hb, hdrop,
    readAll_cons_of_unreadable (hs param (List.mem_of_getElem? hi)) ha hu, Nat.zero_add]
  rfl

theorem readAll_of_readable (hs : ∀ param ∈ params, param.IsSingle)
    (h : ∀ i, ¬UnreadableAt params store i) :
    Arguments.readAll ⟨provided params store, 0⟩ (reads params) =
      .ok (params.map fun param => param.resolve store) := by
  rw [readAll_from hs 0 fun j (_ : j < params.length) => h j, List.drop_length, List.take_length]
  simp [provided, reads, Arguments.readAll, Except.map]

/-! ## The failure of a step -/

variable {σ : Type}

/-- When a read fails, the body is not called, the step fails as the read does, and nothing else
changes. -/
theorem invoke_of_readAll_error {failure : Failure}
    (h : Arguments.readAll ⟨provided params store, 0⟩ (reads params) = .error failure)
    (body : Body σ) (world : σ) :
    calls params body store world = [] ∧
      (typed params body).invoke ((typed params body).signature.arguments store) world =
        (.error (.failed failure), world) := by
  constructor
  · rw [calls_eq, h]
  · rw [arguments_typed]
    simp only [invoke, typed, Arguments.ofList, h]

theorem calls_of_readAll_ok {body : Body σ} {world : σ} {bindings : List (Option Value)}
    (h : Arguments.readAll ⟨provided params store, 0⟩ (reads params) = .ok bindings) :
    calls params body store world = [bindings] := by
  rw [calls_eq, h]

/-- A typed step with parameters of one type each does not run its body exactly when it fails about
the first parameter that cannot be read: at that parameter's position, by its name, with the type it
expects, and with the type of the value found in its place, if there was one. -/
theorem blames_first (params : List (Param Ty)) (hs : ∀ param ∈ params, param.IsSingle)
    (body : Body σ) (store : Store) (world : σ) :
    calls params body store world = [] ↔
      ∃ (i : Nat) (param : Param Ty) (ty : Ty), params[i]? = some param ∧ param.accepted = [ty] ∧
        Unreadable param (params.drop (i + 1)) store ∧
        (∀ j < i, ¬UnreadableAt params store j) ∧
        (typed params body).invoke ((typed params body).signature.arguments store) world =
          (.error (.failed (complaint i param ty (params.drop (i + 1)) store)), world) := by
  constructor
  · intro hcalls
    by_cases hex : ∃ i, UnreadableAt params store i
    · obtain ⟨i, ⟨param, hi, hu⟩, hb⟩ := exists_first hex
      obtain ⟨ty, ha⟩ := Param.exists_accepted (hs param (List.mem_of_getElem? hi))
      have hfail := invoke_of_readAll_error (readAll_of_first hs hi ha hu hb) body world
      exact ⟨i, param, ty, hi, ha, hu, hb, hfail.2⟩
    · rw [calls_of_readAll_ok (readAll_of_readable hs (not_exists.1 hex))] at hcalls
      cases hcalls
  · rintro ⟨i, param, ty, hi, ha, hu, hb, -⟩
    exact (invoke_of_readAll_error (readAll_of_first hs hi ha hu hb) body world).1

open Script Script.Closure in
/-- Nothing is stored for an optional limit, so it is read from the amount behind it. -/
theorem blames_limit :
    let params := [need "name" string, want "limit" (ty "u32"), need "amount" int32]
    let store :=
      (Store.empty.set "amount" ⟨int32, .integer 7⟩).set "name" ⟨string, .text "ada"⟩
    (∀ param ∈ params, param.IsSingle) ∧ calls params idle store () = [] ∧
      (typed params idle).invoke ((typed params idle).signature.arguments store) () =
        (.error (.failed (.argumentType 1 "limit" "u32" "i32")), ()) := by
  intro params store
  have hs : ∀ param ∈ params, param.IsSingle := by
    simp only [params, List.forall_mem_cons, List.not_mem_nil, false_implies, implies_true,
      and_true]
    exact ⟨⟨_, .inl rfl⟩, ⟨_, .inr rfl⟩, _, .inl rfl⟩
  have hname : (need "name" string).resolve store = some ⟨string, .text "ada"⟩ := by cbv
  have hlimit : (want "limit" (ty "u32")).resolve store = none :=
    ParamSpec.resolve_eq_none_iff.2 ⟨rfl, by decide⟩
  have hamount : (need "amount" int32).resolve store = some ⟨int32, .integer 7⟩ := by cbv
  have hreadable : ∀ j < 1, ¬UnreadableAt params store j := by
    intro j hj
    obtain rfl : j = 0 := by omega
    rw [unreadableAt_zero, Unreadable, hname]
    rintro (⟨value, hr, ht⟩ | ⟨hr, -⟩)
    · cases hr
      exact ht rfl
    · cases hr
  have hunreadable : Unreadable (want "limit" (ty "u32")) [need "amount" int32] store :=
    .inr ⟨hlimit, .inl ⟨_, List.mem_singleton_self _, hamount ▸ Option.some_ne_none _⟩⟩
  have hinvoke := (invoke_of_readAll_error
    (readAll_of_first hs (i := 1) rfl rfl hunreadable hreadable) idle ()).2
  have hcomplaint : complaint 1 (want "limit" (ty "u32")) (ty "u32") [need "amount" int32] store =
      .argumentType 1 "limit" "u32" "i32" := by
    have hu32 : (ty "u32").shortName = "u32" := by decide +kernel
    have hi32 : int32.shortName = "i32" := by decide +kernel
    have hnext : next? [need "amount" int32] store = some ⟨int32, .integer 7⟩ := by
      rw [next?, List.findSome?_cons, hamount]
    rw [complaint, hlimit, hnext, hu32]
    exact congrArg (Failure.argumentType 1 "limit" "u32") hi32
  refine ⟨hs, (blames_first params hs idle store ()).2 ⟨1, _, _, rfl, rfl, hunreadable, hreadable,
    hinvoke⟩, hinvoke.trans ?_⟩
  exact congrArg (fun failure => (Except.error (Halt.failed failure), ())) hcomplaint

end Step

end Storytest
