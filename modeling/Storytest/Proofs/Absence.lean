import Storytest.Proofs.Blame

/-!
# Optional parameters without a value

An optional parameter for which nothing is stored is bound to nothing, but only at the end: where a
parameter behind it resolves, its read finds that one's value. So parameters that each could be
served are served together exactly when there is no such gap (`served_iff`).
-/

namespace Storytest

/-- The parameter could be served: a value of its type is resolved for it, or nothing although it is
optional. -/
inductive Param.Fits (param : Param Ty) (store : Store) : Prop
  | needed {ty : Ty} {value : Value} :
      param.kind = .required ty → param.resolve store = some value → value.ty = ty →
        Param.Fits param store
  | given {ty : Ty} {value : Value} :
      param.kind = .optional ty → param.resolve store = some value → value.ty = ty →
        Param.Fits param store
  | absent {ty : Ty} :
      param.kind = .optional ty → param.resolve store = none → Param.Fits param store

namespace Param.Fits

variable {param : Param Ty} {store : Store}

theorem isSingle (h : param.Fits store) : param.IsSingle := by
  cases h with
  | needed hk => exact ⟨_, .inl hk⟩
  | given hk => exact ⟨_, .inr hk⟩
  | absent hk => exact ⟨_, .inr hk⟩

theorem accepted_of_resolve (h : param.Fits store) {value : Value}
    (hr : param.resolve store = some value) : param.accepted = [value.ty] := by
  cases h with
  | needed hk hv ht | given hk hv ht =>
    obtain rfl := Option.some.inj (hv.symm.trans hr)
    simp [Param.accepted, hk, ht]
  | absent hk hn => cases hn.symm.trans hr

theorem optional_of_omitted (h : param.Fits store) (hr : param.resolve store = none) :
    ∃ ty, param.kind = .optional ty := by
  cases h with
  | needed hk hv | given hk hv => cases hv.symm.trans hr
  | absent hk => exact ⟨_, hk⟩

end Param.Fits

namespace Step

variable {params behind : List (Param Ty)} {param : Param Ty} {store : Store}

/-- Behind a parameter that resolves to nothing, all others do so too. -/
def Gapless (params : List (Param Ty)) (store : Store) : Prop :=
  params.Pairwise fun first later => first.resolve store = none → later.resolve store = none

/-- A parameter that could be served cannot be read only where its value is missed in front of
another's. -/
theorem unreadable_iff_of_fits (hf : param.Fits store) :
    Unreadable param behind store ↔
      param.resolve store = none ∧ ∃ later ∈ behind, later.resolve store ≠ none := by
  constructor
  · rintro (⟨value, hr, ht⟩ | ⟨hr, hlater | hrequired⟩)
    · exact absurd (hf.accepted_of_resolve hr) ht
    · exact ⟨hr, hlater⟩
    · exact absurd (hf.optional_of_omitted hr) hrequired
  · rintro ⟨hr, hlater⟩
    exact .inr ⟨hr, .inl hlater⟩

theorem gapless_iff (hf : ∀ param ∈ params, param.Fits store) :
    Gapless params store ↔ ∀ i, ¬UnreadableAt params store i := by
  induction params with
  | nil => simp [Gapless, UnreadableAt]
  | cons param params ih =>
    have hhead : ¬UnreadableAt (param :: params) store 0 ↔
        ∀ later ∈ params, param.resolve store = none → later.resolve store = none := by
      rw [unreadableAt_zero, unreadable_iff_of_fits (hf param List.mem_cons_self)]
      grind
    rw [Gapless, List.pairwise_cons, ← hhead, ← Nat.and_forall_add_one]
    simp only [unreadableAt_succ]
    exact and_congr_right' (ih fun q hq => hf q (List.mem_cons_of_mem _ hq))

variable {σ : Type}

theorem calls_of_gapless (hf : ∀ param ∈ params, param.Fits store) (hg : Gapless params store)
    (body : Body σ) (world : σ) :
    calls params body store world = [params.map fun param => param.resolve store] :=
  calls_of_readAll_ok
    (readAll_of_readable (fun param hp => (hf param hp).isSingle) ((gapless_iff hf).1 hg))

/-- The step fails about an optional parameter that resolves to nothing: it is said to have been
given the value of the next parameter that resolves. Nothing else changes. -/
def FailsAtGap (params : List (Param Ty)) (body : Body σ) (store : Store) (world : σ) : Prop :=
  ∃ (i : Nat) (param : Param Ty) (ty : Ty) (value : Value), params[i]? = some param ∧
    param.kind = .optional ty ∧ param.resolve store = none ∧
    next? (params.drop (i + 1)) store = some value ∧
    (typed params body).invoke ((typed params body).signature.arguments store) world =
      (.error (.failed (.argumentType i param.label ty.shortName value.ty.shortName)), world)

/-- With a gap, the body is not called, and the first gap is what the step fails about. -/
theorem fails_of_gap (hf : ∀ param ∈ params, param.Fits store) (hg : ¬Gapless params store)
    (body : Body σ) (world : σ) :
    calls params body store world = [] ∧ FailsAtGap params body store world := by
  rw [gapless_iff hf, not_forall_not] at hg
  obtain ⟨i, ⟨param, hi, hu⟩, hb⟩ := exists_first hg
  have hfit := hf param (List.mem_of_getElem? hi)
  obtain ⟨hr, later, hl, hne⟩ := (unreadable_iff_of_fits hfit).1 hu
  obtain ⟨ty, hk⟩ := hfit.optional_of_omitted hr
  obtain ⟨value, hnext⟩ : ∃ value, next? (params.drop (i + 1)) store = some value :=
    Option.ne_none_iff_exists'.1 fun hn => hne (next?_eq_none_iff.1 hn later hl)
  have ha : param.accepted = [ty] := by simp [Param.accepted, hk]
  obtain ⟨hcalls, hinvoke⟩ := invoke_of_readAll_error
    (readAll_of_first (fun param hp => (hf param hp).isSingle) hi ha hu hb) body world
  rw [complaint, hr, hnext] at hinvoke
  exact ⟨hcalls, i, param, ty, value, hi, hk, hr, hnext, hinvoke⟩

/-- Of a typed step whose parameters could each be served, the body is called with nothing for the
optional parameters that resolve to nothing and with its own value for every other exactly when no
parameter that resolves stands behind one that does not. Else the body is not called, and the step
fails about an optional parameter that resolves to nothing. -/
theorem served_iff (params : List (Param Ty)) (store : Store)
    (hf : ∀ param ∈ params, param.Fits store) (body : Body σ) (world : σ) :
    (calls params body store world = [params.map fun param => param.resolve store] ↔
        Gapless params store) ∧
      (¬Gapless params store →
        calls params body store world = [] ∧ FailsAtGap params body store world) := by
  refine ⟨⟨fun hcalls => ?_, fun hg => calls_of_gapless hf hg body world⟩,
    fun hg => fails_of_gap hf hg body world⟩
  by_contra hg
  cases (fails_of_gap hf hg body world).1.symm.trans hcalls

open Script Script.Closure in
/-- An optional text that is found by name, a number, and at the end an optional limit for which
nothing is stored. -/
theorem served_without_limit :
    let params := [want "note" string, need "amount" int32, want "limit" (ty "u32")]
    let store :=
      (Store.empty.set "amount" ⟨int32, .integer 7⟩).set "note" ⟨string, .text "rent"⟩
    (∀ param ∈ params, param.Fits store) ∧ Gapless params store ∧
      calls params idle store () =
        [[some ⟨string, .text "rent"⟩, some ⟨int32, .integer 7⟩, none]] := by
  intro params store
  have hnote : (want "note" string).resolve store = some ⟨string, .text "rent"⟩ := by cbv
  have hamount : (need "amount" int32).resolve store = some ⟨int32, .integer 7⟩ := by cbv
  have hlimit : (want "limit" (ty "u32")).resolve store = none :=
    ParamSpec.resolve_eq_none_iff.2 ⟨rfl, by decide⟩
  have hf : ∀ param ∈ params, param.Fits store := by
    simp only [params, List.forall_mem_cons, List.not_mem_nil, false_implies, implies_true,
      and_true]
    exact ⟨.given rfl hnote rfl, .needed rfl hamount rfl, .absent rfl hlimit⟩
  have hg : Gapless params store := by
    simp [Gapless, params, hnote, hamount, hlimit]
  refine ⟨hf, hg, ((served_iff params store hf idle ()).1.2 hg).trans ?_⟩
  simp only [params, List.map_cons, List.map_nil, hnote, hamount, hlimit]

open Script Script.Closure in
/-- An optional limit for which nothing is stored, in front of a name that is found: both could be
served, and yet the body is not called. -/
theorem unserved_limit_before_name :
    let params := [want "limit" (ty "u32"), need "name" string]
    let store := Store.empty.set "name" ⟨string, .text "ada"⟩
    (∀ param ∈ params, param.Fits store) ∧
      params.map (fun param => param.resolve store) = [none, some ⟨string, .text "ada"⟩] ∧
        calls params idle store () = [] := by
  intro params store
  have hlimit : (want "limit" (ty "u32")).resolve store = none :=
    ParamSpec.resolve_eq_none_iff.2 ⟨rfl, by decide⟩
  have hname : (need "name" string).resolve store = some ⟨string, .text "ada"⟩ := by cbv
  have hf : ∀ param ∈ params, param.Fits store := by
    simp only [params, List.forall_mem_cons, List.not_mem_nil, false_implies, implies_true,
      and_true]
    exact ⟨.absent rfl hlimit, .needed rfl hname rfl⟩
  have hg : ¬Gapless params store := by
    simp [Gapless, params, hlimit, hname]
  refine ⟨hf, ?_, (fails_of_gap hf hg idle ()).1⟩
  simp only [params, List.map_cons, List.map_nil, hlimit, hname]

end Step

end Storytest
