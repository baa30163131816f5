import Storytest.Proofs.Resolution
import Storytest.Proofs.Trail
import Storytest.Script.Step

/-!
# Values are threaded by name

The life of a scenario is a chronicle of chapters, told by `chronicle` for any calls. Each of its
invocations finds the store in which everything written before is kept, except for what a phase
wrote that failed (`Told`). So a parameter takes the value that was written last under its name
(`threaded`), be it a literal, what a condition gave or what an action gave.
-/

namespace Storytest

variable {σ : Type}

open Invocation

/-! ## What the resolver supplies -/

/-- A parameter that is resolved takes its argument between those of the parameters around it. -/
theorem Signature.arguments_of_resolve {left right : List ParamSpec} {spec : ParamSpec}
    {store : Store} {value : Value} (h : spec.resolve store = some value) :
    (Signature.described (left ++ spec :: right)).arguments store =
      left.filterMap (·.resolve store) ++ value :: right.filterMap (·.resolve store) := by
  simp only [arguments, List.filterMap_append, List.filterMap_cons, h]

/-! ## The chapters of a life -/

/-- Each invocation of these chapters finds what the chapters and invocations before it added to a
store. -/
def Told (store : Store) : List (Chapter σ) → Prop
  | [] => True
  | chapter :: rest =>
    (∀ earlier invocation later, chapter.invocations = earlier ++ invocation :: later →
      invocation.store = store.keepAll (earlier.flatMap written)) ∧
    Told (store.keepAll chapter.kept) rest

namespace Told

variable {store : Store}

theorem append {first second : List (Chapter σ)} (h : Told store first)
    (hs : Told (store.keepAll (first.flatMap Chapter.kept)) second) :
    Told store (first ++ second) := by
  induction first generalizing store with
  | nil => exact hs
  | cons chapter first ih =>
    rw [List.flatMap_cons, Store.keepAll_append] at hs
    exact ⟨h.1, ih h.2 hs⟩

/-- What an invocation finds, by all that was written before it. -/
theorem store_eq {before after : List (Chapter σ)} {chapter : Chapter σ}
    {earlier later : List (Invocation σ)} {invocation : Invocation σ}
    (h : Told store (before ++ chapter :: after))
    (hi : chapter.invocations = earlier ++ invocation :: later) :
    invocation.store =
      store.keepAll (before.flatMap Chapter.kept ++ earlier.flatMap written) := by
  induction before generalizing store with
  | nil => exact h.1 earlier invocation later hi
  | cons first before ih =>
    rw [List.flatMap_cons, List.append_assoc, Store.keepAll_append]
    exact ih h.2

/-- The steps of a phase, on the store that the chapters before it left. -/
theorem phase {phase : Phase} {entries : List (Entry σ)} {world : σ} {rest : List (Chapter σ)}
    (hr : Told (store.keepAll (Chapter.phase phase (trail entries store world)).kept) rest) :
    Told store (.phase phase (trail entries store world) :: rest) :=
  ⟨fun _ _ _ h => store_of_trail h, hr⟩

/-- An assertion, on the store that the chapters before it left. -/
theorem assertion {invocation : Invocation σ} (h : invocation.store = store) :
    Told store [.assertion invocation] := by
  refine ⟨fun earlier other later hi => ?_, trivial⟩
  cases earlier with
  | nil =>
    obtain ⟨rfl, -⟩ := List.cons.inj hi
    exact h
  | cons first earlier =>
    obtain ⟨-, hrest⟩ := List.cons.inj hi
    cases earlier <;> cases hrest

/-- A literal. -/
theorem literal (key : Option String) (value : Value) :
    Told store [(.literal key value : Chapter σ)] := by
  refine ⟨fun earlier invocation later hi => ?_, trivial⟩
  cases earlier <;> cases hi

end Told

namespace Scenario

/-- The chapters of a run are told from the store of the scenario. -/
theorem told_chapters (scenario : Scenario σ) (assertion : Step σ) (world : σ) :
    Told scenario.store (scenario.chapters assertion world) := by
  unfold chapters
  refine Told.phase ?_
  cases hc : verdict (scenario.conditionTrail world) with
  | error halt => trivial
  | ok passed =>
    change Told (scenario.store.keepAll (Chapter.phase _ (scenario.conditionTrail world)).kept) _
    rw [Chapter.kept_of_passed hc]
    refine Told.phase ?_
    cases ha : verdict (scenario.actionTrail world) with
    | error halt => trivial
    | ok passed =>
      refine Told.assertion ?_
      change _ = (scenario.conditionStore world).keepAll
        (Chapter.phase _ (scenario.actionTrail world)).kept
      rw [Chapter.kept_of_passed ha]
      rfl

/-- The chapters of a call: a literal that it gives, or the run of a verification. -/
def callChapters (scenario : Scenario σ) (world : σ) : Call σ → List (Chapter σ)
  | .given key (.literal value) => [.literal key value]
  | .verify assertion => scenario.chapters assertion world
  | _ => []

/-- The chapters of calls made one after the other, up to the first that does not return. -/
def chronicle (scenario : Scenario σ) (world : σ) : List (Call σ) → List (Chapter σ)
  | [] => []
  | call :: rest =>
    scenario.callChapters world call ++
      match (scenario.call world call).result with
      | .ok next => next.chronicle (scenario.call world call).world rest
      | .error _ => []

/-- The chapters of a call are told from the store of the scenario. -/
theorem told_call (scenario : Scenario σ) (world : σ) (call : Call σ) :
    Told scenario.store (scenario.callChapters world call) := by
  cases call with
  | given key condition =>
    cases condition with
    | literal value => exact Told.literal key value
    | deferred step => trivial
  | verify assertion => exact told_chapters scenario assertion world
  | _ => trivial

/-- A call that returns has stored what its chapters keep. -/
theorem store_call {scenario next : Scenario σ} {world : σ} {call : Call σ}
    (h : (scenario.call world call).result = .ok next) :
    next.store =
      scenario.store.keepAll ((scenario.callChapters world call).flatMap Chapter.kept) := by
  cases call with
  | given key condition =>
    obtain rfl := Except.ok.inj h
    cases condition <;> rfl
  | act key step =>
    obtain rfl := Except.ok.inj h
    rfl
  | expect expectation =>
    obtain rfl := Except.ok.inj h
    rfl
  | actingAs principal options =>
    obtain ⟨name, provider, -, -, rfl⟩ := call_actingAs_ok h
    rfl
  | fake facade =>
    obtain rfl := Except.ok.inj h
    rfl
  | verify assertion =>
    rw [(verify_ok_iff.1 h).1]
    exact (run_chapters scenario assertion world).2.2

/-- The chronicle of any calls is told from the store of the scenario. -/
theorem told_chronicle (calls : List (Call σ)) : ∀ (scenario : Scenario σ) (world : σ),
    Told scenario.store (scenario.chronicle world calls) := by
  induction calls with
  | nil => exact fun _ _ => trivial
  | cons call calls ih =>
    intro scenario world
    refine (told_call scenario world call).append ?_
    split
    · rename_i next h
      rw [← store_call h]
      exact ih next _
    · trivial

/-- Calls that all return have stored what their chronicle keeps. -/
theorem store_play (calls : List (Call σ)) : ∀ {scenario last : Scenario σ} {world : σ},
    (scenario.play world calls).result = .ok last →
      last.store =
        scenario.store.keepAll ((scenario.chronicle world calls).flatMap Chapter.kept) := by
  induction calls with
  | nil =>
    intro scenario last world h
    obtain rfl := Except.ok.inj h
    rfl
  | cons call calls ih =>
    intro scenario last world h
    cases hc : (scenario.call world call).result with
    | error halt =>
      rw [play_cons_error hc, hc] at h
      cases h
    | ok next =>
      rw [play_cons hc] at h
      simp only [chronicle, hc, List.flatMap_append, Store.keepAll_append]
      rw [← store_call hc]
      exact ih h

/-- In the life of a scenario, values are threaded by name. -/
structure Threaded (config : Config σ) (world : σ) (calls : List (Call σ)) : Prop where
  /-- What is stored in the end is what was written and kept. -/
  stored : ∀ last, ((fresh config).play world calls).result = .ok last →
    last.store = Store.empty.keepAll (((fresh config).chronicle world calls).flatMap Chapter.kept)
  /-- A parameter with a name is supplied with the value that was written last under it, if any was:
  before this chapter and kept, or earlier in this chapter. -/
  supplied : ∀ before chapter after earlier invocation later,
    (fresh config).chronicle world calls = before ++ chapter :: after →
    chapter.invocations = earlier ++ invocation :: later →
    ∀ left spec right name,
      invocation.entry.step.signature = .described (left ++ spec :: right) →
      spec.name = some name → ∀ value,
        Write.latest (before.flatMap Chapter.kept ++ earlier.flatMap written) name = some value →
          spec.resolve invocation.store = some value ∧
          invocation.arguments = left.filterMap (·.resolve invocation.store) ++
            value :: right.filterMap (·.resolve invocation.store)
  /-- Under a name that nothing was written under, nothing is found. -/
  unnamed : ∀ before chapter after earlier invocation later,
    (fresh config).chronicle world calls = before ++ chapter :: after →
    chapter.invocations = earlier ++ invocation :: later → ∀ name,
      Write.latest (before.flatMap Chapter.kept ++ earlier.flatMap written) name = none →
        invocation.store.get? name = none

/-- What an invocation in the life of a scenario finds under a name is what was written last. -/
theorem get?_of_chronicle {config : Config σ} {world : σ} {calls : List (Call σ)}
    {before after : List (Chapter σ)} {chapter : Chapter σ} {earlier later : List (Invocation σ)}
    {invocation : Invocation σ}
    (h : (fresh config).chronicle world calls = before ++ chapter :: after)
    (hi : chapter.invocations = earlier ++ invocation :: later) (name : String) :
    invocation.store.get? name =
      Write.latest (before.flatMap Chapter.kept ++ earlier.flatMap written) name := by
  have htold := told_chronicle calls (fresh config) world
  rw [h] at htold
  rw [htold.store_eq hi, Store.get?_keepAll]
  exact Option.or_none

/-- Whatever calls are made, a parameter with a name is supplied with the value that was written
last under it: by a chapter before that was kept, or earlier in its own. Nothing is found under a
name that was not written, and in the end just the writes that were kept are stored. -/
theorem threaded (config : Config σ) (world : σ) (calls : List (Call σ)) :
    Threaded config world calls where
  stored _ h := store_play calls h
  supplied before chapter after earlier invocation later h hi left spec right name hs hn value
      hv := by
    have hfound : spec.named? invocation.store = some value := by
      rw [ParamSpec.named?, hn, Option.bind_some, get?_of_chronicle h hi, hv]
    have hresolved := ParamSpec.resolve_of_named hfound
    refine ⟨hresolved, ?_⟩
    rw [Invocation.arguments, hs, Signature.arguments_of_resolve hresolved]
  unnamed _ _ _ _ _ _ h hi name hv := by rw [get?_of_chronicle h hi, hv]

open Script in
/-- A literal balance, an action that gives another one and an action behind it that fails, as
expected, and a second verification that asks for the balance. -/
def refunded : List (Call World) :=
  [.given (some "balance") (.literal ⟨int32, .integer 10⟩),
    .act (some "balance") (closure [] "pay" (.plain (.literal ⟨int32, .integer 5⟩))),
    .act none (closure [] "ship" (.err Script.Cause.gatewayTimeout)),
    .expect (.ofType (programType "GatewayTimeout" [])),
    .verify (closure [] "check" .nothing),
    .verify (step (.described [⟨some "balance", [int32]⟩]) [.read (.required int32) "balance"]
      ⟨"recheck", none, .nothing⟩)]

open Script in
/-- What the first action gave was discarded with the second, so the literal is supplied. -/
theorem threaded_refunded :
    Threaded .default .empty refunded ∧
      ((fresh .default).play .empty refunded).world.records.getLast? =
        some (.step "recheck" [.value ⟨int32, .integer 10⟩]) :=
  ⟨threaded .default .empty refunded, rfl⟩

end Scenario

end Storytest
