import Storytest.Proofs.Latest
import Storytest.Proofs.Run

/-!
# The trail of a run

A phase invokes its steps one after the other, each on the store and the state that those before it
left, up to the first that does not return. `trail` lists these invocations and `evaluate_trail`
tells the phase by them. A run is told in chapters, one for each phase that it reaches
(`run_chapters`), and what its steps gave is kept chapter by chapter: all of a phase that passed,
nothing of one that did not.
-/

namespace Storytest

variable {σ : Type}

/-! ## Invocations -/

/-- A step that is invoked: the entry that it waited in, the store that its arguments are taken
from, and the shared state that it finds. -/
structure Invocation (σ : Type) where
  entry : Entry σ
  store : Store
  world : σ

namespace Invocation

/-- The arguments that the store provides. -/
def arguments (invocation : Invocation σ) : List Value :=
  invocation.entry.step.signature.arguments invocation.store

/-- What comes of the invocation, and the state that it leaves. -/
def outcome (invocation : Invocation σ) : Except Halt (Option Value) × σ :=
  invocation.entry.step.invoke invocation.arguments invocation.world

/-- What there is to be stored afterwards: the value that was given, if any, under the key of the
entry. -/
def written (invocation : Invocation σ) : List Write :=
  match invocation.outcome.1 with
  | .ok (some value) => [(invocation.entry.key, value)]
  | _ => []

/-- How invocations end: with the first that did not return, or well. -/
def verdict : List (Invocation σ) → Except Halt Unit
  | [] => .ok ()
  | invocation :: rest =>
    match invocation.outcome.1 with
    | .error halt => .error halt
    | .ok _ => verdict rest

/-- The state that invocations leave. -/
def worldAfter (world : σ) (invocations : List (Invocation σ)) : σ :=
  invocations.foldl (fun _ invocation => invocation.outcome.2) world

/-- Invocations behind others that all returned. -/
theorem verdict_append {earlier : List (Invocation σ)} (h : verdict earlier = .ok ())
    (later : List (Invocation σ)) : verdict (earlier ++ later) = verdict later := by
  induction earlier with
  | nil => rfl
  | cons invocation earlier ih =>
    rw [List.cons_append, verdict]
    rw [verdict] at h
    cases ho : invocation.outcome.1 with
    | error halt => simp only [ho, reduceCtorEq] at h
    | ok given =>
      simp only [ho] at h
      exact ih h

theorem worldAfter_append (world : σ) (earlier later : List (Invocation σ)) :
    worldAfter world (earlier ++ later) = worldAfter (worldAfter world earlier) later :=
  List.foldl_append

end Invocation

open Invocation

/-- The invocations of a phase that runs these entries, on a store and a state. -/
def trail : List (Entry σ) → Store → σ → List (Invocation σ)
  | [], _, _ => []
  | entry :: rest, store, world =>
    let invocation : Invocation σ := ⟨entry, store, world⟩
    invocation ::
      match invocation.outcome with
      | (.error _, _) => []
      | (.ok _, after) => trail rest (store.keepAll invocation.written) after

/-- A phase ends as its invocations do. It leaves the state that they leave and, if they all
returned, a store that keeps what they gave. -/
theorem evaluate_trail (phase : Phase) (entries : List (Entry σ)) : ∀ (store : Store) (world : σ),
    (evaluate phase entries store world).result =
        (verdict (trail entries store world)).map
          (fun _ => store.keepAll ((trail entries store world).flatMap written)) ∧
      (evaluate phase entries store world).world =
        worldAfter world (trail entries store world) := by
  induction entries with
  | nil => exact fun store world => ⟨rfl, rfl⟩
  | cons entry entries ih =>
    intro store world
    simp only [evaluate, trail, verdict, written, worldAfter, outcome, arguments, List.foldl_cons,
      List.flatMap_cons]
    cases entry.step.invoke (entry.step.signature.arguments store) world with
    | mk result after =>
      cases result with
      | error halt => exact ⟨rfl, rfl⟩
      | ok given =>
        cases given with
        | none => exact ih store after
        | some value =>
          dsimp only [Report.after]
          rw [List.singleton_append]
          exact ih (store.keep entry.key value) after

/-- Each step of a phase is invoked on a store that keeps what those before it gave. -/
theorem store_of_trail {entries : List (Entry σ)} {store : Store} {world : σ}
    {earlier later : List (Invocation σ)} {invocation : Invocation σ}
    (h : trail entries store world = earlier ++ invocation :: later) :
    invocation.store = store.keepAll (earlier.flatMap written) := by
  induction entries generalizing store world earlier with
  | nil => simp [trail] at h
  | cons entry entries ih =>
    cases earlier with
    | nil =>
      obtain ⟨rfl, -⟩ := List.cons.inj h
      rfl
    | cons first earlier =>
      obtain ⟨rfl, hrest⟩ := List.cons.inj h
      rw [List.flatMap_cons, Store.keepAll_append]
      split at hrest
      · cases earlier <;> cases hrest
      · exact ih hrest

/-- The steps behind others are invoked on what those left, if none of them failed. -/
theorem trail_append (earlier later : List (Entry σ)) (store : Store) (world : σ) :
    trail (earlier ++ later) store world =
      trail earlier store world ++
        match verdict (trail earlier store world) with
        | .error _ => []
        | .ok () =>
          trail later (store.keepAll ((trail earlier store world).flatMap written))
            (worldAfter world (trail earlier store world)) := by
  induction earlier generalizing store world with
  | nil => rfl
  | cons entry earlier ih =>
    simp only [List.cons_append, trail, verdict, worldAfter, List.foldl_cons, List.flatMap_cons,
      Store.keepAll_append]
    cases ho : (⟨entry, store, world⟩ : Invocation σ).outcome with
    | mk result after =>
      cases result with
      | error halt => rfl
      | ok given =>
        dsimp only
        rw [ih]
        rfl

/-- Nothing runs behind a step that failed. -/
theorem trail_append_failed {earlier : List (Entry σ)} {store : Store} {world : σ} {halt : Halt}
    (h : verdict (trail earlier store world) = .error halt) (later : List (Entry σ)) :
    trail (earlier ++ later) store world = trail earlier store world := by
  rw [trail_append, h, List.append_nil]

/-! ## Chapters -/

/-- A part of the life of a scenario in which something is stored or invoked. -/
inductive Chapter (σ : Type) where
  /-- A literal condition is given. -/
  | literal (key : Option String) (value : Value)
  /-- The steps of a phase are invoked. -/
  | phase (phase : Phase) (invocations : List (Invocation σ))
  /-- An assertion is invoked. -/
  | assertion (invocation : Invocation σ)

namespace Chapter

/-- The invocations of a chapter. -/
def invocations : Chapter σ → List (Invocation σ)
  | .literal _ _ => []
  | .phase _ invocations => invocations
  | .assertion invocation => [invocation]

/-- What is kept of a chapter: a literal, or all that the steps of a phase gave if none of them
failed. What an assertion gives is not kept. -/
def kept : Chapter σ → List Write
  | .literal key value => [(key.filter (· ≠ ""), value)]
  | .phase _ invocations =>
    match verdict invocations with
    | .ok () => invocations.flatMap written
    | .error _ => []
  | .assertion _ => []

theorem kept_of_passed {phase : Phase} {invocations : List (Invocation σ)}
    (h : verdict invocations = .ok ()) :
    (Chapter.phase phase invocations).kept = invocations.flatMap written := by
  simp only [kept, h]

theorem kept_of_failed {phase : Phase} {invocations : List (Invocation σ)} {halt : Halt}
    (h : verdict invocations = .error halt) : (Chapter.phase phase invocations).kept = [] := by
  simp only [kept, h]

theorem kept_assertion (invocation : Invocation σ) : (Chapter.assertion invocation).kept = [] :=
  rfl

end Chapter

namespace Scenario

/-- The invocations of the waiting conditions. -/
def conditionTrail (scenario : Scenario σ) (world : σ) : List (Invocation σ) :=
  trail scenario.conditions.entries scenario.store world

/-- The store after all conditions. -/
def conditionStore (scenario : Scenario σ) (world : σ) : Store :=
  scenario.store.keepAll ((scenario.conditionTrail world).flatMap written)

/-- The invocations of the waiting actions, after all conditions. -/
def actionTrail (scenario : Scenario σ) (world : σ) : List (Invocation σ) :=
  trail scenario.actions.entries (scenario.conditionStore world)
    (worldAfter world (scenario.conditionTrail world))

/-- The store after all conditions and actions. -/
def actionStore (scenario : Scenario σ) (world : σ) : Store :=
  (scenario.conditionStore world).keepAll ((scenario.actionTrail world).flatMap written)

/-- The invocation of an assertion, after all conditions and actions. -/
def closing (scenario : Scenario σ) (assertion : Step σ) (world : σ) : Invocation σ :=
  ⟨⟨none, assertion⟩, scenario.actionStore world,
    worldAfter (worldAfter world (scenario.conditionTrail world)) (scenario.actionTrail world)⟩

/-- The chapters of a run: the conditions, the actions if no condition failed, and the assertion if
no action failed either. -/
def chapters (scenario : Scenario σ) (assertion : Step σ) (world : σ) : List (Chapter σ) :=
  .phase .condition (scenario.conditionTrail world) ::
    match verdict (scenario.conditionTrail world) with
    | .error _ => []
    | .ok () =>
      .phase .action (scenario.actionTrail world) ::
        match verdict (scenario.actionTrail world) with
        | .error _ => []
        | .ok () => [.assertion (scenario.closing assertion world)]

/-- How a run ends, by its chapters: with the first failure, or well. -/
def ending (scenario : Scenario σ) (assertion : Step σ) (world : σ) : Except Halt Unit :=
  verdict ((scenario.chapters assertion world).flatMap Chapter.invocations)

/-- The conditions end as their trail tells. -/
theorem runConditions_trail (scenario : Scenario σ) (world : σ) :
    (scenario.runConditions world).result =
        (verdict (scenario.conditionTrail world)).map (fun _ => scenario.conditionStore world) ∧
      (scenario.runConditions world).world =
        worldAfter world (scenario.conditionTrail world) :=
  evaluate_trail .condition scenario.conditions.entries scenario.store world

/-- The actions end as their trail tells. -/
theorem runActions_trail (scenario : Scenario σ) (world : σ) :
    let actions := scenario.runActions (scenario.conditionStore world)
      (worldAfter world (scenario.conditionTrail world))
    actions.result =
        (verdict (scenario.actionTrail world)).map (fun _ => scenario.actionStore world) ∧
      actions.world =
        worldAfter (worldAfter world (scenario.conditionTrail world))
          (scenario.actionTrail world) :=
  evaluate_trail .action scenario.actions.entries _ _

/-- An assertion ends as its invocation does, and leaves the state that it leaves. -/
theorem assertOn_invocation (assertion : Step σ) (store : Store) (world : σ) :
    (assertion.assertOn store world).result = verdict [⟨⟨none, assertion⟩, store, world⟩] ∧
      (assertion.assertOn store world).world =
        worldAfter world [⟨⟨none, assertion⟩, store, world⟩] := by
  simp only [Step.assertOn, verdict, outcome, arguments]
  cases (assertion.invoke (assertion.signature.arguments store) world).1 <;> exact ⟨rfl, rfl⟩

/-- The three ways a run goes, by its trails. -/
theorem run_trail_cases (scenario : Scenario σ) (assertion : Step σ) (world : σ) :
    let afterConditions := worldAfter world (scenario.conditionTrail world)
    let afterActions := worldAfter afterConditions (scenario.actionTrail world)
    -- A condition fails: the store stays, and the actions go on waiting.
    (∃ halt, verdict (scenario.conditionTrail world) = .error halt ∧
      (scenario.run assertion world).2.result = .error halt ∧
      (scenario.run assertion world).2.world = afterConditions ∧
      (scenario.run assertion world).1 = { scenario with conditions := .empty }) ∨
    -- An action fails: what the conditions gave is kept.
    (∃ halt, verdict (scenario.conditionTrail world) = .ok () ∧
      verdict (scenario.actionTrail world) = .error halt ∧
      (scenario.run assertion world).2.result = .error halt ∧
      (scenario.run assertion world).2.world = afterActions ∧
      (scenario.run assertion world).1 =
        { scenario with
          conditions := .empty, actions := .empty, store := scenario.conditionStore world }) ∨
    -- Both phases pass: all is kept, and the run ends as the assertion does.
    (verdict (scenario.conditionTrail world) = .ok () ∧
      verdict (scenario.actionTrail world) = .ok () ∧
      (scenario.run assertion world).2.result = verdict [scenario.closing assertion world] ∧
      (scenario.run assertion world).2.world =
        worldAfter afterActions [scenario.closing assertion world] ∧
      (scenario.run assertion world).1 =
        { scenario with
          conditions := .empty, actions := .empty, store := scenario.actionStore world }) := by
  intro afterConditions afterActions
  obtain ⟨hconditions, hworld⟩ := runConditions_trail scenario world
  obtain ⟨hactions, hfinal⟩ := runActions_trail scenario world
  have hrun := run_eq scenario assertion world
  cases hc : verdict (scenario.conditionTrail world) with
  | error halt =>
    rw [hc, Except.map] at hconditions
    simp only [hconditions, hworld] at hrun
    exact .inl ⟨halt, rfl, by rw [hrun], by rw [hrun], by rw [hrun]⟩
  | ok passed =>
    rw [hc, Except.map] at hconditions
    simp only [hconditions, hworld] at hrun
    right
    cases ha : verdict (scenario.actionTrail world) with
    | error halt =>
      rw [ha, Except.map] at hactions
      simp only [hactions, hfinal] at hrun
      exact .inl ⟨halt, rfl, rfl, by rw [hrun], by rw [hrun], by rw [hrun]⟩
    | ok passed =>
      rw [ha, Except.map] at hactions
      simp only [hactions, hfinal] at hrun
      obtain ⟨hresult, hlast⟩ :=
        assertOn_invocation assertion (scenario.actionStore world) afterActions
      exact .inr ⟨rfl, rfl, by rw [hrun]; exact hresult, by rw [hrun]; exact hlast, by rw [hrun]⟩

/-- The chapters of a run tell how it ends, the state that it leaves and what it stores. -/
theorem run_chapters (scenario : Scenario σ) (assertion : Step σ) (world : σ) :
    (scenario.run assertion world).2.result = scenario.ending assertion world ∧
      (scenario.run assertion world).2.world =
        worldAfter world ((scenario.chapters assertion world).flatMap Chapter.invocations) ∧
      (scenario.run assertion world).1.store =
        scenario.store.keepAll ((scenario.chapters assertion world).flatMap Chapter.kept) := by
  unfold ending chapters
  rcases run_trail_cases scenario assertion world with
    ⟨halt, hc, hr, hw, hs⟩ | ⟨halt, hc, ha, hr, hw, hs⟩ | ⟨hc, ha, hr, hw, hs⟩
  · rw [hr, hw, hs, hc]
    simp only [List.flatMap_singleton, Chapter.invocations, Chapter.kept_of_failed hc, hc]
    exact ⟨trivial, trivial, rfl⟩
  · rw [hr, hw, hs, hc]
    simp only [ha, List.flatMap_cons, List.flatMap_nil, List.append_nil, Chapter.invocations,
      Chapter.kept_of_passed hc, Chapter.kept_of_failed ha, verdict_append hc, worldAfter_append]
    exact ⟨trivial, trivial, rfl⟩
  · rw [hr, hw, hs, hc]
    simp only [ha, List.flatMap_cons, List.flatMap_nil, List.append_nil, Chapter.invocations,
      Chapter.kept_of_passed hc, Chapter.kept_of_passed ha, Chapter.kept_assertion,
      verdict_append hc, verdict_append ha, worldAfter_append, Store.keepAll_append]
    exact ⟨trivial, trivial, rfl⟩

/-- A run that fails ends with the chapter of the failure, of which nothing is kept. All chapters
before it passed. -/
theorem chapters_of_failure {scenario : Scenario σ} {assertion : Step σ} {world : σ} {halt : Halt}
    (h : scenario.ending assertion world = .error halt) :
    ∃ passed failing, scenario.chapters assertion world = passed ++ [failing] ∧
      (∀ chapter ∈ passed, verdict chapter.invocations = .ok ()) ∧
      verdict failing.invocations = .error halt ∧ failing.kept = [] := by
  unfold ending chapters at h
  unfold chapters
  cases hc : verdict (scenario.conditionTrail world) with
  | error halt' =>
    simp only [hc, List.flatMap_singleton, Chapter.invocations, Except.error.injEq] at h
    exact ⟨[], _, rfl, by simp, h ▸ hc, Chapter.kept_of_failed hc⟩
  | ok passed =>
    cases ha : verdict (scenario.actionTrail world) with
    | error halt' =>
      simp only [hc, ha, List.flatMap_cons, List.flatMap_nil, List.append_nil, Chapter.invocations,
        verdict_append hc, Except.error.injEq] at h
      exact ⟨[_], _, rfl, List.forall_mem_singleton.2 hc, h ▸ ha, Chapter.kept_of_failed ha⟩
    | ok passed =>
      simp only [hc, ha, List.flatMap_cons, List.flatMap_nil, List.append_nil, Chapter.invocations,
        verdict_append hc, verdict_append ha] at h
      exact ⟨[_, _], _, rfl, List.forall_mem_cons.2 ⟨hc, List.forall_mem_singleton.2 ha⟩, h, rfl⟩

end Scenario

end Storytest
