import Storytest.Proofs.Run
import Storytest.Script.Step

/-!
# What waits after a scenario was verified

No condition ever waits after a scenario was verified and goes on. Actions do when a condition failed
as expected: the run stops before they are taken out. `settled_iff`: verifying again runs the new
assertion alone exactly when no condition failed or no action was waiting.
-/

namespace Storytest

theorem Registry.eq_empty_iff {σ : Type} {registry : Registry σ} :
    registry = .empty ↔ registry.size = 0 := by
  constructor
  · rintro rfl
    rfl
  · intro h
    obtain ⟨entries, distinct, nonempty⟩ := registry
    obtain rfl : entries = [] := List.length_eq_zero_iff.1 h
    rfl

namespace Scenario

variable {σ : Type}

/-- Nothing waits in the scenario: whatever is expected meanwhile, running it runs the assertion
alone, and verifying it leaves the store as it is. -/
structure Settled (scenario : Scenario σ) : Prop where
  conditions : scenario.conditions.size = 0
  actions : scenario.actions.size = 0
  alone : ∀ (expected : Option Expectation) (assertion : Step σ) (world : σ),
    { scenario with expected }.run assertion world =
      ({ scenario with expected }, assertion.assertOn scenario.store world)
  kept : ∀ (expected : Option Expectation) (assertion : Step σ) (world : σ) (next : Scenario σ),
    ({ scenario with expected }.verify assertion world).result = .ok next →
      next.store = scenario.store

/-- With no step waiting, the rest follows. -/
theorem settled_of_size {scenario : Scenario σ} (hc : scenario.conditions.size = 0)
    (ha : scenario.actions.size = 0) : scenario.Settled := by
  have alone : ∀ (expected : Option Expectation) (assertion : Step σ) (world : σ),
      { scenario with expected }.run assertion world =
        ({ scenario with expected }, assertion.assertOn scenario.store world) :=
    fun expected assertion world =>
      run_of_nothing_waiting { scenario with expected } (Registry.eq_empty_iff.2 hc)
        (Registry.eq_empty_iff.2 ha) assertion world
  refine ⟨hc, ha, alone, fun expected assertion world next h => ?_⟩
  rw [(verify_ok_iff.1 h).1, alone]

/-- A verified scenario that goes on has no condition waiting. It is settled exactly when no action
was waiting or the conditions passed; when a condition failed, every action that was waiting still
does. -/
theorem settled_iff {scenario next : Scenario σ} {assertion : Step σ} {world : σ}
    (h : (scenario.verify assertion world).result = .ok next) :
    next.conditions.size = 0 ∧
      (next.Settled ↔
        scenario.actions.size = 0 ∨ ∃ store, (scenario.runConditions world).result = .ok store) ∧
      ((∃ halt, (scenario.runConditions world).result = .error halt) →
        next.actions = scenario.actions) := by
  obtain ⟨rfl, -⟩ := verify_ok_iff.1 h
  obtain ⟨hconditions, hactions⟩ := run_waiting scenario assertion world
  have hnone := Registry.eq_empty_iff.1 hconditions
  rcases hactions with ⟨⟨halt, hc⟩, ha⟩ | ⟨⟨store, hc⟩, ha⟩
  · refine ⟨hnone, ⟨fun hs => .inl (ha ▸ hs.actions), fun hs => ?_⟩, fun _ => ha⟩
    rcases hs with hs | ⟨store, hok⟩
    · exact settled_of_size hnone (ha ▸ hs)
    · rw [hc] at hok
      cases hok
  · refine ⟨hnone, ⟨fun _ => .inr ⟨store, hc⟩, fun _ => ?_⟩, ?_⟩
    · exact settled_of_size hnone (Registry.eq_empty_iff.1 ha)
    · rintro ⟨halt, hf⟩
      rw [hc] at hf
      cases hf

open Script in
/-- A condition that returns what is said, and an action. -/
def prepared (returned : Return) : Scenario World :=
  ((fresh .default).given none (.deferred (closure [] "setup" returned))).act none
    (closure [] "pay" .nothing)

open Script in
/-- The condition fails, as it is expected to. -/
def stalled : Scenario World :=
  (prepared (.err Script.Cause.gatewayTimeout)).expect (.ofType (programType "GatewayTimeout" []))

open Script in
/-- With a condition that passes, nothing waits any more. -/
theorem settled_after_condition :
    ∃ next, ((prepared .nothing).verify (closure [] "check" .nothing) .empty).result = .ok next ∧
      next.Settled := by
  have h : ((prepared .nothing).verify (closure [] "check" .nothing) .empty).result = .ok _ := rfl
  refine ⟨_, h, (settled_iff h).2.1.2 (.inr ⟨.empty, rfl⟩)⟩

open Script in
/-- The action behind the condition still waits once the failure was taken as expected, and runs
when the scenario is verified again. -/
theorem stalled_action_runs_later :
    ∃ next, (stalled.verify (closure [] "check" .nothing) .empty).result = .ok next ∧
      next.actions.size = 1 ∧ ¬next.Settled ∧
      (next.verify (closure [] "check" .nothing) .empty).world.records.length = 2 := by
  refine ⟨_, rfl, rfl, fun h => ?_, rfl⟩
  exact absurd h.actions (by decide)

end Scenario

end Storytest
