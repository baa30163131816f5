import Storytest.Proofs.Trail
import Storytest.Script.Step

/-!
# What is kept of a run that failed

A failure that was expected lets the scenario go on, with what the phases before it gave and nothing
of the phase that failed. `unchanged_iff`: the store is the one of before exactly when it held these
values already. It always is when a condition failed.
-/

namespace Storytest.Scenario

variable {σ : Type}

/-- A scenario that goes on after a failure keeps what the phases that passed before it gave, and
nothing of the one that failed. Its store is the one of before when a condition failed, and else
exactly when the values kept were there already. -/
theorem unchanged_iff {scenario next : Scenario σ} {assertion : Step σ} {world : σ} {halt : Halt}
    (h : (scenario.verify assertion world).result = .ok next)
    (hf : (scenario.run assertion world).2.result = .error halt) :
    ∃ passed failing, scenario.chapters assertion world = passed ++ [failing] ∧
      (∀ chapter ∈ passed, Invocation.verdict chapter.invocations = .ok ()) ∧
      Invocation.verdict failing.invocations = .error halt ∧
      next.store = scenario.store.keepAll (passed.flatMap Chapter.kept) ∧
      ((∃ halt, Invocation.verdict (scenario.conditionTrail world) = .error halt) →
        next.store = scenario.store) ∧
      (next.store = scenario.store ↔ ∀ name value,
        Write.latest (passed.flatMap Chapter.kept) name = some value →
          scenario.store.get? name = some value) := by
  obtain ⟨rfl, -⟩ := verify_ok_iff.1 h
  obtain ⟨hending, -, hstore⟩ := run_chapters scenario assertion world
  obtain ⟨passed, failing, hchapters, hpassed, hfailing, hnothing⟩ :=
    chapters_of_failure (hending.symm.trans hf)
  have hkept : (scenario.run assertion world).1.store =
      scenario.store.keepAll (passed.flatMap Chapter.kept) := by
    rw [hstore, hchapters, List.flatMap_append, List.flatMap_singleton, hnothing, List.append_nil]
  refine ⟨passed, failing, hchapters, hpassed, hfailing, hkept, ?_, ?_⟩
  · rintro ⟨failed, hc⟩
    -- The conditions are the first chapter, and so the only one.
    rcases run_trail_cases scenario assertion world with
      ⟨_, -, -, -, hs⟩ | ⟨_, hc', -⟩ | ⟨hc', -⟩
    · rw [hs]
    · rw [hc] at hc'
      cases hc'
    · rw [hc] at hc'
      cases hc'
  · rw [← Store.keepAll_eq_self_iff, ← hkept]

open Script in
/-- A literal balance, a condition that gives another one, and what is to happen then. -/
def opened (condition action : Return) : Scenario World :=
  ((((fresh .default).given (some "balance") (.literal ⟨int32, .integer 10⟩)).given (some "balance")
    (.deferred (closure [] "open" condition))).act none (closure [] "pay" action)).expect
    (.ofType (programType "GatewayTimeout" []))

open Script in
/-- When the condition fails, the literal stays. -/
theorem unchanged_after_condition :
    ∃ next, ((opened (.err Script.Cause.gatewayTimeout) .nothing).verify
        (closure [] "check" .nothing) .empty).result = .ok next ∧
      next.store = (opened (.err Script.Cause.gatewayTimeout) .nothing).store := by
  have h : ((opened (.err Script.Cause.gatewayTimeout) .nothing).verify
    (closure [] "check" .nothing) .empty).result = .ok _ := rfl
  obtain ⟨_, _, _, _, _, _, hcondition, _⟩ := unchanged_iff h rfl
  exact ⟨_, h, hcondition ⟨_, rfl⟩⟩

open Script in
/-- When the action fails, what the condition gave has taken the place of the literal. -/
theorem literal_overwritten_despite_failure :
    ∃ next halt, ((opened (.plain (.literal ⟨int32, .integer 99⟩))
        (.err Script.Cause.gatewayTimeout)).verify (closure [] "check" .nothing) .empty).result =
          .ok next ∧
      ((opened (.plain (.literal ⟨int32, .integer 99⟩)) (.err Script.Cause.gatewayTimeout)).run
        (closure [] "check" .nothing) .empty).2.result = .error halt ∧
      (opened (.plain (.literal ⟨int32, .integer 99⟩)) (.err Script.Cause.gatewayTimeout)).store.get?
        "balance" = some ⟨int32, .integer 10⟩ ∧
      next.store.get? "balance" = some ⟨int32, .integer 99⟩ :=
  ⟨_, _, rfl, rfl, rfl, rfl⟩

end Storytest.Scenario
