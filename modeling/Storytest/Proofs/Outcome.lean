import Mathlib.Data.List.Induction
import Storytest.Proofs.Trail
import Storytest.Script.Step

/-!
# What a verification comes to

A verified scenario goes on when nothing failed and nothing was to, or when the failure was the
expected one; else it stops with the failure itself, or with the complaint that nothing failed.
`concludes` says so after any calls, together with the failure that was then expected, the one that
the last call to expect any asked for since the last verification, and with the scenario that goes
on.
-/

namespace Storytest

variable {σ : Type}

/-! ## What is expected after calls -/

/-- The call leaves what is expected as it is: it does not expect a failure, and does not verify. -/
def Call.keepsExpectation : Call σ → Bool
  | .expect _ | .verify _ => false
  | _ => true

/-- The last of the calls to expect a failure expects this one, and none verifies after it. -/
def Call.Expecting (calls : List (Call σ)) (expectation : Expectation) : Prop :=
  ∃ earlier later, calls = earlier ++ .expect expectation :: later ∧
    ∀ call ∈ later, call.keepsExpectation = true

/-- After another call, the failure expected is the one that this call asks for, or else the one
before. -/
theorem Call.expecting_concat_iff {calls : List (Call σ)} {call : Call σ}
    {expectation : Expectation} :
    Expecting (calls ++ [call]) expectation ↔
      call = .expect expectation ∨ call.keepsExpectation = true ∧ Expecting calls expectation := by
  constructor
  · rintro ⟨earlier, later, he, hk⟩
    rcases List.eq_nil_or_concat later with rfl | ⟨later, last, rfl⟩
    · exact .inl (List.append_inj_right' he rfl |> List.singleton_inj.1)
    · rw [List.concat_eq_append, ← List.cons_append, ← List.append_assoc] at he
      obtain ⟨rfl, hlast⟩ := List.append_inj' he rfl
      obtain rfl := List.singleton_inj.1 hlast
      refine .inr ⟨hk call (by simp), earlier, later, rfl, fun other ho => hk other (by simp [ho])⟩
  · rintro (rfl | ⟨hcall, earlier, later, rfl, hk⟩)
    · exact ⟨calls, [], rfl, by simp⟩
    · refine ⟨earlier, later ++ [call], by simp, fun other ho => ?_⟩
      rcases List.mem_append.1 ho with ho | ho
      · exact hk other ho
      · exact List.mem_singleton.1 ho ▸ hcall

namespace Scenario

/-- What is expected after a call that returned. -/
theorem expected_call {scenario next : Scenario σ} {world : σ} {call : Call σ}
    (h : (scenario.call world call).result = .ok next) (expectation : Expectation) :
    next.expected = some expectation ↔
      call = .expect expectation ∨
        call.keepsExpectation = true ∧ scenario.expected = some expectation := by
  cases call with
  | given key condition =>
    obtain rfl := Except.ok.inj h
    cases condition <;> simp [given, storeLiteral, Call.keepsExpectation]
  | act key step =>
    obtain rfl := Except.ok.inj h
    simp [act, Call.keepsExpectation]
  | expect asked =>
    obtain rfl := Except.ok.inj h
    simp [expect, Call.keepsExpectation]
  | actingAs principal options =>
    obtain ⟨name, provider, -, -, rfl⟩ := call_actingAs_ok h
    simp [Call.keepsExpectation]
  | fake facade =>
    obtain rfl := Except.ok.inj h
    simp [Call.keepsExpectation]
  | verify assertion =>
    obtain ⟨rfl, -⟩ := verify_ok_iff.1 h
    simp [Call.keepsExpectation]

/-- What is expected after calls on a scenario that expected nothing. -/
theorem expected_play {scenario : Scenario σ} (hn : scenario.expected = none) {world : σ}
    {calls : List (Call σ)} {last : Scenario σ} (h : (scenario.play world calls).result = .ok last)
    (expectation : Expectation) :
    last.expected = some expectation ↔ Call.Expecting calls expectation := by
  -- On the calls from the last one: it decides, or leaves it to those before it.
  induction calls using List.reverseRecOn generalizing last with
  | nil =>
    obtain rfl : scenario = last := Except.ok.inj h
    simp [hn, Call.Expecting]
  | append_singleton calls call ih =>
    obtain ⟨reached, hreached, hcall⟩ := play_concat_ok h
    rw [expected_call hcall, ih hreached, Call.expecting_concat_iff]

/-! ## Verifications -/

/-- The failure is the one that is expected. -/
def Absorbs (scenario : Scenario σ) (halt : Halt) : Prop :=
  ∃ failure expectation, halt = .failed failure ∧ scenario.expected = some expectation ∧
    expectation.isSatisfiedBy failure.links = true

/-- A verified scenario stops because nothing failed although something was to, or because something
failed that was not expected. -/
theorem verify_error_iff {scenario : Scenario σ} {assertion : Step σ} {world : σ} {halt : Halt} :
    (scenario.verify assertion world).result = .error halt ↔
      ((scenario.run assertion world).2.result = .ok () ∧
        ∃ expectation, scenario.expected = some expectation ∧
          halt = .failed (.unmet expectation.display)) ∨
      (scenario.run assertion world).2.result = .error halt ∧ ¬scenario.Absorbs halt := by
  unfold verify Absorbs
  cases hr : (scenario.run assertion world).2.result with
  | ok value =>
    cases he : scenario.expected with
    | none => simp [hr]
    | some expectation =>
      simp only [hr, Except.error.injEq, reduceCtorEq, false_and, or_false, true_and,
        Option.some.injEq, exists_eq_left']
      exact eq_comm
  | error reason =>
    simp only [reduceCtorEq, false_and, false_or, Except.error.injEq]
    cases reason with
    | panicked message =>
      simp only [hr, Except.error.injEq]
      refine ⟨?_, fun h => h.1⟩
      rintro rfl
      simp
    | failed failure =>
      cases he : scenario.expected with
      | none => simp [hr]
      | some expectation =>
        by_cases hs : expectation.isSatisfiedBy failure.links = true
        · simp only [hr, hs, if_true, reduceCtorEq, false_iff, not_and]
          rintro rfl hn
          exact hn ⟨failure, expectation, rfl, rfl, hs⟩
        · simp only [hr, if_neg hs, Except.error.injEq]
          refine ⟨?_, fun h => h.1⟩
          rintro rfl
          refine ⟨rfl, ?_⟩
          rintro ⟨failure', expectation', hf, hx, hs'⟩
          cases hf
          cases hx
          exact hs hs'

/-- Verified, a scenario that expects no failure ends as its chapters tell. -/
theorem verify_unexpecting {scenario : Scenario σ} (h : scenario.expected = none)
    (assertion : Step σ) (world : σ) :
    (scenario.verify assertion world).result =
        (scenario.ending assertion world).map (fun _ =>
          { scenario with
            conditions := .empty, actions := .empty, store := scenario.actionStore world }) ∧
      (scenario.verify assertion world).world =
        Invocation.worldAfter world ((scenario.chapters assertion world).flatMap Chapter.invocations) := by
  obtain ⟨hresult, hworld, -⟩ := run_chapters scenario assertion world
  refine ⟨?_, (verify_world scenario assertion world).trans hworld⟩
  cases he : scenario.ending assertion world with
  | error halt =>
    rw [he] at hresult
    exact verify_error_iff.2 (.inr ⟨hresult, by simp [Absorbs, h]⟩)
  | ok passed =>
    rw [he] at hresult
    refine verify_ok_iff.2 ⟨?_, .inl ⟨hresult, h⟩⟩
    rcases run_trail_cases scenario assertion world with
      ⟨halt, -, hr, -⟩ | ⟨halt, -, -, hr, -⟩ | ⟨-, -, -, -, hs⟩
    · cases hresult.symm.trans hr
    · cases hresult.symm.trans hr
    · rw [hs, h]

/-- A condition that fails ends the verification. -/
theorem verify_failed {scenario : Scenario σ} (he : scenario.expected = none) {world : σ}
    {halt : Halt} (h : Invocation.verdict (scenario.conditionTrail world) = .error halt)
    (assertion : Step σ) :
    (scenario.verify assertion world).result = .error halt ∧
      (scenario.verify assertion world).world =
        Invocation.worldAfter world (scenario.conditionTrail world) ∧
      (scenario.chapters assertion world).flatMap Chapter.invocations =
        scenario.conditionTrail world := by
  have hinvoked : (scenario.chapters assertion world).flatMap Chapter.invocations =
      scenario.conditionTrail world := by
    rw [chapters, h, List.flatMap_singleton, Chapter.invocations]
  obtain ⟨hresult, hworld⟩ := verify_unexpecting he assertion world
  rw [ending, hinvoked, h] at hresult
  exact ⟨hresult, by rw [hworld, hinvoked], hinvoked⟩

/-- What a verification comes to after calls on a fresh scenario. `ending` is how the run ends by
its trail: with the failure of the first step that fails, or well. -/
structure Concludes (before : List (Call σ)) (scenario : Scenario σ) (assertion : Step σ)
    (world : σ) : Prop where
  /-- The failure expected is the one last asked for since the previous verification. -/
  consulted : ∀ expectation,
    scenario.expected = some expectation ↔ Call.Expecting before expectation
  /-- It goes on when nothing failed and nothing was to, or when the expected failure occurred. -/
  goesOn : (∃ next, (scenario.verify assertion world).result = .ok next) ↔
    scenario.ending assertion world = .ok () ∧ scenario.expected = none ∨
      ∃ halt, scenario.ending assertion world = .error halt ∧ scenario.Absorbs halt
  /-- It stops with the complaint that nothing failed when something was to, and with the failure
  itself when that is not the expected one. -/
  stops : ∀ halt, (scenario.verify assertion world).result = .error halt ↔
    (scenario.ending assertion world = .ok () ∧
        ∃ expectation, scenario.expected = some expectation ∧
          halt = .failed (.unmet expectation.display)) ∨
      scenario.ending assertion world = .error halt ∧ ¬scenario.Absorbs halt
  /-- The scenario that goes on has no condition waiting. Its store is the one of before, and its
  actions wait, when a condition failed; else no action waits, and the store is the one after all
  conditions when an action failed, and after all conditions and actions when none did, whatever the
  assertion gave. -/
  reached : ∀ next, (scenario.verify assertion world).result = .ok next →
    next.config = scenario.config ∧ next.conditions = .empty ∧
      ((∃ halt, Invocation.verdict (scenario.conditionTrail world) = .error halt) →
        next.store = scenario.store ∧ next.actions = scenario.actions) ∧
      (Invocation.verdict (scenario.conditionTrail world) = .ok () →
        next.actions = .empty ∧
          ((∃ halt, Invocation.verdict (scenario.actionTrail world) = .error halt) →
            next.store = scenario.conditionStore world) ∧
          (Invocation.verdict (scenario.actionTrail world) = .ok () →
            next.store = scenario.actionStore world))
  /-- The expectation is used up: what is expected later is asked for later. -/
  spent : ∀ next, (scenario.verify assertion world).result = .ok next → next.expected = none ∧
    ∀ (later : σ) (after : List (Call σ)) (last : Scenario σ),
      (next.play later after).result = .ok last → ∀ expectation,
        last.expected = some expectation ↔ Call.Expecting after expectation

/-- The scenario that goes on, by the trails of its run. -/
theorem reached_of_verify {scenario next : Scenario σ} {assertion : Step σ} {world : σ}
    (h : (scenario.verify assertion world).result = .ok next) :
    next.config = scenario.config ∧ next.conditions = .empty ∧
      ((∃ halt, Invocation.verdict (scenario.conditionTrail world) = .error halt) →
        next.store = scenario.store ∧ next.actions = scenario.actions) ∧
      (Invocation.verdict (scenario.conditionTrail world) = .ok () →
        next.actions = .empty ∧
          ((∃ halt, Invocation.verdict (scenario.actionTrail world) = .error halt) →
            next.store = scenario.conditionStore world) ∧
          (Invocation.verdict (scenario.actionTrail world) = .ok () →
            next.store = scenario.actionStore world)) := by
  obtain ⟨rfl, -⟩ := verify_ok_iff.1 h
  rcases run_trail_cases scenario assertion world with
    ⟨halt, hc, -, -, hs⟩ | ⟨halt, hc, ha, -, -, hs⟩ | ⟨hc, ha, -, -, hs⟩
  · simp [hs, hc]
  · simp [hs, hc, ha]
  · simp [hs, hc, ha]

/-- After any calls that returned, a verification goes on exactly when nothing fails and nothing is
expected to, or when the failure is the one that was asked for last since the verification before.
Else it stops with the failure, or with the expectation that was not met. The scenario that goes on
keeps what the phases that passed gave, and expects nothing. -/
theorem concludes {config : Config σ} {start : σ} {before : List (Call σ)} {scenario : Scenario σ}
    (h : ((fresh config).play start before).result = .ok scenario) (assertion : Step σ)
    (world : σ) : Concludes before scenario assertion world := by
  obtain ⟨hending, -⟩ := run_chapters scenario assertion world
  refine ⟨expected_play rfl h, ?_, ?_, fun next => reached_of_verify, ?_⟩
  · rw [← hending]
    constructor
    · rintro ⟨next, hok⟩
      rcases (verify_ok_iff.1 hok).2 with ⟨hr, he⟩ | ⟨failure, expectation, hr, he, hs⟩
      · exact .inl ⟨hr, he⟩
      · exact .inr ⟨.failed failure, hr, failure, expectation, rfl, he, hs⟩
    · rintro (⟨hr, he⟩ | ⟨halt, hr, failure, expectation, rfl, he, hs⟩)
      · exact ⟨_, verify_ok_iff.2 ⟨rfl, .inl ⟨hr, he⟩⟩⟩
      · exact ⟨_, verify_ok_iff.2 ⟨rfl, .inr ⟨failure, expectation, hr, he, hs⟩⟩⟩
  · rw [← hending]
    exact fun halt => verify_error_iff
  · intro next hok
    have hnone : next.expected = none := by rw [(verify_ok_iff.1 hok).1]
    exact ⟨hnone, fun later after last hp => expected_play hnone hp⟩

open Script in
/-- A failure that is taken as expected, then a condition, an action that fails, and an expectation
of its failure. -/
def insisted : List (Call World) :=
  [.act none (closure [] "pay" (.err Script.Cause.gatewayTimeout)),
    .expect (.ofType (programType "GatewayTimeout" [])),
    .verify (closure [] "check" .nothing),
    .given (some "balance") (.deferred (closure [] "open" (.plain (.literal ⟨int32, .integer 10⟩)))),
    .act none (closure [] "pay" (.err Script.Cause.gatewayTimeout)),
    .expect (.ofType (programType "GatewayTimeout" []))]

open Script in
/-- The second verification takes the second failure as expected and keeps what the condition gave. -/
theorem concludes_insisted :
    ∃ scenario next, ((fresh .default).play .empty insisted).result = .ok scenario ∧
      Concludes insisted scenario (closure [] "recheck" .nothing) .empty ∧
      (scenario.verify (closure [] "recheck" .nothing) .empty).result = .ok next ∧
      next.store.get? "balance" = some ⟨int32, .integer 10⟩ := by
  have h : ((fresh .default).play .empty insisted).result = .ok _ := rfl
  exact ⟨_, _, h, concludes h _ _, rfl, rfl⟩

end Scenario

end Storytest
