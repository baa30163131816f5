import Storytest.Scenario

/-!
# What a run does

`run_cases` sums up a run in the three ways it can go, and `verify_ok_iff` says when a verified
scenario goes on, and as what. Theorems about runs are case analyses over these two. `actingAs_eq`
does the same for the one other call that may not return.
-/

namespace Storytest

variable {σ : Type}

theorem Report.after_after {α : Type} (report : Report σ α) (first second : List Event) :
    (report.after second).after first = report.after (first ++ second) := by
  simp only [Report.after, List.append_assoc]

namespace Scenario

/-- How the phase of the conditions goes. -/
def runConditions (scenario : Scenario σ) (world : σ) : Report σ Store :=
  evaluate .condition scenario.conditions.entries scenario.store world

/-- How the phase of the actions goes, on a store. -/
def runActions (scenario : Scenario σ) (store : Store) (world : σ) : Report σ Store :=
  evaluate .action scenario.actions.entries store world

/-- A run, phase by phase. -/
theorem run_eq (scenario : Scenario σ) (assertion : Step σ) (world : σ) :
    scenario.run assertion world =
      let conditions := scenario.runConditions world
      match conditions.result with
      | .error halt =>
        ({ scenario with conditions := .empty }, ⟨.error halt, conditions.world, conditions.events⟩)
      | .ok store =>
        let actions := scenario.runActions store conditions.world
        match actions.result with
        | .error halt =>
          ({ scenario with conditions := .empty, actions := .empty, store },
            ⟨.error halt, actions.world, conditions.events ++ actions.events⟩)
        | .ok final =>
          ({ scenario with conditions := .empty, actions := .empty, store := final },
            (assertion.assertOn final actions.world).after (conditions.events ++ actions.events)) :=
  rfl

/-- The three ways a run goes. -/
theorem run_cases (scenario : Scenario σ) (assertion : Step σ) (world : σ) :
    let conditions := scenario.runConditions world
    -- A condition halts: the store stays, and the actions go on waiting.
    (∃ halt, conditions.result = .error halt ∧
      scenario.run assertion world =
        ({ scenario with conditions := .empty },
          ⟨.error halt, conditions.world, conditions.events⟩)) ∨
    -- An action halts: what the conditions gave is stored.
    (∃ store halt, conditions.result = .ok store ∧
      (scenario.runActions store conditions.world).result = .error halt ∧
      scenario.run assertion world =
        ({ scenario with conditions := .empty, actions := .empty, store },
          ⟨.error halt, (scenario.runActions store conditions.world).world,
            conditions.events ++ (scenario.runActions store conditions.world).events⟩)) ∨
    -- Both phases pass: the assertion runs on all that was stored.
    (∃ store final, conditions.result = .ok store ∧
      (scenario.runActions store conditions.world).result = .ok final ∧
      scenario.run assertion world =
        ({ scenario with conditions := .empty, actions := .empty, store := final },
          (assertion.assertOn final (scenario.runActions store conditions.world).world).after
            (conditions.events ++ (scenario.runActions store conditions.world).events))) := by
  have hrun := run_eq scenario assertion world
  cases hc : (scenario.runConditions world).result with
  | error halt =>
    simp only [hc] at hrun
    exact .inl ⟨halt, hc, hrun⟩
  | ok store =>
    right
    cases ha : (scenario.runActions store (scenario.runConditions world).world).result with
    | error halt =>
      simp only [hc, ha] at hrun
      exact .inl ⟨store, halt, hc, ha, hrun⟩
    | ok final =>
      simp only [hc, ha] at hrun
      exact .inr ⟨store, final, hc, ha, hrun⟩

/-- What waits after a run: no condition, and no action either unless a condition halted. -/
theorem run_waiting (scenario : Scenario σ) (assertion : Step σ) (world : σ) :
    (scenario.run assertion world).1.conditions = .empty ∧
      ((∃ halt, (scenario.runConditions world).result = .error halt) ∧
          (scenario.run assertion world).1.actions = scenario.actions ∨
        (∃ store, (scenario.runConditions world).result = .ok store) ∧
          (scenario.run assertion world).1.actions = .empty) := by
  rcases run_cases scenario assertion world with
    ⟨halt, hc, hr⟩ | ⟨store, halt, hc, -, hr⟩ | ⟨store, final, hc, -, hr⟩
  · rw [hr]
    exact ⟨rfl, .inl ⟨⟨halt, hc⟩, rfl⟩⟩
  · rw [hr]
    exact ⟨rfl, .inr ⟨⟨store, hc⟩, rfl⟩⟩
  · rw [hr]
    exact ⟨rfl, .inr ⟨⟨store, hc⟩, rfl⟩⟩

/-- A scenario without waiting steps runs the assertion and nothing else. -/
theorem run_of_nothing_waiting (scenario : Scenario σ) (hc : scenario.conditions = .empty)
    (ha : scenario.actions = .empty) (assertion : Step σ) (world : σ) :
    scenario.run assertion world = (scenario, assertion.assertOn scenario.store world) := by
  obtain ⟨config, conditions, actions, store, expected⟩ := scenario
  obtain rfl : conditions = .empty := hc
  obtain rfl : actions = .empty := ha
  rfl

/-- A verified scenario goes on as the one its run reached, when nothing failed and nothing was to,
or when the failure was the expected one. -/
theorem verify_ok_iff {scenario next : Scenario σ} {assertion : Step σ} {world : σ} :
    (scenario.verify assertion world).result = .ok next ↔
      next = { (scenario.run assertion world).1 with expected := none } ∧
      ((scenario.run assertion world).2.result = .ok () ∧ scenario.expected = none ∨
        ∃ failure expectation, (scenario.run assertion world).2.result = .error (.failed failure) ∧
          scenario.expected = some expectation ∧
          expectation.isSatisfiedBy failure.links = true) := by
  unfold verify
  cases hr : (scenario.run assertion world).2.result with
  | ok value =>
    cases he : scenario.expected with
    | none =>
      simp only [hr, Except.ok.injEq, reduceCtorEq, false_and, exists_false, and_self, or_false,
        and_true]
      exact eq_comm
    | some expectation => simp [hr]
  | error halt =>
    cases halt with
    | panicked message => simp [hr]
    | failed failure =>
      cases he : scenario.expected with
      | none => simp [hr]
      | some expectation =>
        by_cases hs : expectation.isSatisfiedBy failure.links = true
        · simp only [hr, hs, if_true, Except.ok.injEq, reduceCtorEq, false_and, false_or]
          refine ⟨fun h => ⟨h.symm, failure, expectation, rfl, rfl, hs⟩, fun h => h.1.symm⟩
        · simp [hr, hs]

/-- A verification leaves the state that its run leaves. -/
theorem verify_world (scenario : Scenario σ) (assertion : Step σ) (world : σ) :
    (scenario.verify assertion world).world = (scenario.run assertion world).2.world := by
  unfold verify
  dsimp only
  repeat' split
  all_goals rfl

/-- A principal is added when the configuration has a provider and knows the guard asked for, if
any; a missing provider is reported first. -/
theorem actingAs_eq (scenario : Scenario σ) (principal : Value) (options : ActingAs) :
    scenario.actingAs principal options =
      match scenario.config.auth with
      | none => .error .providerMissing
      | some (_, provider) =>
        if options.guard.all (· ∈ scenario.config.guards) then
          .ok { scenario with
            conditions := scenario.conditions.add
              (authenticate provider principal options.abilities
                (guardFor scenario.config options))
              (some (keyFor scenario.config options)) }
        else .error (.unknownGuard (options.guard.getD "") scenario.config.guards) := by
  unfold actingAs
  cases scenario.config.auth with
  | none => rfl
  | some named =>
    cases hg : options.guard with
    | none => rfl
    | some guard =>
      simp only [ensureGuard, Option.all_some, decide_eq_true_eq, Option.getD_some]
      by_cases hk : guard ∈ scenario.config.guards
      · rw [if_pos hk, if_pos hk]
        rfl
      · rw [if_neg hk, if_neg hk]
        rfl

/-- A principal that is added makes a condition wait, and changes nothing else. -/
theorem call_actingAs_ok {scenario next : Scenario σ} {world : σ} {principal : Value}
    {options : ActingAs}
    (h : (scenario.call world (.actingAs principal options)).result = .ok next) :
    ∃ name provider, scenario.config.auth = some (name, provider) ∧
      options.guard.all (· ∈ scenario.config.guards) = true ∧
      next = { scenario with
        conditions := scenario.conditions.add
          (authenticate provider principal options.abilities (guardFor scenario.config options))
          (some (keyFor scenario.config options)) } := by
  simp only [call, actingAs_eq] at h
  cases ha : scenario.config.auth with
  | none =>
    rw [ha] at h
    cases h
  | some named =>
    by_cases hg : options.guard.all (· ∈ scenario.config.guards) = true
    · simp only [ha, hg, if_true] at h
      exact ⟨named.1, named.2, rfl, hg, (Except.ok.inj h).symm⟩
    · simp only [ha, hg] at h
      cases h

/-! ## Calls one after the other -/

variable {scenario next : Scenario σ} {world : σ} {call : Call σ}

/-- Calls made after a call that returned. -/
theorem play_cons (h : (scenario.call world call).result = .ok next) (rest : List (Call σ)) :
    scenario.play world (call :: rest) =
      (next.play (scenario.call world call).world rest).after
        (scenario.call world call).events := by
  rw [play, h]

/-- A call that does not return is the last one. -/
theorem play_cons_error {halt : Halt} (h : (scenario.call world call).result = .error halt)
    (rest : List (Call σ)) : scenario.play world (call :: rest) = scenario.call world call := by
  simp only [play, h]
  rw [← h]

/-- One call alone. -/
theorem play_single (scenario : Scenario σ) (world : σ) (call : Call σ) :
    scenario.play world [call] = scenario.call world call := by
  cases h : (scenario.call world call).result with
  | ok next =>
    rw [play_cons h, play, Report.done, Report.after, List.append_nil, ← h]
  | error halt => exact play_cons_error h []

/-- Calls made after calls that returned. -/
theorem play_append {before : List (Call σ)} (rest : List (Call σ)) :
    ∀ {scenario : Scenario σ} {world : σ}, (scenario.play world before).result = .ok next →
    scenario.play world (before ++ rest) =
      (next.play (scenario.play world before).world rest).after
        (scenario.play world before).events := by
  induction before with
  | nil =>
    intro scenario world h
    obtain rfl : scenario = next := Except.ok.inj h
    rfl
  | cons call before ih =>
    intro scenario world h
    cases hc : (scenario.call world call).result with
    | error halt =>
      rw [play_cons_error hc, hc] at h
      cases h
    | ok reached =>
      rw [play_cons hc] at h
      rw [List.cons_append, play_cons hc, play_cons hc, ih h, Report.after_after]
      rfl

/-- Calls behind calls of which one did not return are not made. -/
theorem play_append_error {before : List (Call σ)} {halt : Halt} (rest : List (Call σ)) :
    ∀ {scenario : Scenario σ} {world : σ}, (scenario.play world before).result = .error halt →
    scenario.play world (before ++ rest) = scenario.play world before := by
  induction before with
  | nil =>
    intro scenario world h
    cases h
  | cons call before ih =>
    intro scenario world h
    cases hc : (scenario.call world call).result with
    | error halt' => rw [List.cons_append, play_cons_error hc, play_cons_error hc]
    | ok reached =>
      rw [play_cons hc] at h
      rw [List.cons_append, play_cons hc, play_cons hc, ih h]

/-- Calls that all returned, the later ones on what the earlier ones left. -/
theorem play_append_ok {before rest : List (Call σ)} {scenario last : Scenario σ} {world : σ}
    (h : (scenario.play world (before ++ rest)).result = .ok last) :
    ∃ reached, (scenario.play world before).result = .ok reached ∧
      (reached.play (scenario.play world before).world rest).result = .ok last := by
  cases hb : (scenario.play world before).result with
  | error halt =>
    rw [play_append_error rest hb, hb] at h
    cases h
  | ok reached =>
    rw [play_append rest hb] at h
    exact ⟨reached, rfl, h⟩

/-- Calls that all returned, the last one on what those before it left. -/
theorem play_concat_ok {before : List (Call σ)} {scenario last : Scenario σ} {world : σ}
    {call : Call σ} (h : (scenario.play world (before ++ [call])).result = .ok last) :
    ∃ reached, (scenario.play world before).result = .ok reached ∧
      (reached.call (scenario.play world before).world call).result = .ok last := by
  obtain ⟨reached, hb, hlast⟩ := play_append_ok h
  rw [play_single] at hlast
  exact ⟨reached, hb, hlast⟩

end Scenario

end Storytest
