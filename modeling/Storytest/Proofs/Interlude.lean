import Storytest.Proofs.Gathering
import Storytest.Proofs.Outcome
import Storytest.Script.Step

/-!
# Verifying midway

A verification in the middle of the conditions runs those that wait, and the next one goes on from
there. `interlude`: it does what its assertion would do as a condition without a key, and where the
assertion asks for nothing, returns nothing and leaves the shared state alone, nothing tells whether
it was made.
-/

namespace Storytest

variable {σ : Type}

open Invocation

/-! ## A run that goes on from another one -/

namespace Scenario

/-- The first conditions of a scenario came to these invocations, of which none failed, and another
one goes on from there. -/
structure Resumes (resumed scenario : Scenario σ) (world : σ) (before : List (Invocation σ)) :
    Prop where
  passed : verdict before = .ok ()
  conditions : scenario.conditionTrail world =
    before ++ resumed.conditionTrail (worldAfter world before)
  store : resumed.store = scenario.store.keepAll (before.flatMap written)
  actions : resumed.actions = scenario.actions
  config : resumed.config = scenario.config
  expected : resumed.expected = none ∧ scenario.expected = none

section

variable {scenario resumed : Scenario σ} {world : σ} {before : List (Invocation σ)}

theorem Resumes.actions_eq (h : Resumes resumed scenario world before) :
    resumed.conditionStore (worldAfter world before) = scenario.conditionStore world ∧
      resumed.actionTrail (worldAfter world before) = scenario.actionTrail world ∧
      resumed.actionStore (worldAfter world before) = scenario.actionStore world := by
  have hstore : resumed.conditionStore (worldAfter world before) =
      scenario.conditionStore world := by
    rw [conditionStore, conditionStore, h.store, h.conditions, List.flatMap_append,
      Store.keepAll_append]
  have htrail : resumed.actionTrail (worldAfter world before) = scenario.actionTrail world := by
    rw [actionTrail, actionTrail, hstore, h.actions, h.conditions, worldAfter_append]
  exact ⟨hstore, htrail, by rw [actionStore, actionStore, hstore, htrail]⟩

/-- All that is invoked behind the first conditions is invoked alike. -/
theorem Resumes.invocations_eq (h : Resumes resumed scenario world before) (assertion : Step σ) :
    (scenario.chapters assertion world).flatMap Chapter.invocations =
      before ++ (resumed.chapters assertion (worldAfter world before)).flatMap
        Chapter.invocations := by
  obtain ⟨-, htrail, hstore⟩ := h.actions_eq
  have hclosing : resumed.closing assertion (worldAfter world before) =
      scenario.closing assertion world := by
    rw [closing, closing, hstore, htrail, h.conditions, worldAfter_append]
  rw [chapters, chapters, htrail, hclosing, h.conditions, verdict_append h.passed,
    List.flatMap_cons, List.flatMap_cons, Chapter.invocations, Chapter.invocations,
    List.append_assoc]

theorem Resumes.verify_eq (h : Resumes resumed scenario world before) (assertion : Step σ) :
    (scenario.verify assertion world).result =
        (resumed.verify assertion (worldAfter world before)).result ∧
      (scenario.verify assertion world).world =
        (resumed.verify assertion (worldAfter world before)).world := by
  obtain ⟨hresult, hworld⟩ := verify_unexpecting h.expected.2 assertion world
  obtain ⟨hresult', hworld'⟩ := verify_unexpecting h.expected.1 assertion (worldAfter world before)
  obtain ⟨-, -, hstore⟩ := h.actions_eq
  have hending : scenario.ending assertion world =
      resumed.ending assertion (worldAfter world before) := by
    rw [ending, ending, h.invocations_eq, verdict_append h.passed]
  refine ⟨?_, ?_⟩
  · rw [hresult, hresult', hending, hstore, h.config, h.expected.1, h.expected.2]
  · rw [hworld, hworld', h.invocations_eq, worldAfter_append]

end

/-! ## Steps that wait, in two parts -/

/-- Calls that make conditions wait, and calls that make conditions and actions wait. No key is used
by conditions of both. -/
structure Apart (config : Config σ) (early rest : List (Call σ)) : Prop where
  conditions : ∀ call ∈ early, ∃ entry, call.registration config = some (.condition, entry)
  steps : ∀ call ∈ rest, ∃ phase entry, call.registration config = some (phase, entry)
  keys : ∀ first ∈ early, ∀ second ∈ rest, ∀ entry other,
    first.registration config = some (.condition, entry) →
    second.registration config = some (.condition, other) →
    entry.key ≠ none → entry.key ≠ other.key

/-- The assertion that asks for nothing and returns nothing. All it can do is touch the shared
state. -/
def pause (touch : σ → σ) : Step σ :=
  .typed [] fun _ world => (.ok (.plain ⟨.tuple [], .unit⟩), touch world)

/-- A verification by a pause runs the conditions and goes on. -/
theorem verify_pause {scenario : Scenario σ} (he : scenario.expected = none)
    (ha : scenario.actions = .empty) {world : σ}
    (h : verdict (scenario.conditionTrail world) = .ok ()) (touch : σ → σ) :
    (scenario.verify (pause touch) world).result =
        .ok { scenario with
          conditions := .empty, actions := .empty, store := scenario.conditionStore world } ∧
      (scenario.verify (pause touch) world).world =
        touch (worldAfter world (scenario.conditionTrail world)) ∧
      (scenario.chapters (pause touch) world).flatMap Chapter.invocations =
        scenario.conditionTrail world ++ [⟨⟨none, pause touch⟩, scenario.conditionStore world,
          worldAfter world (scenario.conditionTrail world)⟩] := by
  have htrail : scenario.actionTrail world = [] := by
    rw [actionTrail, ha]
    rfl
  have hstore : scenario.actionStore world = scenario.conditionStore world := by
    rw [actionStore, htrail]
    rfl
  have hinvoked : (scenario.chapters (pause touch) world).flatMap Chapter.invocations =
      scenario.conditionTrail world ++ [⟨⟨none, pause touch⟩, scenario.conditionStore world,
        worldAfter world (scenario.conditionTrail world)⟩] := by
    rw [chapters, h, htrail, closing, htrail, hstore]
    rfl
  obtain ⟨hresult, hworld⟩ := verify_unexpecting he (pause touch) world
  rw [ending, hinvoked, verdict_append h, hstore] at hresult
  rw [hinvoked, worldAfter_append] at hworld
  exact ⟨hresult, hworld, hinvoked⟩

/-- A scenario in which nothing waits and nothing is expected. -/
structure Idle (scenario : Scenario σ) : Prop where
  conditions : scenario.conditions = .empty
  actions : scenario.actions = .empty
  expected : scenario.expected = none

/-- The scenario once the conditions that calls make wait have run. -/
def settled (scenario : Scenario σ) (calls : List (Call σ)) (world : σ) : Scenario σ :=
  { scenario with
    conditions := .empty, actions := .empty,
    store := (scenario.gathered calls).conditionStore world }

section

variable {scenario : Scenario σ} {early rest : List (Call σ)}

theorem Apart.append {config : Config σ} (h : Apart config early rest) :
    ∀ call ∈ early ++ rest, ∃ phase entry, call.registration config = some (phase, entry) := by
  intro call hc
  rcases List.mem_append.1 hc with hc | hc
  · exact ⟨_, h.conditions call hc⟩
  · exact h.steps call hc

theorem Apart.waiting {config : Config σ} (h : Apart config early rest) :
    ∀ call ∈ early, ∃ phase entry, call.registration config = some (phase, entry) :=
  fun call hc => ⟨_, h.conditions call hc⟩

/-- The conditions of both wait one behind the other. -/
theorem gathered_apart (hi : Idle scenario) (h : Apart scenario.config early rest) :
    (scenario.gathered (early ++ rest)).conditions.entries =
      (scenario.gathered early).conditions.entries ++ (Registry.empty.addAll
        (rest.filterMap (Call.entry? scenario.config .condition))).entries := by
  simp only [gathered, hi.conditions, List.filterMap_append]
  refine Registry.addAll_apart fun entry hm hsome other ho => ?_
  obtain ⟨first, hf, hentry⟩ := List.mem_filterMap.1 hm
  obtain ⟨second, hs, hother⟩ := List.mem_filterMap.1 ho
  exact h.keys first hf second hs entry other (Call.entry?_eq_some_iff.1 hentry)
    (Call.entry?_eq_some_iff.1 hother) hsome

theorem gathered_early (hi : Idle scenario) (h : Apart scenario.config early rest) :
    (scenario.gathered early).actions = .empty := by
  have hnone : early.filterMap (Call.entry? scenario.config .action) = [] := by
    rw [List.filterMap_eq_nil_iff]
    intro call hc
    obtain ⟨entry, hr⟩ := h.conditions call hc
    simp [Call.entry?, hr]
  rw [gathered, hnone, hi.actions]
  rfl

/-- What comes of a scenario of which the conditions pass goes on from there. -/
theorem resumes_settled (hi : Idle scenario) (h : Apart scenario.config early rest) {world : σ}
    (hpass : verdict ((scenario.gathered early).conditionTrail world) = .ok ()) :
    Resumes ((scenario.settled early world).gathered rest) (scenario.gathered (early ++ rest)) world
      ((scenario.gathered early).conditionTrail world) := by
  have hearly : (scenario.gathered early).store = scenario.store := by
    rw [(gathered_waiting h.waiting).1]
  have hall : (scenario.gathered (early ++ rest)).store = scenario.store := by
    rw [(gathered_waiting h.append).1]
  have hresumed := (@gathered_waiting _ (scenario.settled early world) rest h.steps).1
  refine ⟨hpass, ?_, ?_, ?_, rfl, ?_⟩
  · -- The other conditions run on what the early ones left.
    unfold conditionTrail at hpass ⊢
    rw [gathered_apart hi h, hall, trail_append]
    rw [hearly] at hpass ⊢
    rw [hpass, hresumed]
    simp only [settled, conditionStore, conditionTrail, hearly]
  · rw [hresumed, hall, ← hearly]
    rfl
  · -- All actions come from the other calls.
    rw [gathered_append, gathered, gathered, gathered_early hi h]
    rfl
  · rw [hresumed, (gathered_waiting h.append).1]
    exact ⟨hi.expected, hi.expected⟩

/-- Calls of which the conditions pass come to what the later ones come to afterwards. -/
theorem play_apart (hi : Idle scenario) (h : Apart scenario.config early rest) {world : σ}
    (hpass : verdict ((scenario.gathered early).conditionTrail world) = .ok ())
    (assertion : Step σ) :
    let before := (scenario.gathered early).conditionTrail world
    let later := (scenario.settled early world).play (worldAfter world before)
      (rest ++ [.verify assertion])
    let joined := early ++ (rest ++ [.verify assertion])
    (scenario.play world joined).result = later.result ∧
      (scenario.play world joined).world = later.world ∧
      scenario.invocations world joined =
        before ++ (scenario.settled early world).invocations (worldAfter world before)
          (rest ++ [.verify assertion]) := by
  intro before later joined
  have hresumes := resumes_settled hi h hpass
  obtain ⟨hresult, hworld, hinvoked⟩ := play_verify_waiting h.append world assertion
  obtain ⟨hresult', hworld', hinvoked'⟩ := @play_verify_waiting _ (scenario.settled early world) rest
    h.steps (worldAfter world before) assertion
  rw [List.append_assoc] at hresult hworld hinvoked
  obtain ⟨hsame, hleft⟩ := hresumes.verify_eq assertion
  refine ⟨?_, ?_, ?_⟩
  · rw [hresult, hsame, hresult']
  · rw [hworld, hleft, hworld']
  · rw [hinvoked, hresumes.invocations_eq, hinvoked']

theorem play_failed {before : List (Call σ)}
    (hw : ∀ call ∈ before, ∃ phase entry,
      call.registration scenario.config = some (phase, entry))
    (he : scenario.expected = none) {world : σ} {halt : Halt}
    (hfail : verdict ((scenario.gathered before).conditionTrail world) = .error halt)
    (assertion : Step σ) (after : List (Call σ)) :
    let calls := before ++ .verify assertion :: after
    (scenario.play world calls).result = .error halt ∧
      (scenario.play world calls).world =
        worldAfter world ((scenario.gathered before).conditionTrail world) ∧
      scenario.invocations world calls = (scenario.gathered before).conditionTrail world := by
  intro calls
  obtain ⟨hresult, hworld, hinvoked⟩ := play_verify_waiting hw world assertion
  have hexpected : (scenario.gathered before).expected = none := by
    rw [(gathered_waiting hw).1, he]
  obtain ⟨herror, hleft, htrail⟩ := verify_failed hexpected hfail assertion
  have hstop := hresult.trans herror
  have hcalls : calls = (before ++ [.verify assertion]) ++ after := by simp [calls]
  rw [hcalls, play_append_error _ hstop, invocations_append_error _ hstop]
  exact ⟨hstop, hworld.trans hleft, hinvoked.trans htrail⟩

/-- Calls of which an early condition fails end there, whatever comes behind it. -/
theorem play_apart_failed (hi : Idle scenario) (h : Apart scenario.config early rest) {world : σ}
    {halt : Halt} (hfail : verdict ((scenario.gathered early).conditionTrail world) = .error halt)
    (assertion : Step σ) :
    let calls := early ++ (rest ++ [.verify assertion])
    (scenario.play world calls).result = .error halt ∧
      (scenario.play world calls).world =
        worldAfter world ((scenario.gathered early).conditionTrail world) ∧
      scenario.invocations world calls = (scenario.gathered early).conditionTrail world := by
  have htrail : (scenario.gathered (early ++ rest)).conditionTrail world =
      (scenario.gathered early).conditionTrail world := by
    have hstore : (scenario.gathered (early ++ rest)).store = (scenario.gathered early).store := by
      rw [(gathered_waiting h.append).1, (gathered_waiting h.waiting).1]
    rw [conditionTrail, gathered_apart hi h, hstore]
    exact trail_append_failed hfail _
  have hplay := play_failed h.append hi.expected (htrail ▸ hfail) assertion []
  rw [htrail, List.append_assoc] at hplay
  exact hplay

/-- A pause behind calls of which the conditions pass lets the scenario go on. -/
theorem play_pause (hi : Idle scenario) (h : Apart scenario.config early rest) {world : σ}
    (hpass : verdict ((scenario.gathered early).conditionTrail world) = .ok ())
    (touch : σ → σ) (after : List (Call σ)) :
    let before := (scenario.gathered early).conditionTrail world
    let paused : Invocation σ := ⟨⟨none, pause touch⟩,
      (scenario.gathered early).conditionStore world, worldAfter world before⟩
    let later := (scenario.settled early world).play (touch (worldAfter world before)) after
    let calls := early ++ .verify (pause touch) :: after
    (scenario.play world calls).result = later.result ∧
      (scenario.play world calls).world = later.world ∧
      scenario.invocations world calls =
        before ++ paused :: (scenario.settled early world).invocations
          (touch (worldAfter world before)) after := by
  intro before paused later calls
  obtain ⟨hresult, hworld, hinvoked⟩ := play_verify_waiting h.waiting world (pause touch)
  have hexpected : (scenario.gathered early).expected = none := by
    rw [(gathered_waiting h.waiting).1, hi.expected]
  obtain ⟨hok, hleft, htrail⟩ := verify_pause hexpected (gathered_early hi h) hpass touch
  have hnext : (scenario.play world (early ++ [.verify (pause touch)])).result =
      .ok (scenario.settled early world) := by
    rw [hresult, hok, settled, hexpected, hi.expected]
    rfl
  have hcalls : calls = (early ++ [.verify (pause touch)]) ++ after := by simp [calls]
  rw [hcalls, play_append _ hnext, invocations_append _ hnext, hworld, hleft, hinvoked, htrail,
    List.append_assoc]
  exact ⟨rfl, rfl, rfl⟩

theorem Apart.pause (h : Apart scenario.config early rest) (touch : σ → σ) :
    Apart scenario.config (early ++ [.given none (.deferred (pause touch))]) rest ∧
      Apart scenario.config early (.given none (.deferred (pause touch)) :: rest) := by
  -- The pause has no key, so it shares none.
  refine ⟨⟨?_, h.steps, ?_⟩, ⟨h.conditions, ?_, ?_⟩⟩
  · intro call hc
    rcases List.mem_append.1 hc with hc | hc
    · exact h.conditions call hc
    · rw [List.mem_singleton.1 hc]
      exact ⟨_, rfl⟩
  · intro first hf second hs entry other hentry hother hsome
    rcases List.mem_append.1 hf with hf | hf
    · exact h.keys first hf second hs entry other hentry hother hsome
    · rw [List.mem_singleton.1 hf] at hentry
      cases hentry
      exact absurd rfl hsome
  · exact List.forall_mem_cons.2 ⟨⟨_, _, rfl⟩, h.steps⟩
  · intro first hf second hs entry other hentry hother hsome
    rcases List.mem_cons.1 hs with rfl | hs
    · cases hother
      exact hsome
    · exact h.keys first hf second hs entry other hentry hother hsome

theorem conditionTrail_pause {world : σ}
    (hpass : verdict ((scenario.gathered early).conditionTrail world) = .ok ()) (touch : σ → σ) :
    let before := (scenario.gathered early).conditionTrail world
    let paused : Invocation σ := ⟨⟨none, pause touch⟩,
      (scenario.gathered early).conditionStore world, worldAfter world before⟩
    let behind := scenario.gathered (early ++ [.given none (.deferred (pause touch))])
    behind.conditionTrail world = before ++ [paused] ∧
      scenario.settled (early ++ [.given none (.deferred (pause touch))]) world =
        scenario.settled early world := by
  intro before paused behind
  have htrail : behind.conditionTrail world = before ++ [paused] := by
    have hbehind : behind.conditionTrail world = trail
        ((scenario.gathered early).conditions.entries ++ [⟨none, pause touch⟩])
        (scenario.gathered early).store world := by
      simp only [behind, gathered_append]
      rfl
    unfold conditionTrail at hpass
    rw [hbehind, trail_append, hpass]
    rfl
  have hstore : behind.conditionStore world = (scenario.gathered early).conditionStore world := by
    have hsame : behind.store = (scenario.gathered early).store := by
      simp only [behind, gathered_append]
      rfl
    have hnothing : (before ++ [paused]).flatMap written = before.flatMap written := by
      rw [List.flatMap_append]
      exact List.append_nil _
    rw [conditionStore, htrail, hsame, hnothing, conditionStore]
  exact ⟨htrail, by rw [settled, settled, ← hstore]⟩

/-- Early conditions, a verification by a pause, the other steps, and a verification. -/
def apart (early : List (Call σ)) (touch : σ → σ) (rest : List (Call σ)) (assertion : Step σ) :
    List (Call σ) :=
  early ++ .verify (pause touch) :: (rest ++ [.verify assertion])

/-- The same calls, with the pause as a condition without a key. -/
def joined (early : List (Call σ)) (touch : σ → σ) (rest : List (Call σ)) (assertion : Step σ) :
    List (Call σ) :=
  early ++ .given none (.deferred (pause touch)) :: (rest ++ [.verify assertion])

/-- The same calls without the pause. -/
def together (early rest : List (Call σ)) (assertion : Step σ) : List (Call σ) :=
  early ++ (rest ++ [.verify assertion])

/-- The scenario comes to the same after one list of calls and after the other one. -/
structure SameEnd (scenario : Scenario σ) (world : σ) (first second : List (Call σ)) : Prop where
  result : (scenario.play world first).result = (scenario.play world second).result
  state : (scenario.play world first).world = (scenario.play world second).world

/-- What a verification by a pause comes to between conditions and other steps. -/
structure Interlude (scenario : Scenario σ) (world : σ) (early : List (Call σ)) (touch : σ → σ)
    (rest : List (Call σ)) (assertion : Step σ) : Prop where
  /-- It does what its assertion does as a condition: the same is invoked, in the same order and on
  the same stores and states. -/
  condition : SameEnd scenario world (apart early touch rest assertion)
      (joined early touch rest assertion) ∧
    scenario.invocations world (apart early touch rest assertion) =
      scenario.invocations world (joined early touch rest assertion)
  /-- Where that leaves the state alone, it comes to nothing. -/
  unnoticed : (∀ world, touch world = world) →
    SameEnd scenario world (apart early touch rest assertion) (together early rest assertion) ∧
    ∃ ahead behind, scenario.invocations world (together early rest assertion) = ahead ++ behind ∧
      -- All that is invoked more is the pause, unless a condition failed before it.
      ((∃ halt, verdict ahead = .error halt) ∧
          scenario.invocations world (apart early touch rest assertion) = ahead ++ behind ∨
        verdict ahead = .ok () ∧ ∃ store world',
          scenario.invocations world (apart early touch rest assertion) =
            ahead ++ ⟨⟨none, pause touch⟩, store, world'⟩ :: behind)

/-- Between conditions and further steps, of which no condition takes a key of the first ones, a
verification whose assertion asks for nothing and returns nothing does what the assertion does as a
condition without a key: all ends in the same way and the same is invoked. If the assertion leaves
the shared state alone too, all ends as if it was not made, and it is all that is invoked more. -/
theorem interlude (hi : Idle scenario) (h : Apart scenario.config early rest) (world : σ)
    (touch : σ → σ) (assertion : Step σ) :
    Interlude scenario world early touch rest assertion := by
  obtain ⟨hjoined, hbehind⟩ := h.pause touch
  cases hv : verdict ((scenario.gathered early).conditionTrail world) with
  | error halt =>
    -- All of them end with the condition that fails.
    obtain ⟨hr, hw, hinv⟩ := play_failed h.waiting hi.expected hv (pause touch)
      (rest ++ [.verify assertion])
    obtain ⟨hr', hw', hinv'⟩ := play_apart_failed hi hbehind hv assertion
    obtain ⟨hr'', hw'', hinv''⟩ := play_apart_failed hi h hv assertion
    refine ⟨⟨⟨hr.trans hr'.symm, hw.trans hw'.symm⟩, hinv.trans hinv'.symm⟩, fun _ => ?_⟩
    exact ⟨⟨hr.trans hr''.symm, hw.trans hw''.symm⟩, _, [], by rw [together, hinv'', List.append_nil],
      .inl ⟨⟨halt, hv⟩, by rw [apart, hinv, List.append_nil]⟩⟩
  | ok passed =>
    obtain ⟨hr, hw, hinv⟩ := play_pause hi h hv touch (rest ++ [.verify assertion])
    refine ⟨?_, fun htouch => ?_⟩
    · obtain ⟨htrail, hsettled⟩ := conditionTrail_pause hv touch
      have hpass : verdict ((scenario.gathered
          (early ++ [.given none (.deferred (pause touch))])).conditionTrail world) = .ok () := by
        rw [htrail, verdict_append hv]
        rfl
      obtain ⟨hr', hw', hinv'⟩ := play_apart hi hjoined hpass assertion
      rw [htrail, hsettled, worldAfter_append, List.append_assoc] at hr' hw' hinv'
      rw [List.append_assoc] at hinv'
      exact ⟨⟨hr.trans hr'.symm, hw.trans hw'.symm⟩, hinv.trans hinv'.symm⟩
    · obtain ⟨hr', hw', hinv'⟩ := play_apart hi h hv assertion
      rw [htouch] at hr hw hinv
      exact ⟨⟨hr.trans hr'.symm, hw.trans hw'.symm⟩, _, _, hinv', .inr ⟨hv, _, _, hinv⟩⟩

end

open Script in
def opening : Call World :=
  .given (some "balance") (.deferred (closure [] "open" (.plain (.literal ⟨int32, .integer 10⟩))))

open Script in
/-- A condition that asks for a balance, and an action. -/
def withdrawal : List (Call World) :=
  [.act none (closure [] "pay" .nothing),
    .given none (.deferred (step (.described [⟨some "balance", [int32]⟩])
      [.read (.required int32) "balance"] ⟨"inquire", none, .nothing⟩))]

open Script in
/-- The condition behind the pause finds the balance of the one before it, and the action runs behind
them both. -/
theorem interlude_withdrawal :
    Idle (σ := World) (fresh .default) ∧ Apart (σ := World) .default [opening] withdrawal ∧
      Interlude (fresh .default) World.empty [opening] id withdrawal (closure [] "check" .nothing) ∧
      ((fresh .default).play World.empty
        (apart [opening] id withdrawal (closure [] "check" .nothing))).world.records =
          [.step "open" [], .step "inquire" [.value ⟨int32, .integer 10⟩], .step "pay" [],
            .step "check" []] := by
  have hi : Idle (σ := World) (fresh .default) := ⟨rfl, rfl, rfl⟩
  have h : Apart (σ := World) .default [opening] withdrawal := by
    refine ⟨?_, ?_, ?_⟩
    · exact List.forall_mem_singleton.2 ⟨_, rfl⟩
    · exact List.forall_mem_cons.2 ⟨⟨_, _, rfl⟩, List.forall_mem_singleton.2 ⟨_, _, rfl⟩⟩
    · intro first hf second hs entry other hentry hother _
      rw [List.mem_singleton.1 hf] at hentry
      cases hentry
      rcases List.mem_cons.1 hs with rfl | hs
      · cases hother
      · rw [List.mem_singleton.1 hs] at hother
        cases hother
        nofun
  exact ⟨hi, h, interlude hi h .empty id _, rfl⟩

end Scenario

end Storytest
