import Storytest.Proofs.Noting

/-!
# Noting scenarios

A scenario whose steps note their invocations goes along with the scenario of the steps: the same
steps wait in both, and every call gives and reports the same. `call_noting` is that statement for one
call, together with what the call finds waiting, what is noted meanwhile and what waits afterwards.
-/

namespace Storytest

variable {σ : Type}

/-! ## Waiting steps -/

/-- The steps that wait in a scenario, by phase. -/
structure Waiting (σ : Type) where
  conditions : List (Slot σ)
  actions : List (Slot σ)

namespace Waiting

/-- No steps. -/
def empty : Waiting σ :=
  ⟨[], []⟩

/-- The steps of a phase; an assertion never waits. -/
def of (waiting : Waiting σ) : Phase → List (Slot σ)
  | .condition => waiting.conditions
  | .action => waiting.actions
  | .assertion => []

/-- Adds a step to a phase. -/
def place (waiting : Waiting σ) (new : Slot σ) : Phase → Waiting σ
  | .condition => { waiting with conditions := new.place waiting.conditions }
  | .action => { waiting with actions := new.place waiting.actions }
  | .assertion => waiting

/-- The numbers of the steps, in the order of a run. -/
def numbers (waiting : Waiting σ) : List Nat :=
  Slot.numbers waiting.conditions ++ Slot.numbers waiting.actions

/-- Steps that wait after one was added waited before, or are that one. -/
theorem mem_place {waiting : Waiting σ} {new slot : Slot σ} {phase other : Phase}
    (h : slot ∈ (waiting.place new phase).of other) :
    slot ∈ waiting.of other ∨ slot = new ∧ other = phase := by
  cases phase with
  | condition =>
    cases other with
    | condition => exact (Slot.mem_place h).imp_right fun he => ⟨he, rfl⟩
    | _ => exact .inl h
  | action =>
    cases other with
    | action => exact (Slot.mem_place h).imp_right fun he => ⟨he, rfl⟩
    | _ => exact .inl h
  | assertion => exact .inl h

/-- A new number keeps numbers distinct. -/
theorem nodup_place {waiting : Waiting σ} {new : Slot σ} {others : List Nat} (phase : Phase)
    (hd : (others ++ waiting.numbers).Nodup) (hn : new.number ∉ others ++ waiting.numbers) :
    (others ++ (waiting.place new phase).numbers).Nodup := by
  cases phase with
  | condition =>
    rw [numbers, ← List.append_assoc] at hd hn ⊢
    exact Slot.nodup_place hd hn
  | action =>
    rw [numbers, ← List.append_assoc, ← List.append_nil (_ ++ _)] at hd hn ⊢
    exact Slot.nodup_place hd hn
  | assertion => exact hd

/-- The steps of a phase wait among all, in their order. -/
theorem numbers_of_sublist (waiting : Waiting σ) (phase : Phase) :
    (Slot.numbers (waiting.of phase)).Sublist waiting.numbers := by
  cases phase with
  | condition => exact List.sublist_append_left _ _
  | action => exact List.sublist_append_right _ _
  | assertion => exact List.nil_sublist _

/-- A number that waits belongs to a step of one of the phases. -/
theorem mem_numbers {waiting : Waiting σ} {n : Nat} :
    n ∈ waiting.numbers ↔ ∃ phase, ∃ slot ∈ waiting.of phase, slot.number = n := by
  unfold numbers Slot.numbers
  rw [List.mem_append, List.mem_map, List.mem_map]
  constructor
  · rintro (h | h)
    · exact ⟨.condition, h⟩
    · exact ⟨.action, h⟩
  · rintro ⟨phase, slot, hs, hn⟩
    cases phase with
    | condition => exact .inl ⟨slot, hs, hn⟩
    | action => exact .inr ⟨slot, hs, hn⟩
    | assertion => cases hs

end Waiting

/-- The provider, which also notes when it authenticates for a number. -/
def Provider.noting (number : Nat) (provider : Provider σ) : Provider (Noted σ) :=
  fun principal abilities guard world =>
    let (result, after) := provider principal abilities guard world.world
    (result, ⟨after, world.notes ++ [⟨number, result.isOk⟩]⟩)

/-- The configuration with its provider noting. -/
def Config.noting (number : Nat) (config : Config σ) : Config (Noted σ) :=
  { config with auth := config.auth.map fun named => (named.1, named.2.noting number) }

/-- The facade, swapped behind the notes. -/
def Fake.noting (fake : Fake σ) : Fake (Noted σ) :=
  ⟨fake.facade, fun world => { world with world := fake.activate world.world }⟩

/-- The call with a step that notes its invocations. -/
def Call.noting (number : Nat) : Call σ → Call (Noted σ)
  | .given key (.literal value) => .given key (.literal value)
  | .given key (.deferred step) => .given key (.deferred (step.noting number))
  | .act key step => .act key (step.noting number)
  | .expect expectation => .expect expectation
  | .actingAs principal options => .actingAs principal options
  | .fake facade => .fake facade.noting
  | .verify assertion => .verify (assertion.noting number)

namespace Scenario

/-- The step of a provider that notes is the noting step of the provider. -/
theorem authenticate_noting (number : Nat) (provider : Provider σ) (principal : Value)
    (abilities : List String) (guard : Option String) :
    authenticate (provider.noting number) principal abilities guard =
      (authenticate provider principal abilities guard).noting number := by
  unfold authenticate Step.undescribed Step.noting
  congr
  funext args world
  simp only [Provider.noting]
  cases provider principal abilities guard world.world with
  | mk result after =>
    cases result with
    | error cause => rfl
    | ok value => rfl

/-- A scenario of noting steps goes along with the scenario of the steps: the same steps wait in
both, and all else is the same. -/
structure Follows (config : Config σ) (waiting : Waiting σ) (noted : Scenario (Noted σ))
    (plain : Scenario σ) : Prop where
  config : plain.config = config
  conditions : plain.conditions.entries = waiting.conditions.map Slot.entry
  actions : plain.actions.entries = waiting.actions.map Slot.entry
  notedConditions : noted.conditions.entries = waiting.conditions.map Slot.noting
  notedActions : noted.actions.entries = waiting.actions.map Slot.noting
  store : noted.store = plain.store
  expected : noted.expected = plain.expected

variable {config : Config σ} {waiting : Waiting σ} {noted : Scenario (Noted σ)}
  {plain : Scenario σ}

/-- What is noted when waiting steps are run with a numbered assertion, and what waits afterwards.
A condition failed and the actions go on waiting, or nothing waits any more. -/
inductive Runs (waiting : Waiting σ) (number : Nat) : List Note → Waiting σ → Prop
  | stopped {ran : List Note} : Attempts (Slot.numbers waiting.conditions) ran →
      ran.all Note.returned = false → Runs waiting number ran ⟨[], waiting.actions⟩
  | drained {ran : List Note} : Attempts (waiting.numbers ++ [number]) ran →
      Runs waiting number ran .empty

/-- The conditions of noting steps do what the conditions of the steps do. -/
theorem runConditions_noting (h : Follows config waiting noted plain) (world : Noted σ) :
    ∃ ran, Attempts (Slot.numbers waiting.conditions) ran ∧
      ran.all Note.returned = (plain.runConditions world.world).result.isOk ∧
      noted.runConditions world =
        (plain.runConditions world.world).withNotes (world.notes ++ ran) := by
  unfold runConditions
  rw [h.conditions, h.notedConditions, h.store]
  exact evaluate_noting .condition waiting.conditions plain.store world

/-- The actions of noting steps do what the actions of the steps do. -/
theorem runActions_noting (h : Follows config waiting noted plain) (store : Store)
    (world : Noted σ) :
    ∃ ran, Attempts (Slot.numbers waiting.actions) ran ∧
      ran.all Note.returned = (plain.runActions store world.world).result.isOk ∧
      noted.runActions store world =
        (plain.runActions store world.world).withNotes (world.notes ++ ran) := by
  unfold runActions
  rw [h.actions, h.notedActions]
  exact evaluate_noting .action waiting.actions store world

/-- A run of noting steps does what the run of the steps does, and notes what waited. -/
theorem run_noting (h : Follows config waiting noted plain) (number : Nat) (assertion : Step σ)
    (world : Noted σ) :
    ∃ ran next, Runs waiting number ran next ∧
      Follows config next (noted.run (assertion.noting number) world).1
        (plain.run assertion world.world).1 ∧
      (noted.run (assertion.noting number) world).2 =
        (plain.run assertion world.world).2.withNotes (world.notes ++ ran) := by
  obtain ⟨first, hfirst, hfr, hc⟩ := runConditions_noting h world
  rw [run_eq, run_eq]
  simp only [hc, Report.withNotes]
  cases hcr : (plain.runConditions world.world).result with
  | error halt =>
    rw [hcr] at hfr
    refine ⟨first, ⟨[], waiting.actions⟩, .stopped hfirst hfr, ?_, rfl⟩
    exact { h with conditions := rfl, notedConditions := rfl }
  | ok store =>
    rw [hcr] at hfr
    obtain ⟨second, hsecond, hsr, ha⟩ := runActions_noting h store
      ⟨(plain.runConditions world.world).world, world.notes ++ first⟩
    have hboth : Attempts waiting.numbers (first ++ second) := hfirst.append hfr hsecond
    simp only [ha, Report.withNotes]
    cases har : (plain.runActions store (plain.runConditions world.world).world).result with
    | error halt =>
      rw [har] at hsr
      refine ⟨first ++ second, .empty, .drained (hboth.extend ?_), ?_, ?_⟩
      · rw [List.all_append, hfr, hsr]
        rfl
      · exact ⟨h.config, rfl, rfl, rfl, rfl, rfl, h.expected⟩
      · rw [List.append_assoc]
    | ok final =>
      rw [har] at hsr
      obtain ⟨returned, hasserted⟩ := assertOn_noting number assertion final
        ⟨(plain.runActions store (plain.runConditions world.world).world).world,
          world.notes ++ first ++ second⟩
      refine ⟨first ++ second ++ [⟨number, returned⟩], .empty,
        .drained (hboth.append ?_ (.single number returned)), ?_, ?_⟩
      · rw [List.all_append, hfr, hsr]
        rfl
      · exact ⟨h.config, rfl, rfl, rfl, rfl, rfl, h.expected⟩
      · dsimp only
        rw [hasserted]
        simp only [Report.after, Report.withNotes, List.append_assoc]

/-- Two reports of a call, of noting steps and of the steps, with the notes after the first. -/
structure Alike (config : Config σ) (waiting : Waiting σ) (notes : List Note)
    (noted : Report (Noted σ) (Scenario (Noted σ))) (plain : Report σ (Scenario σ)) : Prop where
  world : noted.world = ⟨plain.world, notes⟩
  events : noted.events = plain.events
  result :
    (∃ halt, noted.result = .error halt ∧ plain.result = .error halt) ∨
    ∃ next nextPlain, noted.result = .ok next ∧ plain.result = .ok nextPlain ∧
      Follows config waiting next nextPlain

/-- A verification of noting steps does what the verification of the steps does. -/
theorem verify_noting (h : Follows config waiting noted plain) (number : Nat)
    (assertion : Step σ) (world : Noted σ) :
    ∃ ran next, Runs waiting number ran next ∧
      Alike config next (world.notes ++ ran) (noted.verify (assertion.noting number) world)
        (plain.verify assertion world.world) := by
  obtain ⟨ran, next, hran, hf, hrun⟩ := run_noting h number assertion world
  refine ⟨ran, next, hran, ?_⟩
  unfold verify
  cases hn : noted.run (assertion.noting number) world with
  | mk reached report =>
  cases hp : plain.run assertion world.world with
  | mk reachedPlain reportPlain =>
  rw [hn, hp] at hf hrun
  obtain rfl : report = _ := hrun
  have hsettled : Follows config next { reached with expected := none }
      { reachedPlain with expected := none } :=
    { hf with expected := rfl }
  rw [h.expected]
  simp only [Report.withNotes]
  cases reportPlain.result with
  | ok value =>
    cases plain.expected with
    | none => exact ⟨rfl, rfl, .inr ⟨_, _, rfl, rfl, hsettled⟩⟩
    | some expectation => exact ⟨rfl, rfl, .inl ⟨_, rfl, rfl⟩⟩
  | error halt =>
    cases halt with
    | panicked message => exact ⟨rfl, rfl, .inl ⟨_, rfl, rfl⟩⟩
    | failed failure =>
      cases plain.expected with
      | none => exact ⟨rfl, rfl, .inl ⟨_, rfl, rfl⟩⟩
      | some expectation =>
        by_cases hs : expectation.isSatisfiedBy failure.links = true
        · simp only [hs, if_true]
          exact ⟨rfl, rfl, .inr ⟨_, _, rfl, rfl, hsettled⟩⟩
        · simp only [hs]
          exact ⟨rfl, rfl, .inl ⟨_, rfl, rfl⟩⟩

end Scenario

/-! ## Noting calls -/

open Scenario in
/-- The step that a call makes wait, and in which phase. -/
def Call.registration (config : Config σ) : Call σ → Option (Phase × Entry σ)
  | .given key (.deferred step) => some (.condition, ⟨key.filter (· ≠ ""), step⟩)
  | .act key step =>
    some (.action, ⟨(some (key.getD config.responseKey)).filter (· ≠ ""), step⟩)
  | .actingAs principal options =>
    match config.auth with
    | some (_, provider) =>
      if options.guard.all (· ∈ config.guards) then
        some (.condition, ⟨(some (keyFor config options)).filter (· ≠ ""),
          authenticate provider principal options.abilities (guardFor config options)⟩)
      else none
    | none => none
  | _ => none

namespace Scenario

variable {config : Config σ} {waiting : Waiting σ} {noted : Scenario (Noted σ)}
  {plain : Scenario σ}

/-- What a numbered call finds waiting, what is noted, and what waits afterwards. -/
inductive Turn (config : Config σ) (number : Nat) (waiting : Waiting σ) :
    Call σ → List Note → Waiting σ → Prop
  | verifies {assertion : Step σ} {ran : List Note} {next : Waiting σ} :
      Runs waiting number ran next → Turn config number waiting (.verify assertion) ran next
  | registers {call : Call σ} {phase : Phase} {entry : Entry σ} :
      call.registration config = some (phase, entry) →
      Turn config number waiting call [] (waiting.place ⟨number, entry⟩ phase)
  | passes {call : Call σ} : call.registration config = none →
      (∀ assertion, call ≠ .verify assertion) → Turn config number waiting call [] waiting

/-- Noting goes along when a condition is added. -/
theorem Follows.condition (h : Follows config waiting noted plain) (number : Nat)
    (key : Option String) (step : Step σ) :
    Follows config (waiting.place ⟨number, key.filter (· ≠ ""), step⟩ .condition)
      { noted with conditions := noted.conditions.add (step.noting number) key }
      { plain with conditions := plain.conditions.add step key } :=
  { h with
    conditions := Slot.add_entries (fun _ => rfl) h.conditions rfl
    notedConditions := Slot.add_entries (f := Slot.noting) (fun _ => rfl) h.notedConditions rfl }

/-- Noting goes along when an action is added. -/
theorem Follows.action (h : Follows config waiting noted plain) (number : Nat)
    (key : Option String) (step : Step σ) :
    Follows config (waiting.place ⟨number, key.filter (· ≠ ""), step⟩ .action)
      { noted with actions := noted.actions.add (step.noting number) key }
      { plain with actions := plain.actions.add step key } :=
  { h with
    actions := Slot.add_entries (fun _ => rfl) h.actions rfl
    notedActions := Slot.add_entries (f := Slot.noting) (fun _ => rfl) h.notedActions rfl }

/-- A call that invokes nothing and returns. -/
theorem Alike.silent (world : Noted σ) {next : Scenario (Noted σ)} {nextPlain : Scenario σ}
    (h : Follows config waiting next nextPlain) (events : List Event) :
    Alike config waiting (world.notes ++ []) ⟨.ok next, world, events⟩
      ⟨.ok nextPlain, world.world, events⟩ :=
  ⟨by rw [List.append_nil], rfl, .inr ⟨next, nextPlain, rfl, rfl, h⟩⟩

/-- Asking for a principal does the same with a provider that notes. -/
theorem actingAs_noting (h : Follows config waiting noted plain) {number : Nat}
    (hn : noted.config = config.noting number) (principal : Value) (options : ActingAs)
    (world : Noted σ) :
    ∃ next, Turn config number waiting (.actingAs principal options) [] next ∧
      Alike config next (world.notes ++ []) (noted.call world (.actingAs principal options))
        (plain.call world.world (.actingAs principal options)) := by
  obtain rfl := h.config
  have hauth : noted.config.auth =
      plain.config.auth.map fun named => (named.1, named.2.noting number) := by rw [hn]; rfl
  have hguards : noted.config.guards = plain.config.guards := by rw [hn]; rfl
  have hguard : guardFor noted.config options = guardFor plain.config options := by rw [hn]; rfl
  have hkey : keyFor noted.config options = keyFor plain.config options := by rw [hn]; rfl
  simp only [call, actingAs_eq, hauth, hguards, hguard, hkey, actingAsEvents]
  cases ha : plain.config.auth with
  | none =>
    refine ⟨waiting, .passes (by simp [Call.registration, ha]) (by simp), ?_⟩
    simp only [Option.map_none, List.append_nil]
    exact ⟨rfl, rfl, .inl ⟨_, rfl, rfl⟩⟩
  | some named =>
    by_cases hg : options.guard.all (· ∈ plain.config.guards) = true
    · have hr : (Call.actingAs principal options).registration plain.config =
          some (.condition, ⟨(some (keyFor plain.config options)).filter (· ≠ ""),
            authenticate named.2 principal options.abilities (guardFor plain.config options)⟩) := by
        simp only [Call.registration, ha, hg, if_true]
      refine ⟨_, .registers hr, ?_⟩
      simp only [Option.map_some, hg, if_true, authenticate_noting]
      exact .silent world (h.condition number (some (keyFor plain.config options)) _) _
    · refine ⟨waiting, .passes (by simp only [Call.registration, ha, hg]; rfl) (by simp), ?_⟩
      simp only [Option.map_some, hg, List.append_nil]
      exact ⟨rfl, rfl, .inl ⟨_, rfl, rfl⟩⟩

/-- A call on noting steps does what the call on the steps does. -/
theorem call_noting (h : Follows config waiting noted plain) {number : Nat}
    (hn : noted.config = config.noting number) (call : Call σ) (world : Noted σ) :
    ∃ ran next, Turn config number waiting call ran next ∧
      Alike config next (world.notes ++ ran) (noted.call world (call.noting number))
        (plain.call world.world call) := by
  obtain rfl := h.config
  cases call with
  | given key condition =>
    cases condition with
    | literal value =>
      have hl : Follows plain.config waiting (noted.storeLiteral key value)
          (plain.storeLiteral key value) :=
        { h with store := by simp only [storeLiteral, h.store] }
      have he : noted.literalEvents key value = plain.literalEvents key value := by
        simp only [literalEvents, h.store]
      refine ⟨[], waiting, .passes rfl (by simp), ?_⟩
      simp only [Call.noting, Scenario.call, given, givenEvents, he]
      exact .silent world hl _
    | deferred step =>
      exact ⟨[], _, .registers rfl, .silent world (h.condition number key step) []⟩
  | act key step =>
    have hk : noted.config.responseKey = plain.config.responseKey := by
      rw [hn]
      rfl
    have ha := h.action number (some (key.getD plain.config.responseKey)) step
    refine ⟨[], _, .registers rfl, ?_⟩
    simp only [Call.noting, Scenario.call, act, hk]
    exact .silent world ha []
  | expect expectation =>
    have he : Follows plain.config waiting (noted.expect expectation) (plain.expect expectation) :=
      { h with expected := rfl }
    exact ⟨[], waiting, .passes rfl (by simp), .silent world he []⟩
  | actingAs principal options =>
    obtain ⟨next, ht, ha⟩ := actingAs_noting h hn principal options world
    exact ⟨[], next, ht, ha⟩
  | fake facade =>
    refine ⟨[], waiting, .passes rfl (by simp), ?_, rfl, .inr ⟨noted, plain, rfl, rfl, h⟩⟩
    rw [List.append_nil]
    rfl
  | verify assertion =>
    obtain ⟨ran, next, hr, ha⟩ := verify_noting h number assertion world
    exact ⟨ran, next, .verifies hr, ha⟩

/-- Makes a call on noting steps, under a number. -/
def callNoting (config : Config σ) (number : Nat) (scenario : Scenario (Noted σ))
    (world : Noted σ) (call : Call σ) : Report (Noted σ) (Scenario (Noted σ)) :=
  { scenario with config := config.noting number }.call world (call.noting number)

/-- A numbered call does what the call on the steps does. -/
theorem callNoting_alike (h : Follows config waiting noted plain) (number : Nat) (call : Call σ)
    (world : Noted σ) :
    ∃ ran next, Turn config number waiting call ran next ∧
      Alike config next (world.notes ++ ran) (callNoting config number noted world call)
        (plain.call world.world call) := by
  have hc : Follows config waiting { noted with config := config.noting number } plain :=
    { h with config := h.config }
  exact call_noting hc rfl call world

end Scenario

end Storytest
