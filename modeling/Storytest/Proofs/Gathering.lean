import Storytest.Proofs.Adding
import Storytest.Proofs.Following
import Storytest.Proofs.Threading

/-!
# What calls gather

Until a scenario is verified, calls on it only gather, and each kind of call has a part of the
scenario to itself. `play_gathered` tells, part by part, the scenario after calls of which none was
refused. `play_refused` says that calls end at the first principal that is refused, before anything
was invoked.
-/

namespace Storytest

variable {σ : Type}

/-! ## The parts of calls -/

namespace Call

/-- The kinds of calls. A principal is a condition. -/
inductive Kind where
  | literal
  | condition
  | action
  | expectation
  | fake
  | verification
  deriving DecidableEq

def kind : Call σ → Kind
  | .given _ (.literal _) => .literal
  | .given _ (.deferred _) => .condition
  | .act _ _ => .action
  | .expect _ => .expectation
  | .actingAs _ _ => .condition
  | .fake _ => .fake
  | .verify _ => .verification

def write? : Call σ → Option Write
  | .given key (.literal value) => some (key.filter (· ≠ ""), value)
  | _ => none

/-- The step that a call makes wait in a phase. -/
def entry? (config : Config σ) (phase : Phase) (call : Call σ) : Option (Entry σ) :=
  match call.registration config with
  | some (found, entry) => if found = phase then some entry else none
  | none => none

def expectation? : Call σ → Option Expectation
  | .expect expectation => some expectation
  | _ => none

def fake? : Call σ → Option (Fake σ)
  | .fake facade => some facade
  | _ => none

/-- Why a call is refused: it adds a principal and there is no provider, or the guard that it asks
for is not known. -/
def refusal? (config : Config σ) : Call σ → Option Failure
  | .actingAs _ options =>
    match config.auth with
    | none => some .providerMissing
    | some _ =>
      if options.guard.all (· ∈ config.guards) then none
      else some (.unknownGuard (options.guard.getD "") config.guards)
  | _ => none

/-- The shared state once the facades of some calls were swapped. -/
def activated (world : σ) (calls : List (Call σ)) : σ :=
  (calls.filterMap fake?).foldl (fun world fake => fake.activate world) world

theorem activated_append (world : σ) (earlier later : List (Call σ)) :
    activated world (earlier ++ later) = activated (activated world earlier) later := by
  unfold activated
  rw [List.filterMap_append, List.foldl_append]

/-- Only principals are refused. -/
theorem kind_of_refusal {config : Config σ} {call : Call σ} {failure : Failure}
    (h : call.refusal? config = some failure) :
    ∃ principal options, call = .actingAs principal options := by
  cases call with
  | actingAs principal options => exact ⟨principal, options, rfl⟩
  | _ => cases h

theorem refusal_of_registration {config : Config σ} {call : Call σ} {phase : Phase}
    {entry : Entry σ} (h : call.registration config = some (phase, entry)) :
    call.refusal? config = none := by
  cases call with
  | actingAs principal options =>
    unfold registration at h
    unfold refusal?
    cases ha : config.auth with
    | none =>
      rw [ha] at h
      cases h
    | some named =>
      by_cases hg : options.guard.all (· ∈ config.guards) = true
      · simp only [hg, if_true]
      · simp only [ha, hg] at h
        cases h
  | _ => rfl

/-- A principal that is not refused makes a condition wait: that the provider authenticates it. -/
theorem registration_of_accepted {config : Config σ} {principal : Value} {options : ActingAs}
    (h : (actingAs principal options).refusal? config = none) :
    ∃ name provider, config.auth = some (name, provider) ∧
      options.guard.all (· ∈ config.guards) = true ∧
      (actingAs principal options).registration config = some (.condition,
        ⟨(some (Scenario.keyFor config options)).filter (· ≠ ""),
          Scenario.authenticate provider principal options.abilities
            (Scenario.guardFor config options)⟩) := by
  unfold refusal? at h
  unfold registration
  cases ha : config.auth with
  | none =>
    rw [ha] at h
    cases h
  | some named =>
    by_cases hg : options.guard.all (· ∈ config.guards) = true
    · exact ⟨named.1, named.2, rfl, hg, by simp only [hg, if_true]⟩
    · simp only [ha, hg] at h
      cases h

theorem kind_of_registration {config : Config σ} {call : Call σ} {phase : Phase}
    {entry : Entry σ} (h : call.registration config = some (phase, entry)) :
    phase = .condition ∧ call.kind = .condition ∨ phase = .action ∧ call.kind = .action := by
  cases call with
  | given key condition =>
    cases condition with
    | literal value => cases h
    | deferred step =>
      cases h
      exact .inl ⟨rfl, rfl⟩
  | act key step =>
    cases h
    exact .inr ⟨rfl, rfl⟩
  | actingAs principal options =>
    obtain ⟨name, provider, -, -, hreg⟩ := registration_of_accepted (refusal_of_registration h)
    rw [h] at hreg
    cases hreg
    exact .inl ⟨rfl, rfl⟩
  | _ => cases h

theorem entry?_eq_some_iff {config : Config σ} {phase : Phase} {call : Call σ} {entry : Entry σ} :
    call.entry? config phase = some entry ↔ call.registration config = some (phase, entry) := by
  unfold entry?
  cases call.registration config with
  | none => simp
  | some registered => simp [Prod.ext_iff]

end Call

namespace Scenario

/-! ## The scenario after calls -/

/-- The scenario after calls that do not verify, each of which changed its own part. -/
def gathered (scenario : Scenario σ) (calls : List (Call σ)) : Scenario σ where
  config := scenario.config
  conditions := scenario.conditions.addAll (calls.filterMap (Call.entry? scenario.config .condition))
  actions := scenario.actions.addAll (calls.filterMap (Call.entry? scenario.config .action))
  store := scenario.store.keepAll (calls.filterMap Call.write?)
  expected := (calls.filterMap Call.expectation?).getLast?.or scenario.expected

theorem gathered_append (scenario : Scenario σ) (earlier later : List (Call σ)) :
    scenario.gathered (earlier ++ later) = (scenario.gathered earlier).gathered later := by
  simp only [gathered, List.filterMap_append, Registry.addAll_append, Store.keepAll_append,
    List.getLast?_append, Option.or_assoc]

variable {scenario : Scenario σ} {call : Call σ} {calls : List (Call σ)}

/-- A principal that is not refused makes the step wait that authenticates it. -/
theorem actingAs_gathered {principal : Value} {options : ActingAs}
    (hr : (Call.actingAs principal options).refusal? scenario.config = none) :
    scenario.actingAs principal options =
      .ok (scenario.gathered [.actingAs principal options]) := by
  obtain ⟨name, provider, ha, hg, hreg⟩ := Call.registration_of_accepted hr
  rw [actingAs_eq, ha]
  simp only [hg, if_true, gathered, Call.entry?, hreg, Call.write?, Call.expectation?,
    List.filterMap_cons, List.filterMap_nil, Registry.addAll, List.foldl_cons, List.foldl_nil,
    Registry.add_filter, reduceCtorEq, if_false, Store.keepAll, List.getLast?_nil, Option.none_or]

/-- A call that is not refused and does not verify changes its part of the scenario. -/
theorem call_gathered (hk : call.kind ≠ .verification) (hr : call.refusal? scenario.config = none)
    (world : σ) :
    (scenario.call world call).result = .ok (scenario.gathered [call]) ∧
      (scenario.call world call).world = Call.activated world [call] := by
  cases call with
  | given key condition =>
    cases condition with
    | literal value => exact ⟨rfl, rfl⟩
    | deferred step =>
      refine ⟨?_, rfl⟩
      rw [Scenario.call, given, ← Registry.add_filter]
      rfl
  | act key step =>
    refine ⟨?_, rfl⟩
    rw [Scenario.call, act, ← Registry.add_filter]
    rfl
  | expect expectation => exact ⟨rfl, rfl⟩
  | actingAs principal options =>
    rw [Scenario.call, actingAs_gathered hr]
    exact ⟨rfl, rfl⟩
  | fake facade => exact ⟨rfl, rfl⟩
  | verify assertion => exact absurd rfl hk

/-- A call that is refused reports why, and does nothing else. -/
theorem call_refused {failure : Failure} (h : call.refusal? scenario.config = some failure)
    (world : σ) : scenario.call world call = ⟨.error (.failed failure), world, []⟩ := by
  obtain ⟨principal, options, rfl⟩ := Call.kind_of_refusal h
  unfold Call.refusal? at h
  rw [Scenario.call, actingAs_eq]
  cases ha : scenario.config.auth with
  | none =>
    rw [ha] at h
    cases h
    rfl
  | some named =>
    by_cases hg : options.guard.all (· ∈ scenario.config.guards) = true
    · simp [ha, hg] at h
    · simp only [ha, hg] at h
      cases h
      simp only [hg]
      rfl

/-- Calls that are not refused and do not verify change each its part of the scenario. -/
theorem play_gathered (hk : ∀ call ∈ calls, call.kind ≠ .verification)
    (hr : ∀ call ∈ calls, call.refusal? scenario.config = none) (world : σ) :
    (scenario.play world calls).result = .ok (scenario.gathered calls) ∧
      (scenario.play world calls).world = Call.activated world calls := by
  induction calls generalizing scenario world with
  | nil => exact ⟨rfl, rfl⟩
  | cons call calls ih =>
    obtain ⟨hk, hks⟩ := List.forall_mem_cons.1 hk
    obtain ⟨hr, hrs⟩ := List.forall_mem_cons.1 hr
    obtain ⟨hcall, hworld⟩ := call_gathered hk hr world
    obtain ⟨hplay, hafter⟩ :=
      @ih (scenario.gathered [call]) hks hrs (Call.activated world [call])
    rw [play_cons hcall, hworld]
    exact ⟨hplay.trans (congrArg Except.ok (gathered_append scenario [call] calls).symm),
      hafter.trans (Call.activated_append world [call] calls).symm⟩

/-- Calls end at the first one that is refused. -/
theorem play_refused {before after : List (Call σ)} {failure : Failure}
    (hk : ∀ call ∈ before, call.kind ≠ .verification)
    (hr : ∀ call ∈ before, call.refusal? scenario.config = none)
    (h : call.refusal? scenario.config = some failure) (world : σ) :
    (scenario.play world (before ++ call :: after)).result = .error (.failed failure) ∧
      (scenario.play world (before ++ call :: after)).world = Call.activated world before := by
  obtain ⟨hplay, hworld⟩ := play_gathered hk hr world
  have hcall := call_refused (show call.refusal? (scenario.gathered before).config = _ from h)
    (Call.activated world before)
  rw [play_append _ hplay, hworld, play_cons_error (by rw [hcall]), hcall]
  exact ⟨rfl, rfl⟩

/-- Calls that make steps wait leave all else alone. -/
theorem gathered_waiting {scenario : Scenario σ} {calls : List (Call σ)}
    (h : ∀ call ∈ calls, ∃ phase entry, call.registration scenario.config = some (phase, entry)) :
    scenario.gathered calls =
        { scenario with
          conditions := scenario.conditions.addAll
            (calls.filterMap (Call.entry? scenario.config .condition)),
          actions := scenario.actions.addAll
            (calls.filterMap (Call.entry? scenario.config .action)) } ∧
      ∀ world : σ, Call.activated world calls = world := by
  have hnone : ∀ {α : Type} (part : Call σ → Option α),
      (∀ call : Call σ, call.registration scenario.config ≠ none → part call = none) →
      calls.filterMap part = [] := by
    intro α part hpart
    rw [List.filterMap_eq_nil_iff]
    intro call hc
    obtain ⟨phase, entry, hr⟩ := h call hc
    exact hpart call (by simp [hr])
  have hwrites := hnone Call.write? fun call hr => by
    cases call with
    | given key condition =>
      cases condition with
      | literal value => exact absurd rfl hr
      | deferred step => rfl
    | _ => rfl
  have hexpectations := hnone Call.expectation? fun call hr => by
    cases call with
    | expect expectation => exact absurd rfl hr
    | _ => rfl
  have hfakes := hnone Call.fake? fun call hr => by
    cases call with
    | fake facade => exact absurd rfl hr
    | _ => rfl
  refine ⟨?_, fun world => ?_⟩
  · rw [gathered, hwrites, hexpectations]
    rfl
  · rw [Call.activated, hfakes]
    rfl

theorem kind_of_waiting {config : Config σ} {calls : List (Call σ)}
    (h : ∀ call ∈ calls, ∃ phase entry, call.registration config = some (phase, entry)) :
    (∀ call ∈ calls, call.kind ≠ .verification) ∧
      ∀ call ∈ calls, call.refusal? config = none := by
  refine ⟨fun call hc => ?_, fun call hc => ?_⟩ <;> obtain ⟨phase, entry, hr⟩ := h call hc
  · rcases Call.kind_of_registration hr with ⟨-, hk⟩ | ⟨-, hk⟩ <;> simp [hk]
  · exact Call.refusal_of_registration hr

/-! ## What is invoked afterwards -/

theorem chronicle_append {before : List (Call σ)} (rest : List (Call σ)) :
    ∀ {scenario next : Scenario σ} {world : σ}, (scenario.play world before).result = .ok next →
    scenario.chronicle world (before ++ rest) =
      scenario.chronicle world before ++
        next.chronicle (scenario.play world before).world rest := by
  induction before with
  | nil =>
    intro scenario next world h
    obtain rfl : scenario = next := Except.ok.inj h
    rfl
  | cons call before ih =>
    intro scenario next world h
    cases hc : (scenario.call world call).result with
    | error halt =>
      rw [play_cons_error hc, hc] at h
      cases h
    | ok reached =>
      rw [play_cons hc] at h
      simp only [List.cons_append, chronicle, hc, play_cons hc, List.append_assoc]
      rw [ih h]
      rfl

theorem chronicle_verify (scenario : Scenario σ) (world : σ) (assertion : Step σ) :
    scenario.chronicle world [.verify assertion] = scenario.chapters assertion world := by
  simp only [chronicle, callChapters]
  split <;> exact List.append_nil _

/-- The invocations of calls made one after the other, up to the first that does not return. -/
def invocations (scenario : Scenario σ) (world : σ) (calls : List (Call σ)) :
    List (Invocation σ) :=
  (scenario.chronicle world calls).flatMap Chapter.invocations

theorem invocations_append {before : List (Call σ)} (rest : List (Call σ))
    {scenario next : Scenario σ} {world : σ} (h : (scenario.play world before).result = .ok next) :
    scenario.invocations world (before ++ rest) =
      scenario.invocations world before ++
        next.invocations (scenario.play world before).world rest := by
  unfold invocations
  rw [chronicle_append rest h, List.flatMap_append]

theorem invocations_append_error {before : List (Call σ)} {halt : Halt} (rest : List (Call σ)) :
    ∀ {scenario : Scenario σ} {world : σ}, (scenario.play world before).result = .error halt →
    scenario.invocations world (before ++ rest) = scenario.invocations world before := by
  induction before with
  | nil =>
    intro scenario world h
    cases h
  | cons call before ih =>
    intro scenario world h
    unfold invocations at ih ⊢
    rw [List.cons_append, chronicle, chronicle, List.flatMap_append, List.flatMap_append]
    cases hc : (scenario.call world call).result with
    | error halt => rfl
    | ok next =>
      rw [play_cons hc] at h
      rw [ih h]

/-- Calls that do not verify invoke nothing. -/
theorem invocations_of_gathering (hk : ∀ call ∈ calls, call.kind ≠ .verification) :
    ∀ (scenario : Scenario σ) (world : σ), scenario.invocations world calls = [] := by
  induction calls with
  | nil => exact fun _ _ => rfl
  | cons call calls ih =>
    intro scenario world
    obtain ⟨hk, hks⟩ := List.forall_mem_cons.1 hk
    have hcall : (scenario.callChapters world call).flatMap Chapter.invocations = [] := by
      cases call with
      | given key condition => cases condition <;> rfl
      | verify assertion => exact absurd rfl hk
      | _ => rfl
    rw [invocations, chronicle, List.flatMap_append, hcall]
    split
    · exact ih hks _ _
    · rfl

/-- A verification after such calls runs what they gathered. -/
theorem invocations_gathered (hk : ∀ call ∈ calls, call.kind ≠ .verification)
    (hr : ∀ call ∈ calls, call.refusal? scenario.config = none) (world : σ) (assertion : Step σ) :
    scenario.invocations world (calls ++ [.verify assertion]) =
      ((scenario.gathered calls).chapters assertion (Call.activated world calls)).flatMap
        Chapter.invocations := by
  obtain ⟨hplay, hworld⟩ := play_gathered hk hr world
  rw [invocations_append _ hplay, invocations_of_gathering hk, hworld, invocations,
    chronicle_verify, List.nil_append]

/-- A verification after such calls comes to what verifying what they gathered comes to. -/
theorem play_verify_gathered (hk : ∀ call ∈ calls, call.kind ≠ .verification)
    (hr : ∀ call ∈ calls, call.refusal? scenario.config = none) (world : σ) (assertion : Step σ) :
    (scenario.play world (calls ++ [.verify assertion])).result =
        ((scenario.gathered calls).verify assertion (Call.activated world calls)).result ∧
      (scenario.play world (calls ++ [.verify assertion])).world =
        ((scenario.gathered calls).verify assertion (Call.activated world calls)).world := by
  obtain ⟨hplay, hworld⟩ := play_gathered hk hr world
  rw [play_append _ hplay, play_single, hworld]
  exact ⟨rfl, rfl⟩

/-- A verification after calls that make steps wait. -/
theorem play_verify_waiting
    (hw : ∀ call ∈ calls, ∃ phase entry,
      call.registration scenario.config = some (phase, entry)) (world : σ) (assertion : Step σ) :
    (scenario.play world (calls ++ [.verify assertion])).result =
        ((scenario.gathered calls).verify assertion world).result ∧
      (scenario.play world (calls ++ [.verify assertion])).world =
        ((scenario.gathered calls).verify assertion world).world ∧
      scenario.invocations world (calls ++ [.verify assertion]) =
        ((scenario.gathered calls).chapters assertion world).flatMap Chapter.invocations := by
  obtain ⟨hkinds, haccepted⟩ := kind_of_waiting hw
  obtain ⟨hresult, hworld⟩ := play_verify_gathered hkinds haccepted world assertion
  have hinvoked := invocations_gathered hkinds haccepted world assertion
  rw [(gathered_waiting hw).2] at hresult hworld hinvoked
  exact ⟨hresult, hworld, hinvoked⟩

end Scenario

end Storytest
