import Storytest.Proofs.Guards
import Storytest.Proofs.Outcome
import Storytest.Script.Step

/-!
# Failures of the configuration

Settings and principals are refused at once, with a failure that lies in the configuration. Later a
scenario only fails because an argument is missing or has another type, because a callback failed, or
because it was expected to fail. What a callback or a provider raises becomes the cause of a failed
step even if it is a failure of the configuration itself: `eager`.
-/

namespace Storytest

variable {σ : Type}

/-! ## Steps of closures and of principals -/

/-- The error in a return value: under any number of results that succeeded, one that failed. -/
def Output.cause? : Output → Option Cause
  | .plain _ => none
  | .ok output => output.cause?
  | .err cause => some cause

theorem Output.produce_eq (output : Output) :
    (∃ given, output.cause? = none ∧ output.produce = .ok given) ∨
      ∃ cause, output.cause? = some cause ∧ output.produce = .error (.step cause) := by
  induction output with
  | plain value => exact .inl ⟨_, rfl, rfl⟩
  | ok output ih => exact ih
  | err cause => exact .inr ⟨cause, rfl, rfl⟩

/-- The failure is about an argument: there is none, or it has another type. -/
inductive Failure.Injects : Failure → Prop
  | missing (position : Nat) (parameter expected : String) :
      Injects (.missingArgument position parameter expected)
  | mismatch (position : Nat) (parameter expected found : String) :
      Injects (.argumentType position parameter expected found)

theorem Arguments.injects_of_readAll {args : Arguments} {reads : List (Read × String)}
    {failure : Failure} (h : args.readAll reads = .error failure) : failure.Injects := by
  induction reads generalizing args with
  | nil => cases h
  | cons head rest ih =>
    obtain ⟨read, parameter⟩ := head
    simp only [readAll, Arguments.read] at h
    cases hr : read.from? args.position parameter args.values.head? with
    | error fault =>
      rw [hr] at h
      cases h
      unfold Read.from? at hr
      split at hr
      · split at hr <;> cases hr
        exact .mismatch _ _ _ _
      · split at hr <;> cases hr
        exact .missing _ _ _
    | ok found =>
      rw [hr] at h
      cases hrest : args.advance.readAll rest with
      | error fault =>
        simp only [hrest] at h
        cases h
        exact ih hrest
      | ok bindings =>
        simp only [hrest] at h
        cases h

/-- The step of a closure, or the one that authenticates a principal. -/
inductive Step.Adapted : Step σ → Prop
  | closure (params : List (Param Ty)) (body : Body σ) : Adapted (.typed params body)
  | principal (provider : Provider σ) (principal : Value) (abilities : List String)
      (guard : Option String) :
      Adapted (Scenario.authenticate provider principal abilities guard)

/-- The callback that an invocation runs gives an error: the body of a closure returns one, or a
provider answers with one. -/
inductive Invocation.Raises (invocation : Invocation σ) (cause : Cause) : Prop
  | body {params : List (Param Ty)} {body : Body σ} {bindings : List (Option Value)}
      {output : Output} {after : σ} :
      invocation.entry.step = .typed params body →
      (Arguments.ofList invocation.arguments).readAll (Step.reads params) = .ok bindings →
      body bindings invocation.world = (.ok output, after) → output.cause? = some cause →
      Raises invocation cause
  | provider {provider : Provider σ} {principal : Value} {abilities : List String}
      {guard : Option String} {after : σ} :
      invocation.entry.step = Scenario.authenticate provider principal abilities guard →
      provider principal abilities guard invocation.world = (.error cause, after) →
      Raises invocation cause

namespace Invocation

variable {invocation : Invocation σ}

/-- What is raised becomes the cause of a failed step. -/
theorem Raises.outcome {cause : Cause} (h : invocation.Raises cause) :
    invocation.outcome.1 = .error (.failed (.step cause)) := by
  cases h with
  | @body params body bindings output after hstep hread hbody hcause =>
    have hproduce : output.produce = .error (.step cause) := by
      rcases output.produce_eq with ⟨_, hnone, -⟩ | ⟨other, hsome, hp⟩
      · rw [hcause] at hnone
        cases hnone
      · rw [hcause] at hsome
        cases hsome
        exact hp
    simp only [Invocation.outcome, Step.invoke, hstep, Step.typed, hread, hbody, Step.settle,
      hproduce]
    rfl
  | provider hstep hanswer =>
    simp only [Invocation.outcome, Step.invoke, hstep, Scenario.authenticate, Step.undescribed,
      hanswer]

/-- A step of a closure or a principal fails because of an argument, or because something was
raised. -/
theorem failure_cases (ha : invocation.entry.step.Adapted) {failure : Failure}
    (h : invocation.outcome.1 = .error (.failed failure)) :
    failure.Injects ∨ ∃ cause, failure = .step cause ∧ invocation.Raises cause := by
  generalize hs : invocation.entry.step = step at ha
  cases ha with
  | closure params body =>
    simp only [Invocation.outcome, Step.invoke, hs, Step.typed] at h
    cases hr : (Arguments.ofList invocation.arguments).readAll (Step.reads params) with
    | error fault =>
      rw [hr] at h
      cases h
      exact .inl (Arguments.injects_of_readAll hr)
    | ok bindings =>
      rw [hr] at h
      cases hb : body bindings invocation.world with
      | mk completion after =>
        simp only [hb] at h
        cases completion with
        | error message => cases h
        | ok output =>
          rcases output.produce_eq with ⟨given, -, hp⟩ | ⟨cause, hc, hp⟩
          · simp only [Step.settle, hp] at h
            cases h
          · simp only [Step.settle, hp] at h
            cases h
            exact .inr ⟨cause, rfl, .body hs hr hb hc⟩
  | principal provider principal abilities guard =>
    simp only [Invocation.outcome, Step.invoke, hs, Scenario.authenticate, Step.undescribed] at h
    cases hp : provider principal abilities guard invocation.world with
    | mk answer after =>
      simp only [hp] at h
      cases answer with
      | ok value => cases h
      | error cause =>
        cases h
        exact .inr ⟨cause, rfl, .provider hs hp⟩

theorem exists_of_verdict {invocations : List (Invocation σ)} {halt : Halt}
    (h : verdict invocations = .error halt) :
    ∃ invocation ∈ invocations, invocation.outcome.1 = .error halt := by
  induction invocations with
  | nil => cases h
  | cons invocation invocations ih =>
    cases ho : invocation.outcome.1 with
    | error reason =>
      simp only [verdict, ho] at h
      exact ⟨invocation, List.mem_cons_self, ho.trans (congrArg _ (Except.error.inj h))⟩
    | ok given =>
      simp only [verdict, ho] at h
      obtain ⟨other, hm, hother⟩ := ih h
      exact ⟨other, List.mem_cons_of_mem _ hm, hother⟩

end Invocation

open Invocation

/-- A phase ends with any step in it that fails. -/
theorem verdict_of_mem_trail {entries : List (Entry σ)} {store : Store} {world : σ}
    {invocation : Invocation σ} (hm : invocation ∈ trail entries store world) {halt : Halt}
    (h : invocation.outcome.1 = .error halt) :
    verdict (trail entries store world) = .error halt := by
  induction entries generalizing store world with
  | nil => cases hm
  | cons entry entries ih =>
    rw [trail] at hm ⊢
    rcases List.mem_cons.1 hm with rfl | hm
    · simp only [verdict, h]
    · cases ho : (⟨entry, store, world⟩ : Invocation σ).outcome with
      | mk result after =>
        cases result with
        | error reason =>
          simp only [ho] at hm
          cases hm
        | ok given =>
          simp only [ho] at hm ⊢
          simp only [verdict, ho]
          exact ih hm

namespace Scenario

/-- A run ends with any step in it that fails. -/
theorem ending_of_mem {scenario : Scenario σ} {assertion : Step σ} {world : σ}
    {invocation : Invocation σ}
    (hm : invocation ∈ (scenario.chapters assertion world).flatMap Chapter.invocations)
    {halt : Halt} (h : invocation.outcome.1 = .error halt) :
    scenario.ending assertion world = .error halt := by
  have hconditions : invocation ∈ scenario.conditionTrail world →
      verdict (scenario.conditionTrail world) = .error halt := fun hm => verdict_of_mem_trail hm h
  have hactions : invocation ∈ scenario.actionTrail world →
      verdict (scenario.actionTrail world) = .error halt := fun hm => verdict_of_mem_trail hm h
  unfold ending
  unfold chapters at hm ⊢
  cases hc : verdict (scenario.conditionTrail world) with
  | error reason =>
    simp only [hc, List.flatMap_singleton, Chapter.invocations] at hm ⊢
    exact hc ▸ hconditions hm
  | ok passed =>
    rw [hc] at hconditions
    cases ha : verdict (scenario.actionTrail world) with
    | error reason =>
      simp only [hc, ha, List.flatMap_cons, List.flatMap_nil, Chapter.invocations, List.append_nil,
        verdict_append hc, List.mem_append] at hm ⊢
      rcases hm with hm | hm
      · -- A condition that fails would have ended the run.
        cases hconditions hm
      · exact ha ▸ hactions hm
    | ok passed =>
      rw [ha] at hactions
      simp only [hc, ha, List.flatMap_cons, List.flatMap_nil, Chapter.invocations, List.append_nil,
        verdict_append hc, verdict_append ha, List.mem_append, List.mem_singleton] at hm ⊢
      rcases hm with hm | hm | rfl
      · cases hconditions hm
      · cases hactions hm
      · simp only [verdict, h]

end Scenario

/-! ## Early and late failures -/

/-- The step that a call brings along, if any, is that of a closure. -/
def Call.Closed : Call σ → Prop
  | .given _ (.deferred step) | .act _ step | .verify step =>
    ∃ params body, step = .typed params body
  | _ => True

theorem Call.Closed.adapted {config : Config σ} {call : Call σ} (hc : call.Closed)
    {entry : Entry σ} (h : call.Brings config entry) : entry.step.Adapted := by
  cases h with
  | asserted he =>
    obtain rfl := he
    obtain ⟨params, body, rfl⟩ := hc
    exact .closure params body
  | registered hr =>
    cases call with
    | given key condition =>
      cases condition with
      | literal value => cases hr
      | deferred step =>
        cases hr
        obtain ⟨params, body, rfl⟩ := hc
        exact .closure params body
    | act key step =>
      cases hr
      obtain ⟨params, body, rfl⟩ := hc
      exact .closure params body
    | actingAs principal options =>
      obtain ⟨name, provider, -, -, hreg⟩ :=
        Call.registration_of_accepted (Call.refusal_of_registration hr)
      rw [hr] at hreg
      cases hreg
      exact .principal _ _ _ _
    | _ => cases hr

namespace Scenario

/-- How a verification fails. -/
structure FailsLate (scenario : Scenario σ) (assertion : Step σ) (world : σ) : Prop where
  /-- It never fails because of the configuration, but because of an argument, because something was
  raised, or because nothing failed although something was to. -/
  kinds : ∀ failure, (scenario.verify assertion world).result = .error (.failed failure) →
    failure.isConfiguration = false ∧
      (failure.Injects ∨
        (∃ cause, failure = .step cause ∧
          ∃ invocation ∈ (scenario.chapters assertion world).flatMap Chapter.invocations,
            invocation.Raises cause) ∨
        ∃ expectation, scenario.expected = some expectation ∧
          failure = .unmet expectation.display)
  /-- What is raised, be it a failure of the configuration, ends the run as the direct source of a
  failed step, which says the same; and that is what comes of it, unless it was expected. -/
  wraps : ∀ invocation ∈ (scenario.chapters assertion world).flatMap Chapter.invocations,
    ∀ cause, invocation.Raises cause →
      scenario.ending assertion world = .error (.failed (.step cause)) ∧
        (¬scenario.Absorbs (.failed (.step cause)) →
          (scenario.verify assertion world).result = .error (.failed (.step cause))) ∧
        (Failure.step cause).message = cause.message ∧
        (Failure.step cause).links = ⟨Failure.type, cause.message⟩ :: cause.links

/-- How settings and principals are refused. -/
structure RefusesEarly (σ : Type) : Prop where
  /-- Settings are refused because of the configuration, and whatever the providers do: only their
  names count. -/
  settings : ∀ (suite : Suite) (providers : Providers σ) failure,
    suite.toConfig providers = .error failure →
      failure.isConfiguration = true ∧
        ∀ (τ : Type) (others : Providers τ), others.names = providers.names →
          suite.toConfig others = .error failure
  /-- Principals are refused because of the configuration. The shared state stays, and nothing is
  invoked. -/
  principals : ∀ (scenario : Scenario σ) world principal options failure,
    scenario.actingAs principal options = .error failure →
      failure.isConfiguration = true ∧
        scenario.call world (.actingAs principal options) = ⟨.error (.failed failure), world, []⟩ ∧
        scenario.invocations world [.actingAs principal options] = []

theorem failsLate {config : Config σ} {start : σ} {before : List (Call σ)} {scenario : Scenario σ}
    (hc : ∀ call ∈ before, call.Closed)
    (h : ((fresh config).play start before).result = .ok scenario) (params : List (Param Ty))
    (body : Body σ) (world : σ) : FailsLate scenario (.typed params body) world := by
  obtain ⟨hending, -⟩ := run_chapters scenario (.typed params body) world
  have hwaiting : ∀ entry, entry ∈ scenario.conditions.entries ∨
      entry ∈ scenario.actions.entries → entry.step.Adapted := by
    intro entry hm
    obtain ⟨call, hcall, hb⟩ := waiting_brought h hm
    exact (hc call hcall).adapted hb
  have hadapted : ∀ invocation ∈
      (scenario.chapters (.typed params body) world).flatMap Chapter.invocations,
      invocation.entry.step.Adapted := by
    intro invocation hm
    rcases entry_of_chapters hm with hm | hm | he
    · exact hwaiting _ (.inl hm)
    · exact hwaiting _ (.inr hm)
    · rw [he]
      exact .closure params body
  refine ⟨fun failure hf => ?_, fun invocation hm cause hr => ?_⟩
  · rcases verify_error_iff.1 hf with ⟨-, expectation, he, hu⟩ | ⟨hr, -⟩
    · cases hu
      exact ⟨rfl, .inr (.inr ⟨expectation, he, rfl⟩)⟩
    · obtain ⟨invocation, hm, ho⟩ := exists_of_verdict (hending.symm.trans hr)
      rcases failure_cases (hadapted invocation hm) ho with hi | ⟨cause, rfl, hraises⟩
      · refine ⟨?_, .inl hi⟩
        cases hi <;> rfl
      · exact ⟨rfl, .inr (.inl ⟨cause, rfl, invocation, hm, hraises⟩)⟩
  · have hends := ending_of_mem hm hr.outcome
    exact ⟨hends, fun hn => verify_error_iff.2 (.inr ⟨hending.trans hends, hn⟩), rfl, rfl⟩

theorem refusesEarly : RefusesEarly σ where
  settings suite providers failure h := by
    refine ⟨?_, fun τ others hnames => ?_⟩
    · rcases Suite.toConfig_error_iff.1 h with ⟨_, -, -, rfl⟩ | ⟨-, _, -, -, rfl⟩ <;> rfl
    · rw [Suite.toConfig_error_iff] at h ⊢
      rwa [hnames]
  principals scenario world principal options failure h := by
    have hcall : scenario.call world (.actingAs principal options) =
        ⟨.error (.failed failure), world, []⟩ := by
      rw [Scenario.call, h]
    refine ⟨?_, hcall, invocations_of_gathering (by simp [Call.kind]) scenario world⟩
    rw [actingAs_eq] at h
    split at h
    · cases h
      rfl
    · split at h <;> cases h
      rfl

/-- Settings and principals are refused with a failure of the configuration, before anything is
invoked. A verification never fails with one: what it fails with is about an argument, says that
nothing failed as expected, or has for its source what an invocation raised, be that a failure of
the configuration itself. -/
theorem eager {config : Config σ} {start : σ} {before : List (Call σ)} {scenario : Scenario σ}
    (hc : ∀ call ∈ before, call.Closed)
    (h : ((fresh config).play start before).result = .ok scenario) (params : List (Param Ty))
    (body : Body σ) (world : σ) :
    FailsLate scenario (.typed params body) world ∧ RefusesEarly σ :=
  ⟨failsLate hc h params body world, refusesEarly⟩

open Script in
/-- An action of which the callback gives the failure that a provider is missing. -/
def confused : Call World :=
  .act none (closure [] "pay" (.err (.failure .providerMissing)))

open Script in
/-- That failure becomes the cause of a failed step. -/
theorem eager_confused :
    ∃ scenario failure, ((fresh .default).play .empty [confused]).result = .ok scenario ∧
      (∀ call ∈ [confused], call.Closed) ∧
      FailsLate scenario (closure [] "check" .nothing) World.empty ∧ RefusesEarly World ∧
      (scenario.verify (closure [] "check" .nothing) .empty).result = .error (.failed failure) ∧
      failure = .step (.failure .providerMissing) ∧ failure.isConfiguration = false := by
  have h : ((fresh .default).play .empty [confused]).result = .ok _ := rfl
  have hc : ∀ call ∈ [confused], call.Closed := by
    rw [List.forall_mem_singleton, confused, Call.Closed]
    exact ⟨[], Script.body "pay" (List.map Binding.ofOption)
      (Return.err (.failure .providerMissing)).output, rfl⟩
  obtain ⟨hlate, hearly⟩ := eager hc h [] (Script.body "check" (List.map Binding.ofOption)
    Return.nothing.output) World.empty
  exact ⟨_, _, h, hc, hlate, hearly, rfl, rfl, rfl⟩

end Scenario

end Storytest
