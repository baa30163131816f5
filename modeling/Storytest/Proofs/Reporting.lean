import Storytest.Proofs.Outcome
import Storytest.Proofs.Selection

/-!
# What a verification reports

The log of a verification is told by what ran, without the resolver and the loop over the steps
(`Scenario.Tells`): for every step that is invoked a line for each parameter, one that announces the
step, and a warning where its value takes the place of another; at the end a line if a failure was
absorbed. `verify_log_iff`: these lines are written, in this order, and no others.
-/

namespace Storytest

variable {σ : Type}

namespace Event

/-- An event as it is written. -/
structure Line where
  level : Level
  message : String
  fields : List (String × String)
  deriving DecidableEq, Repr

def line (event : Event) : Line :=
  ⟨event.level, event.message, event.fields⟩

/-- The line tells of a parameter that is left out. -/
def Line.omits (line : Line) : Bool :=
  line.message = "no stored value matches; omitting"

end Event

open Event

/-- The events of a call as they are written. -/
def Report.log {α : Type} (report : Report σ α) : List Line :=
  report.events.map Event.line

/-! ## Parameters -/

namespace ParamSpec

/-- What is written about the parameter at a position: where its value comes from, or that there is
none for it. -/
inductive Reports (spec : ParamSpec) (store : Store) (position : Nat) : Line → Prop
  | byName {name : String} {value : Value} :
      spec.name = some name → store.get? name = some value →
        Reports spec store position
          ⟨.trace, "injecting by name", [("parameter", Text.quoteOption spec.name)]⟩
  | byType {key : String} {value : Value} :
      spec.Nameless store → spec.Least store key value →
        Reports spec store position ⟨.trace, "injecting by type",
          [("parameter", Text.quoteOption spec.name), ("key", key), ("ty", value.ty.shortName)]⟩
  | omitted :
      spec.Nameless store → (∀ key value, store.get? key = some value → value.ty ∉ spec.accepts) →
        Reports spec store position ⟨.trace, "no stored value matches; omitting",
          [("position", toString position), ("parameter", Text.quoteOption spec.name)]⟩

variable {spec : ParamSpec} {store : Store}

theorem smallest_eq_none_iff_get? :
    spec.smallest? store = none ↔
      ∀ key value, store.get? key = some value → value.ty ∉ spec.accepts := by
  rw [smallest_eq_none_iff]
  constructor
  · intro h key value hg
    exact h (key, value) (Store.get?_eq_some_iff.1 hg)
  · intro h entry he
    exact h entry.1 entry.2 (Store.get?_eq_some_iff.2 he)

/-- A parameter is reported as it is matched. -/
theorem reports_iff {position : Nat} {line : Line} :
    spec.Reports store position line ↔ ((spec.find store).event position spec).line = line := by
  constructor
  · intro h
    cases h with
    | byName hname hvalue =>
      have hn : spec.named? store = some _ := Option.bind_eq_some_iff.2 ⟨_, hname, hvalue⟩
      rw [find, hn]
      rfl
    | byType hn hl =>
      rw [find, named_eq_none_iff.2 hn, smallest_eq_some_iff.2 hl]
      rfl
    | omitted hn hnone =>
      rw [find, named_eq_none_iff.2 hn, smallest_eq_none_iff_get?.2 hnone]
      rfl
  · rintro rfl
    unfold find
    cases hn : spec.named? store with
    | some value =>
      obtain ⟨name, hname, hvalue⟩ := Option.bind_eq_some_iff.1 hn
      exact .byName hname hvalue
    | none =>
      have hnameless := named_eq_none_iff.1 hn
      cases hs : spec.smallest? store with
      | some entry => exact .byType hnameless (least_of_smallest hs)
      | none => exact .omitted hnameless (smallest_eq_none_iff_get?.1 hs)

theorem omits_find (position : Nat) :
    ((spec.find store).event position spec).line.omits = (spec.resolve store).isNone := by
  unfold resolve
  cases spec.find store <;> rfl

end ParamSpec

/-! ## Signatures -/

namespace Signature

/-- What is written about parameters, the first of which is at the position. -/
inductive ReportsFrom (store : Store) : Nat → List ParamSpec → List Line → Prop
  | nil {position : Nat} : ReportsFrom store position [] []
  | cons {position : Nat} {spec : ParamSpec} {rest : List ParamSpec} {line : Line}
      {lines : List Line} :
      spec.Reports store position line → ReportsFrom store (position + 1) rest lines →
        ReportsFrom store position (spec :: rest) (line :: lines)

/-- What is written while a signature is resolved: a line for each declared parameter, in order of
declaration, or a single one where nothing is declared. -/
inductive Reports (store : Store) : Signature → List Line → Prop
  | described {params : List ParamSpec} {lines : List Line} :
      ReportsFrom store 0 params lines → Reports store (.described params) lines
  | opaqueCall :
      Reports store .opaqueCall [⟨.trace, "signature is opaque; injecting no arguments", []⟩]

/-- The declared parameters; there are none in a signature that declares nothing. -/
def declared (signature : Signature) : List ParamSpec :=
  signature.params?.getD []

variable {store : Store}

theorem reportsFrom_iff {params : List ParamSpec} {position : Nat} {lines : List Line} :
    ReportsFrom store position params lines ↔
      (eventsFrom store position params).map Event.line = lines := by
  induction params generalizing position lines with
  | nil =>
    refine ⟨fun h => ?_, fun h => ?_⟩
    · cases h
      rfl
    · cases h
      exact .nil
  | cons spec params ih =>
    refine ⟨fun h => ?_, fun h => ?_⟩
    · cases h with
      | cons hline hrest =>
        rw [eventsFrom, List.map_cons, ParamSpec.reports_iff.1 hline, ih.1 hrest]
    · cases h
      exact .cons (ParamSpec.reports_iff.2 rfl) (ih.2 rfl)

theorem reports_iff {signature : Signature} {lines : List Line} :
    Reports store signature lines ↔ (signature.events store).map Event.line = lines := by
  cases signature with
  | described params =>
    refine ⟨fun h => ?_, fun h => .described (reportsFrom_iff.2 h)⟩
    cases h with
    | described h => exact reportsFrom_iff.1 h
  | opaqueCall =>
    refine ⟨fun h => ?_, fun h => ?_⟩
    · cases h
      rfl
    · cases h
      exact .opaqueCall

/-- Each parameter is given an argument or reported as left out. -/
theorem length_arguments_add_omits (signature : Signature) (store : Store) :
    (signature.arguments store).length +
        ((signature.events store).map Event.line).countP Line.omits =
      signature.declared.length := by
  cases signature with
  | opaqueCall => rfl
  | described params =>
    have hfrom : ∀ position,
        (params.filterMap fun spec => spec.resolve store).length +
            ((eventsFrom store position params).map Event.line).countP Line.omits =
          params.length := by
      induction params with
      | nil => exact fun position => rfl
      | cons spec params ih =>
        intro position
        specialize ih (position + 1)
        rw [eventsFrom, List.map_cons, List.countP_cons, ParamSpec.omits_find]
        cases hr : spec.resolve store with
        | none =>
          simp only [List.filterMap_cons, hr, Option.isNone_none, if_true, List.length_cons]
          omega
        | some value =>
          simp only [List.filterMap_cons, hr, Option.isNone_some, Bool.false_eq_true, if_false,
            List.length_cons]
          omega
    exact hfrom 0

end Signature

/-! ## Invocations -/

namespace Invocation

/-- The line that announces a step with so many arguments. An assertion has no key. -/
def announcement (phase : Phase) (key : Option String) (arguments : Nat) : Line :=
  let keyed := if phase = .assertion then [] else [("key", key.getD "<unkeyed>")]
  ⟨.debug, "evaluating step", ("phase", phase.name) :: keyed ++ [("arguments", toString arguments)]⟩

/-- The step gives a value that takes the place of another: the entry has no key, and the key that
is inferred for the value is stored. What an assertion gives is not stored. -/
def Overwrites (phase : Phase) (invocation : Invocation σ) (value : Value) : Prop :=
  phase ≠ .assertion ∧ invocation.outcome.1 = .ok (some value) ∧ invocation.entry.key = none ∧
    invocation.store.has value.inferredKey = true

/-- What is written about the value that a step gives. -/
inductive Warns (phase : Phase) (invocation : Invocation σ) : List Line → Prop
  | overwritten {value : Value} : invocation.Overwrites phase value →
      Warns phase invocation
        [⟨.warn, "inferred key overwrites an existing value", [("key", value.inferredKey)]⟩]
  | nothing : (∀ value, ¬invocation.Overwrites phase value) → Warns phase invocation []

/-- What is written about an invocation: its parameters, then the step with the number of those that
are not reported as left out, then the warning. -/
inductive Tells (phase : Phase) (invocation : Invocation σ) : List Line → Prop
  | intro {resolved warned : List Line} {arguments : Nat} :
      invocation.entry.step.signature.Reports invocation.store resolved →
      arguments + resolved.countP Line.omits = invocation.entry.step.signature.declared.length →
      invocation.Warns phase warned →
        Tells phase invocation
          (resolved ++ announcement phase invocation.entry.key arguments :: warned)

/-- The event that announces the invocation. -/
def announced (phase : Phase) (invocation : Invocation σ) : Event :=
  match phase with
  | .assertion => .asserting invocation.arguments.length
  | phase => .evaluating phase invocation.entry.key invocation.arguments.length

/-- The events of storing what the invocation gave. -/
def stored (phase : Phase) (invocation : Invocation σ) : List Event :=
  if phase = .assertion then []
  else
    match invocation.outcome.1 with
    | .ok (some value) => invocation.store.keepEvents invocation.entry.key value
    | _ => []

/-- The events of an invocation. -/
def events (phase : Phase) (invocation : Invocation σ) : List Event :=
  invocation.entry.step.signature.events invocation.store ++
    invocation.announced phase :: invocation.stored phase

variable {phase : Phase} {invocation : Invocation σ}

theorem line_announced :
    (invocation.announced phase).line =
      announcement phase invocation.entry.key invocation.arguments.length := by
  cases phase <;> rfl

theorem stored_of_overwrites {value : Value} (h : invocation.Overwrites phase value) :
    invocation.stored phase = [.overwritten value.inferredKey] := by
  obtain ⟨hphase, houtcome, hkey, hhas⟩ := h
  rw [stored, if_neg hphase, houtcome, hkey]
  exact if_pos hhas

theorem stored_of_not_overwrites (h : ∀ value, ¬invocation.Overwrites phase value) :
    invocation.stored phase = [] := by
  unfold stored
  by_cases hphase : phase = .assertion
  · exact if_pos hphase
  · rw [if_neg hphase]
    cases houtcome : invocation.outcome.1 with
    | error halt => rfl
    | ok given =>
      cases given with
      | none => rfl
      | some value =>
        cases hkey : invocation.entry.key with
        | some key => rfl
        | none =>
          have hhas : ¬invocation.store.has value.inferredKey = true := fun hhas =>
            h value ⟨hphase, houtcome, hkey, hhas⟩
          exact if_neg hhas

theorem warns_iff {lines : List Line} :
    invocation.Warns phase lines ↔ (invocation.stored phase).map Event.line = lines := by
  constructor
  · intro h
    cases h with
    | overwritten ho =>
      rw [stored_of_overwrites ho]
      rfl
    | nothing hn =>
      rw [stored_of_not_overwrites hn]
      rfl
  · rintro rfl
    by_cases h : ∃ value, invocation.Overwrites phase value
    · obtain ⟨value, ho⟩ := h
      rw [stored_of_overwrites ho]
      exact .overwritten ho
    · have hn := not_exists.1 h
      rw [stored_of_not_overwrites hn]
      exact .nothing hn

theorem tells_iff {lines : List Line} :
    invocation.Tells phase lines ↔ (invocation.events phase).map Event.line = lines := by
  have hcount := invocation.entry.step.signature.length_arguments_add_omits invocation.store
  rw [events, List.map_append, List.map_cons, line_announced]
  constructor
  · rintro ⟨hresolved, harguments, hwarned⟩
    rw [Signature.reports_iff.1 hresolved] at hcount ⊢
    rw [warns_iff.1 hwarned, Nat.add_right_cancel (harguments.trans hcount.symm)]
    rfl
  · rintro rfl
    exact .intro (Signature.reports_iff.2 rfl) hcount (warns_iff.2 rfl)

end Invocation

/-- The first step of a phase reports its invocation; the others go on from what it left, if it
returned. -/
theorem evaluate_cons_events {phase : Phase} (hphase : phase ≠ .assertion) (entry : Entry σ)
    (rest : List (Entry σ)) (store : Store) (world : σ) :
    let invocation : Invocation σ := ⟨entry, store, world⟩
    (evaluate phase (entry :: rest) store world).events =
      invocation.events phase ++
        match invocation.outcome with
        | (.error _, _) => []
        | (.ok _, after) =>
          (evaluate phase rest (store.keepAll invocation.written) after).events := by
  intro invocation
  have hannounced : invocation.announced phase =
      .evaluating phase entry.key invocation.arguments.length := by
    cases phase <;> first | rfl | exact (hphase rfl).elim
  have houtcome : invocation.outcome =
      entry.step.invoke (entry.step.signature.arguments store) world := rfl
  rw [Invocation.events, hannounced, Invocation.stored, if_neg hphase, Invocation.written, evaluate,
    ← houtcome]
  rcases invocation.outcome with ⟨_ | _ | value, after⟩ <;>
    simp [Report.after, Invocation.arguments, invocation, Store.keepAll]

/-- The events of a phase are those of its invocations, one after the other. -/
theorem evaluate_events {phase : Phase} (hphase : phase ≠ .assertion) (entries : List (Entry σ)) :
    ∀ (store : Store) (world : σ),
      (evaluate phase entries store world).events =
        (trail entries store world).flatMap (Invocation.events phase) := by
  induction entries with
  | nil => exact fun store world => rfl
  | cons entry entries ih =>
    intro store world
    rw [evaluate_cons_events hphase, trail, List.flatMap_cons]
    cases (⟨entry, store, world⟩ : Invocation σ).outcome with
    | mk result after =>
      cases result with
      | error halt => rfl
      | ok given =>
        dsimp only
        rw [ih]

/-- The events of an assertion are those of its invocation. -/
theorem Step.assertOn_events (assertion : Step σ) (store : Store) (world : σ) :
    (assertion.assertOn store world).events =
      (⟨⟨none, assertion⟩, store, world⟩ : Invocation σ).events .assertion :=
  rfl

/-! ## Verifications -/

/-- The invocations of a chapter, each with its phase. -/
def Chapter.phased : Chapter σ → List (Phase × Invocation σ)
  | .literal _ _ => []
  | .phase stage invocations => invocations.map fun invocation => (stage, invocation)
  | .assertion invocation => [(.assertion, invocation)]

namespace Scenario

/-- The invocations of a run in their order, each with its phase. -/
def invoked (scenario : Scenario σ) (assertion : Step σ) (world : σ) : List (Phase × Invocation σ) :=
  (scenario.chapters assertion world).flatMap Chapter.phased

/-- What is written at the end of a verification: that a failure was absorbed, if the run ended with
one and the scenario nevertheless goes on. -/
inductive Closes (scenario : Scenario σ) (assertion : Step σ) (world : σ) : List Line → Prop
  | absorbed {failure : Failure} {expectation : Expectation} {next : Scenario σ} :
      scenario.ending assertion world = .error (.failed failure) →
      scenario.expected = some expectation →
      (scenario.verify assertion world).result = .ok next →
        Closes scenario assertion world [⟨.debug, "expected failure observed",
          [("expected", expectation.display), ("error", failure.message)]⟩]
  | nothing :
      (∀ halt next, ¬(scenario.ending assertion world = .error halt ∧
        (scenario.verify assertion world).result = .ok next)) →
        Closes scenario assertion world []

/-- What the log of a verification tells: every invocation, in order, and at the end whether a
failure was absorbed. -/
def Tells (scenario : Scenario σ) (assertion : Step σ) (world : σ) (log : List Line) : Prop :=
  ∃ (told : List (List Line)) (last : List Line),
    List.Forall₂ (fun step lines => step.2.Tells step.1 lines) (scenario.invoked assertion world)
      told ∧
    scenario.Closes assertion world last ∧ log = told.flatten ++ last

/-- The events of a run are those of its invocations. -/
theorem run_events (scenario : Scenario σ) (assertion : Step σ) (world : σ) :
    (scenario.run assertion world).2.events =
      (scenario.invoked assertion world).flatMap fun step => step.2.events step.1 := by
  obtain ⟨hpassed, hworld⟩ := runConditions_trail scenario world
  obtain ⟨hacted, hlast⟩ := runActions_trail scenario world
  have hconditions : (scenario.runConditions world).events =
      (scenario.conditionTrail world).flatMap (Invocation.events .condition) :=
    evaluate_events (by decide) _ _ _
  have hactions : (scenario.runActions (scenario.conditionStore world)
      (Invocation.worldAfter world (scenario.conditionTrail world))).events =
        (scenario.actionTrail world).flatMap (Invocation.events .action) :=
    evaluate_events (by decide) _ _ _
  rw [run_eq]
  unfold invoked chapters
  cases hc : Invocation.verdict (scenario.conditionTrail world) with
  | error halt =>
    rw [hc, Except.map] at hpassed
    simp only [hpassed, hconditions, List.flatMap_singleton, Chapter.phased, List.flatMap_map]
  | ok passed =>
    rw [hc, Except.map] at hpassed
    cases ha : Invocation.verdict (scenario.actionTrail world) with
    | error halt =>
      rw [ha, Except.map] at hacted
      simp only [hpassed, hworld, hacted, hconditions, hactions, List.flatMap_cons,
        List.flatMap_nil, List.append_nil, Chapter.phased, List.flatMap_append, List.flatMap_map]
    | ok passed =>
      rw [ha, Except.map] at hacted
      simp only [hpassed, hworld, hacted, hlast, hconditions, hactions, List.flatMap_cons,
        List.flatMap_nil, List.append_nil, Chapter.phased, List.flatMap_append, List.flatMap_map,
        Report.after, Step.assertOn_events, closing, List.append_assoc]

/-- The event of a failure that is absorbed. -/
def observed (scenario : Scenario σ) (assertion : Step σ) (world : σ) : List Event :=
  match scenario.ending assertion world, scenario.expected with
  | .error (.failed failure), some expectation =>
    if expectation.isSatisfiedBy failure.links then
      [.failureObserved expectation.display failure.message]
    else []
  | _, _ => []

/-- Behind the events of its run, a verification reports a failure that it absorbs. -/
theorem verify_events (scenario : Scenario σ) (assertion : Step σ) (world : σ) :
    (scenario.verify assertion world).events =
      (scenario.run assertion world).2.events ++ scenario.observed assertion world := by
  obtain ⟨hending, -⟩ := run_chapters scenario assertion world
  unfold verify observed
  rw [← hending]
  cases hr : (scenario.run assertion world).2.result with
  | ok passed => cases he : scenario.expected <;> simp [hr]
  | error halt =>
    cases halt with
    | panicked message => cases he : scenario.expected <;> simp [hr]
    | failed failure =>
      cases he : scenario.expected with
      | none => simp [hr]
      | some expectation =>
        by_cases hs : expectation.isSatisfiedBy failure.links = true <;> simp [hr, hs]

/-- A verification of a run that failed goes on if the failure is the expected one. -/
theorem goesOn_iff_absorbs {scenario : Scenario σ} {assertion : Step σ} {world : σ} {halt : Halt}
    (he : scenario.ending assertion world = .error halt) :
    (∃ next, (scenario.verify assertion world).result = .ok next) ↔ scenario.Absorbs halt := by
  obtain ⟨hending, -⟩ := run_chapters scenario assertion world
  have hr := hending.trans he
  constructor
  · rintro ⟨next, hv⟩
    obtain ⟨-, ⟨hok, -⟩ | ⟨failure, expectation, hf, hx, hs⟩⟩ := verify_ok_iff.1 hv
    · cases hok.symm.trans hr
    · exact ⟨failure, expectation, Except.error.inj (hr.symm.trans hf), hx, hs⟩
  · rintro ⟨failure, expectation, rfl, hx, hs⟩
    exact ⟨_, verify_ok_iff.2 ⟨rfl, .inr ⟨failure, expectation, hr, hx, hs⟩⟩⟩

theorem observed_of_satisfied {scenario : Scenario σ} {assertion : Step σ} {world : σ}
    {failure : Failure} {expectation : Expectation}
    (he : scenario.ending assertion world = .error (.failed failure))
    (hx : scenario.expected = some expectation)
    (hs : expectation.isSatisfiedBy failure.links = true) :
    scenario.observed assertion world =
      [.failureObserved expectation.display failure.message] := by
  simp only [observed, he, hx, hs, if_true]

theorem observed_of_not_absorbs {scenario : Scenario σ} {assertion : Step σ} {world : σ}
    (h : ∀ halt, scenario.ending assertion world = .error halt → ¬scenario.Absorbs halt) :
    scenario.observed assertion world = [] := by
  unfold observed
  split
  · next failure expectation he hx =>
    exact if_neg fun hs => h _ he ⟨failure, expectation, rfl, hx, hs⟩
  · rfl

/-- A verification reports the failure of its run if it goes on nevertheless, and else none. -/
theorem closes_iff {scenario : Scenario σ} {assertion : Step σ} {world : σ} {lines : List Line} :
    scenario.Closes assertion world lines ↔
      (scenario.observed assertion world).map Event.line = lines := by
  constructor
  · intro h
    cases h with
    | absorbed he hx hv =>
      obtain ⟨failure, expectation, hf, hx', hs⟩ := (goesOn_iff_absorbs he).1 ⟨_, hv⟩
      cases hf
      cases hx.symm.trans hx'
      rw [observed_of_satisfied he hx hs]
      rfl
    | nothing hn =>
      rw [observed_of_not_absorbs fun halt he habsorbs => ?_]
      · rfl
      · obtain ⟨next, hv⟩ := (goesOn_iff_absorbs he).2 habsorbs
        exact hn halt next ⟨he, hv⟩
  · rintro rfl
    by_cases h : ∃ halt, scenario.ending assertion world = .error halt ∧ scenario.Absorbs halt
    · obtain ⟨halt, he, habsorbs⟩ := h
      obtain ⟨next, hv⟩ := (goesOn_iff_absorbs he).2 habsorbs
      obtain ⟨failure, expectation, rfl, hx, hs⟩ := habsorbs
      rw [observed_of_satisfied he hx hs]
      exact .absorbed he hx hv
    · have hn : ∀ halt, scenario.ending assertion world = .error halt → ¬scenario.Absorbs halt :=
        fun halt he habsorbs => h ⟨halt, he, habsorbs⟩
      rw [observed_of_not_absorbs hn]
      exact .nothing fun halt next hv => hn halt hv.1 ((goesOn_iff_absorbs hv.1).1 ⟨next, hv.2⟩)

/-- The log of a verification is made of the lines of its invocations, in order, and behind them the
line that a failure was absorbed, if the verification goes on after one; and no other lines are. -/
theorem verify_log_iff (scenario : Scenario σ) (assertion : Step σ) (world : σ) (log : List Line) :
    (scenario.verify assertion world).log = log ↔ scenario.Tells assertion world log := by
  have hlog : (scenario.verify assertion world).log =
      ((scenario.invoked assertion world).map fun step =>
          (step.2.events step.1).map Event.line).flatten ++
        (scenario.observed assertion world).map Event.line := by
    rw [Report.log, verify_events, run_events, List.map_append, List.map_flatMap, List.flatMap_def]
  rw [hlog]
  constructor
  · rintro rfl
    refine ⟨_, _, ?_, closes_iff.2 rfl, rfl⟩
    exact List.forall₂_map_right_iff.2 <| List.forall₂_same.2 fun step _ =>
      Invocation.tells_iff.2 rfl
  · rintro ⟨told, last, htold, hlast, rfl⟩
    have hmap : (scenario.invoked assertion world).map
        (fun step => (step.2.events step.1).map Event.line) = told :=
      List.forall₂_eq_eq_eq ▸ List.forall₂_map_left_iff.2
        (htold.imp fun _ _ h => Invocation.tells_iff.1 h)
    rw [hmap, closes_iff.1 hlast]

open Script in
/-- A number that takes the place of another, and an action that fails as expected, with one of its
parameters left out. -/
example :
    let pays := Signature.described [⟨some "currency", [string]⟩, ⟨none, [int32]⟩]
    ((fresh .default).play .empty [
        .given none (.deferred (closure [] "open" (.plain (.literal ⟨int32, .integer 1⟩)))),
        .given none (.deferred (Script.step .opaqueCall []
          ⟨"credit", none, .plain (.literal ⟨int32, .integer 2⟩)⟩)),
        .act (some "payment") (Script.step pays [] ⟨"pay", some Cause.gatewayTimeout, .nothing⟩),
        .expect (.ofType (programType "GatewayTimeout" [])),
        .verify (closure [] "check" .nothing)]).log = [
      ⟨.debug, "evaluating step", [("phase", "condition"), ("key", "<unkeyed>"), ("arguments", "0")]⟩,
      ⟨.trace, "signature is opaque; injecting no arguments", []⟩,
      ⟨.debug, "evaluating step", [("phase", "condition"), ("key", "<unkeyed>"), ("arguments", "0")]⟩,
      ⟨.warn, "inferred key overwrites an existing value", [("key", "i32")]⟩,
      ⟨.trace, "no stored value matches; omitting",
        [("position", "0"), ("parameter", "Some(\"currency\")")]⟩,
      ⟨.trace, "injecting by type", [("parameter", "None"), ("key", "i32"), ("ty", "i32")]⟩,
      ⟨.debug, "evaluating step", [("phase", "action"), ("key", "payment"), ("arguments", "1")]⟩,
      ⟨.debug, "expected failure observed",
        [("expected", "GatewayTimeout"), ("error", "gateway timed out")]⟩] := by
  decide +kernel

end Scenario

end Storytest
