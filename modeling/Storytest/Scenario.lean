import Storytest.Evaluation
import Storytest.Expectation
import Storytest.Settings.Suite

/-!
# Scenarios

Calls on a scenario only collect: literal conditions are stored at once, other conditions and the
actions wait in registries. `Scenario.verify` runs the waiting conditions, then the waiting
actions, and last the assertion, each on the values stored so far. A phase that halts stores
nothing of what its steps gave, and what waited behind it goes on waiting.
-/

namespace Storytest

/-- What is given before an action: a value, or a step that makes one. -/
inductive Condition (σ : Type) where
  | literal (value : Value)
  | deferred (step : Step σ)

/-- A facade that can swap itself for a test double, on the shared state. -/
structure Fake (σ : Type) where
  facade : String
  activate : σ → σ

/-- A scenario: its configuration, what waits to be run, the values stored so far, and the failure
it is expected to end with. -/
structure Scenario (σ : Type) where
  config : Config σ
  conditions : Registry σ
  actions : Registry σ
  store : Store
  expected : Option Expectation

namespace Scenario

variable {σ : Type}

/-- A scenario in which nothing has been said. -/
def fresh (config : Config σ) : Scenario σ :=
  ⟨config, .empty, .empty, .empty, none⟩

/-! ## Conditions, actions, expectations -/

/-- Stores a value at once, under its key or under the short name of its type. -/
def storeLiteral (scenario : Scenario σ) (key : Option String) (value : Value) : Scenario σ :=
  { scenario with store := scenario.store.keep (key.filter (· ≠ "")) value }

/-- What is reported about a literal condition. -/
def literalEvents (scenario : Scenario σ) (key : Option String) (value : Value) : List Event :=
  match key.filter (· ≠ "") with
  | some name => [.literalStored name (some value.ty)]
  | none => scenario.store.inferredEvents value ++ [.literalStored value.inferredKey none]

/-- Adds a condition. -/
def given (scenario : Scenario σ) (key : Option String) : Condition σ → Scenario σ
  | .literal value => scenario.storeLiteral key value
  | .deferred step => { scenario with conditions := scenario.conditions.add step key }

/-- What is reported about a condition. -/
def givenEvents (scenario : Scenario σ) (key : Option String) : Condition σ → List Event
  | .literal value => scenario.literalEvents key value
  | .deferred _ => []

/-- Adds an action; without a key of its own it answers under the key for responses. -/
def act (scenario : Scenario σ) (key : Option String) (step : Step σ) : Scenario σ :=
  { scenario with
    actions := scenario.actions.add step (some (key.getD scenario.config.responseKey)) }

/-- Expects a failure, in place of any other. -/
def expect (scenario : Scenario σ) (expectation : Expectation) : Scenario σ :=
  { scenario with expected := some expectation }

/-! ## Principals -/

/-- The step that lets a provider authenticate a principal. -/
def authenticate (provider : Provider σ) (principal : Value) (abilities : List String)
    (guard : Option String) : Step σ :=
  .undescribed fun _ world =>
    match provider principal abilities guard world with
    | (.ok value, after) => (.ok (some value), after)
    | (.error cause, after) => (.error (.failed (.step cause)), after)

/-- The guard for a principal: the one asked for, or else that of the configuration. -/
def guardFor (config : Config σ) (options : ActingAs) : Option String :=
  options.guard <|> config.guard

/-- The key for a principal: the one asked for, or else that of the configuration. -/
def keyFor (config : Config σ) (options : ActingAs) : String :=
  options.key.getD config.userKey

/-- Adds the condition that a principal is authenticated. A missing provider is reported before an
unknown guard. -/
def actingAs (scenario : Scenario σ) (principal : Value) (options : ActingAs) :
    Except Failure (Scenario σ) := do
  let some (_, provider) := scenario.config.auth | throw .providerMissing
  if let some guard := options.guard then ensureGuard guard scenario.config.guards
  let guard := guardFor scenario.config options
  let step := authenticate provider principal options.abilities guard
  return { scenario with
    conditions := scenario.conditions.add step (some (keyFor scenario.config options)) }

/-- What is reported about a principal that was added. -/
def actingAsEvents (scenario : Scenario σ) (options : ActingAs) : List Event :=
  [.actingAs (keyFor scenario.config options) (guardFor scenario.config options)
    options.abilities.length]

/-! ## The run -/

/-- Runs what waits and then the assertion. The scenario that comes with the report is the one
reached when the run ended, however it ended. -/
def run (scenario : Scenario σ) (assertion : Step σ) (world : σ) :
    Scenario σ × Report σ Unit :=
  let (conditions, noConditions) := scenario.conditions.evaluate .condition scenario.store world
  let scenario := { scenario with conditions := noConditions }
  match conditions.result with
  | .error halt => (scenario, ⟨.error halt, conditions.world, conditions.events⟩)
  | .ok store =>
    let scenario := { scenario with store }
    let (actions, noActions) := scenario.actions.evaluate .action store conditions.world
    let actions := actions.after conditions.events
    let scenario := { scenario with actions := noActions }
    match actions.result with
    | .error halt => (scenario, ⟨.error halt, actions.world, actions.events⟩)
    | .ok store =>
      let scenario := { scenario with store }
      (scenario, (assertion.assertOn store actions.world).after actions.events)

/-- Runs the scenario and compares how it ended with what was expected. An expectation serves for
one run. -/
def verify (scenario : Scenario σ) (assertion : Step σ) (world : σ) : Report σ (Scenario σ) :=
  let (reached, report) := scenario.run assertion world
  let settled := { reached with expected := none }
  match report.result, scenario.expected with
  | .ok (), none => ⟨.ok settled, report.world, report.events⟩
  | .ok (), some expectation =>
    ⟨.error (.failed (.unmet expectation.display)), report.world, report.events⟩
  | .error (.failed failure), some expectation =>
    if expectation.isSatisfiedBy failure.links then
      ⟨.ok settled, report.world,
        report.events ++ [.failureObserved expectation.display failure.message]⟩
    else ⟨.error (.failed failure), report.world, report.events⟩
  | .error halt, _ => ⟨.error halt, report.world, report.events⟩

end Scenario

/-! ## Calls as data -/

/-- A call on a scenario. -/
inductive Call (σ : Type) where
  | given (key : Option String) (condition : Condition σ)
  | act (key : Option String) (step : Step σ)
  | expect (expectation : Expectation)
  | actingAs (principal : Value) (options : ActingAs)
  | fake (fake : Fake σ)
  | verify (assertion : Step σ)

namespace Scenario

variable {σ : Type}

/-- Makes a call. -/
def call (scenario : Scenario σ) (world : σ) : Call σ → Report σ (Scenario σ)
  | .given key condition =>
    ⟨.ok (scenario.given key condition), world, scenario.givenEvents key condition⟩
  | .act key step => .done (scenario.act key step) world
  | .expect expectation => .done (scenario.expect expectation) world
  | .actingAs principal options =>
    match scenario.actingAs principal options with
    | .ok next => ⟨.ok next, world, scenario.actingAsEvents options⟩
    | .error failure => ⟨.error (.failed failure), world, []⟩
  | .fake fake => ⟨.ok scenario, fake.activate world, [.fakeActivated fake.facade]⟩
  | .verify assertion => scenario.verify assertion world

/-- Makes a call on a fresh scenario of a test case, which supplies the configuration. -/
def start (config : Config σ) (world : σ) (call : Call σ) : Report σ (Scenario σ) :=
  (fresh config).call world call

/-- Makes calls in order, up to the first that does not return. -/
def play (scenario : Scenario σ) (world : σ) : List (Call σ) → Report σ (Scenario σ)
  | [] => .done scenario world
  | call :: rest =>
    let report := scenario.call world call
    match report.result with
    | .ok next => (next.play report.world rest).after report.events
    | .error halt => ⟨.error halt, report.world, report.events⟩

end Scenario

end Storytest
