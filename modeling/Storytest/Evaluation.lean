import Storytest.Registry
import Storytest.Resolution
import Storytest.Store.Keep

/-!
# Running steps

The steps of a phase run one after the other against a growing store: a value that a step gives is
there for the next one. The first step that halts ends the phase. A `Report` tells what a call gave,
the shared state after it and the events it emitted.
-/

namespace Storytest

/-- What a call leaves behind: its result, the shared state after it, and its events in order. -/
structure Report (σ α : Type) where
  result : Except Halt α
  world : σ
  events : List Event

namespace Report

variable {σ α β : Type}

/-- A call that gives a value and does nothing else. -/
def done (value : α) (world : σ) : Report σ α :=
  ⟨.ok value, world, []⟩

/-- The report of a call that comes after these events. -/
def after (report : Report σ α) (events : List Event) : Report σ α :=
  { report with events := events ++ report.events }

/-- The report with its value replaced. -/
def map (f : α → β) (report : Report σ α) : Report σ β :=
  ⟨report.result.map f, report.world, report.events⟩

end Report

variable {σ : Type}

/-- Runs the steps in order against the growing store. -/
def evaluate (phase : Phase) : List (Entry σ) → Store → σ → Report σ Store
  | [], store, world => .done store world
  | entry :: rest, store, world =>
    let arguments := entry.step.signature.arguments store
    let announced :=
      entry.step.signature.events store ++ [.evaluating phase entry.key arguments.length]
    match entry.step.invoke arguments world with
    | (.error halt, after) => ⟨.error halt, after, announced⟩
    | (.ok none, after) => (evaluate phase rest store after).after announced
    | (.ok (some value), after) =>
      (evaluate phase rest (store.keep entry.key value) after).after
        (announced ++ store.keepEvents entry.key value)

/-- Takes all steps out of a registry and runs them; the registry is left empty however that
ends. -/
def Registry.evaluate (registry : Registry σ) (phase : Phase) (store : Store) (world : σ) :
    Report σ Store × Registry σ :=
  let (entries, rest) := registry.drain
  (Storytest.evaluate phase entries store world, rest)

/-- Runs an assertion against the store; what it gives is not kept. -/
def Step.assertOn (assertion : Step σ) (store : Store) (world : σ) : Report σ Unit :=
  let arguments := assertion.signature.arguments store
  let (result, after) := assertion.invoke arguments world
  ⟨result.map fun _ => (), after,
    assertion.signature.events store ++ [.asserting arguments.length]⟩

end Storytest
