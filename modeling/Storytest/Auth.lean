import Storytest.Failure.Basic
import Storytest.Table.Sorted
import Storytest.Text.Quoted

/-!
# Authentication providers

A provider turns a principal into the value that stands for it in a scenario. Providers are
registered by name, the last one under a name counts, and names are listed in ascending order.
-/

namespace Storytest

/-- Authenticates a principal, with its abilities and a guard, on the shared state. -/
abbrev Provider (σ : Type) :=
  Value → List String → Option String → σ → Except Cause Value × σ

/-- Providers by name. -/
structure Providers (σ : Type) where
  entries : List (String × Provider σ)
  sorted : Sorted.IsSorted entries

namespace Providers

variable {σ : Type}

/-- No providers. -/
def empty : Providers σ :=
  ⟨[], by simp [Sorted.IsSorted, Assoc.keys]⟩

/-- Registers a provider in place of any other of the name. -/
def register (providers : Providers σ) (name : String) (provider : Provider σ) : Providers σ :=
  ⟨Sorted.insert providers.entries name provider,
    Sorted.sorted_insert providers.sorted name provider⟩

/-- The provider of a name. -/
def get? (providers : Providers σ) (name : String) : Option (Provider σ) :=
  Assoc.get? providers.entries name

/-- The names, in ascending order. -/
def names (providers : Providers σ) : List String :=
  Assoc.keys providers.entries

/-- How providers are shown: by their names. -/
def display (providers : Providers σ) : String :=
  Text.quoteSet providers.names

/-- The providers registered one after the other. -/
def ofList (registrations : List (String × Provider σ)) : Providers σ :=
  registrations.foldl (fun providers entry => providers.register entry.1 entry.2) empty

theorem get?_register (providers : Providers σ) (name other : String) (provider : Provider σ) :
    (providers.register name provider).get? other =
      if name = other then some provider else providers.get? other :=
  Sorted.get?_insert providers.entries name other provider

end Providers

/-- How a principal is to be authenticated: under which key, with which abilities, by which
guard. -/
structure ActingAs where
  key : Option String
  abilities : List String
  guard : Option String
  deriving Inhabited

namespace ActingAs

/-- Nothing asked for. -/
def plain : ActingAs := ⟨none, [], none⟩

/-- Something to ask for. -/
inductive Demand where
  | key (name : String)
  | ability (name : String)
  | guard (name : String)

/-- Asks for one more thing. Abilities add up; another key or guard takes the place of the one
before. -/
def demand (options : ActingAs) : Demand → ActingAs
  | .key name => { options with key := some name }
  | .ability name => { options with abilities := options.abilities ++ [name] }
  | .guard name => { options with guard := some name }

/-- Asks for things one after the other. -/
def ofDemands (demands : List Demand) : ActingAs :=
  demands.foldl demand plain

/-- The ability that is asked for. -/
def Demand.ability? : Demand → Option String
  | .ability name => some name
  | _ => none

/-- The guard that is asked for. -/
def Demand.guard? : Demand → Option String
  | .guard name => some name
  | _ => none

end ActingAs

end Storytest
