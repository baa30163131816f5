import Storytest.Auth
import Storytest.Event

/-!
# Suite settings

`Suite` is what a suite of scenarios is configured with, `Config` what a scenario carries once the
settings have been checked against the registered providers. The check looks at the provider
before the guard.
-/

namespace Storytest

/-- The settings of a suite of scenarios. -/
structure Suite where
  authProvider : Option String
  authGuard : Option String
  guards : List String
  responseKey : String
  userKey : String
  deriving DecidableEq, Repr

/-- The settings that hold where nothing else is said. -/
def Suite.default : Suite :=
  ⟨none, none, ["web"], "response", "user"⟩

/-- Checked settings, with the provider they name. -/
structure Config (σ : Type) where
  auth : Option (String × Provider σ)
  guard : Option String
  guards : List String
  responseKey : String
  userKey : String

namespace Config

variable {σ : Type}

/-- The configuration of scenarios without a suite. -/
def default : Config σ :=
  ⟨none, none, Suite.default.guards, Suite.default.responseKey, Suite.default.userKey⟩

instance : Inhabited (Config σ) := ⟨default⟩

/-- The name of the provider. -/
def providerName? (config : Config σ) : Option String :=
  config.auth.map Prod.fst

/-- How a configuration is shown. -/
def display (config : Config σ) : String :=
  "ScenarioConfig \x7b auth_provider: " ++ Text.quoteOption config.providerName? ++ ", guard: " ++
    Text.quoteOption config.guard ++ ", guards: " ++ Text.quoteList config.guards ++
    ", response_key: " ++ Text.quote config.responseKey ++ ", user_key: " ++
    Text.quote config.userKey ++ " \x7d"

end Config

/-- Refuses a guard that is not among the known ones. -/
def ensureGuard (guard : String) (known : List String) : Except Failure Unit :=
  if guard ∈ known then .ok () else .error (.unknownGuard guard known)

namespace Suite

variable {σ : Type}

/-- The provider that the settings name. -/
def provider? (suite : Suite) (providers : Providers σ) :
    Except Failure (Option (String × Provider σ)) :=
  match suite.authProvider with
  | none => .ok none
  | some name =>
    match providers.get? name with
    | some provider => .ok (some (name, provider))
    | none => .error (.unsupportedProvider name)

/-- Checks the settings against the providers. -/
def toConfig (suite : Suite) (providers : Providers σ) : Except Failure (Config σ) := do
  let auth ← suite.provider? providers
  if let some guard := suite.authGuard then ensureGuard guard suite.guards
  return ⟨auth, suite.authGuard, suite.guards, suite.responseKey, suite.userKey⟩

/-- What is reported once a configuration has been checked. -/
def checked (config : Config σ) : Event :=
  .validated config.providerName? config.guard

end Suite

end Storytest
