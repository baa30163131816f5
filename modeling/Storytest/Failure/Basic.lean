import Storytest.Value

/-!
# Failures

`Failure` lists the ways in which a call on a scenario fails; `Cause` is any error that a step or
a provider may give, which may have been caused by another. An error is looked at from outside as
the chain of its links, itself first, each with a type and a text.
-/

namespace Storytest

/-- Why suite settings could not be loaded. -/
inductive SettingsFault where
  /-- A settings file that does not parse. -/
  | malformed
  /-- A fault that is only a text. -/
  | described (text : String)
  /-- A value of the wrong type: where it is, what it is, what it should be, and the layer and the
  key it was found under. -/
  | wrongType (path : List String) (found expected : String) (key layer : String)
  deriving DecidableEq, Repr

mutual

/-- Why a call on a scenario failed. -/
inductive Failure where
  /-- The settings name a provider that is not registered. -/
  | unsupportedProvider (name : String)
  /-- A guard that is not among the known ones. -/
  | unknownGuard (guard : String) (known : List String)
  /-- A principal without a provider in the configuration. -/
  | providerMissing
  /-- The suite settings could not be loaded. -/
  | settings (fault : SettingsFault)
  /-- A read beyond the resolved arguments. -/
  | missingArgument (position : Nat) (parameter expected : String)
  /-- A read of an argument of another type. -/
  | argumentType (position : Nat) (parameter expected found : String)
  /-- A step or a provider failed. -/
  | step (cause : Cause)
  /-- The scenario completed although a failure was expected. -/
  | unmet (expected : String)

/-- Any error that a step or a provider gives. -/
inductive Cause where
  /-- An error of some type that nothing else caused. -/
  | plain (type : Ty) (message : String)
  /-- An error of some type that another caused. -/
  | chained (type : Ty) (message : String) (source : Cause)
  /-- A failure of a scenario call, given as an error. -/
  | failure (failure : Failure)

end

/-- One error of a chain. -/
structure Link where
  type : Ty
  message : String

namespace SettingsFault

/-- The type of settings faults. -/
def type : Ty := .named ["settings"] "Error" []

/-- How a settings fault is worded. -/
def message : SettingsFault → String
  | .malformed => "the settings file is malformed"
  | .described text => text
  | .wrongType _ found expected key layer =>
    "invalid type: found " ++ found ++ ", expected " ++ expected ++ " for key \"" ++ key ++
      "\" in " ++ layer

/-- The segments of the key at fault. -/
def path : SettingsFault → List String
  | .wrongType path .. => path
  | _ => []

end SettingsFault

namespace Failure

/-- The type of failures. -/
def type : Ty := Ty.standard "ScenarioError" []

end Failure

mutual

/-- How a failure is worded; a failed step says what its cause says. -/
def Failure.message : Failure → String
  | .unsupportedProvider name => "auth provider '" ++ name ++ "' is not registered"
  | .unknownGuard guard known =>
    "auth guard '" ++ guard ++ "' is not defined (known guards: " ++ ", ".intercalate known ++ ")"
  | .providerMissing => "acting_as requires an auth provider in the scenario configuration"
  | .settings fault => "failed to load scenario configuration: " ++ fault.message
  | .missingArgument position parameter expected =>
    "missing argument #" ++ toString position ++ " ('" ++ parameter ++ "') of type " ++ expected
  | .argumentType position parameter expected found =>
    "argument #" ++ toString position ++ " ('" ++ parameter ++ "') expected " ++ expected ++
      ", found " ++ found
  | .step cause => cause.message
  | .unmet expected => "expected the scenario to fail with " ++ expected ++ ", but it completed"

/-- How an error is worded. -/
def Cause.message : Cause → String
  | .plain _ message => message
  | .chained _ message _ => message
  | .failure failure => failure.message

end

mutual

/-- The chain of a failure: itself, then what caused it. -/
def Failure.links : Failure → List Link
  | .step cause => ⟨Failure.type, cause.message⟩ :: cause.links
  | .settings fault =>
    [⟨Failure.type, (Failure.settings fault).message⟩,
      ⟨Ty.standard "Box" [SettingsFault.type], fault.message⟩]
  | failure => [⟨Failure.type, failure.message⟩]

/-- The chain of an error: itself, then what caused it. -/
def Cause.links : Cause → List Link
  | .plain type message => [⟨type, message⟩]
  | .chained type message source => ⟨type, message⟩ :: source.links
  | .failure failure => failure.links

end

/-- The type of an error. -/
def Cause.type : Cause → Ty
  | .plain type _ => type
  | .chained type _ _ => type
  | .failure _ => Failure.type

namespace Failure

/-- The texts of what caused a failure, nearest first. -/
def sources (failure : Failure) : List String :=
  (failure.links.drop 1).map Link.message

/-- The failure lies in the settings, and not in what a step did. -/
def isConfiguration : Failure → Bool
  | .unsupportedProvider _ | .unknownGuard .. | .providerMissing | .settings _ => true
  | _ => false

/-- The type of the error that a failed step gave. -/
def causeType? : Failure → Option Ty
  | .step cause => some cause.type
  | _ => none

end Failure

end Storytest
