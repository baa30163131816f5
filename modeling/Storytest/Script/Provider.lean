import Storytest.Script.Return

/-!
# Scripted providers

Providers that are told apart by what they do with a principal.
-/

namespace Storytest.Script

/-- What a provider does. -/
inductive Behaviour where
  /-- Gives the principal back. -/
  | pass
  /-- Refuses every principal. -/
  | deny
  /-- Gives a principal back that is a text and refuses all others. -/
  | textOnly
  /-- Gives a text that tells the abilities and the guard. -/
  | replace
  /-- Gives the principal back and leaves no record. -/
  | silent
  deriving DecidableEq, Repr

/-- What a provider answers. -/
def Behaviour.answer (behaviour : Behaviour) (principal : Value) (abilities : List String)
    (guard : Option String) : Except Storytest.Cause Value :=
  match behaviour with
  | .pass | .silent => .ok principal
  | .deny => .error Cause.gatewayTimeout
  | .textOnly =>
    if principal.ty = string then .ok principal
    else .error (Cause.text "principal must be a String")
  | .replace => .ok ⟨string, .text ("+".intercalate abilities ++ "@" ++ guard.getD "-")⟩

/-- The provider of a name that behaves this way. -/
def provider (name : String) (behaviour : Behaviour) : Provider World :=
  fun principal abilities guard world =>
    (behaviour.answer principal abilities guard,
      if behaviour = .silent then world
      else world.record (.provider name principal abilities guard))

/-- The providers registered one after the other. -/
def providers (registrations : List (String × Behaviour)) : Providers World :=
  .ofList (registrations.map fun entry => (entry.1, provider entry.1 entry.2))

end Storytest.Script
