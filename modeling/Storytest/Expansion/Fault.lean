/-!
# Faults of expansion

Why source text cannot be expanded. A text that does not follow the grammar has no message here; its
wording is left to whoever knows where in the text the reader stopped.
-/

namespace Storytest.Expansion

/-- Why source text cannot be expanded. -/
inductive Fault where
  /-- The text, or what is given with an attribute, does not follow the grammar. -/
  | malformed
  /-- A parameter has no type. -/
  | untyped
  /-- A union lists no type. -/
  | emptyUnion
  /-- An attribute sets something that cannot be set. -/
  | unknownKey
  deriving DecidableEq, Repr

namespace Fault

/-- How a fault is worded. -/
def message? : Fault → Option String
  | malformed => none
  | untyped => some "step! parameters need a type annotation"
  | emptyUnion => some "#[one_of] needs at least one type"
  | unknownKey => some "unsupported step_output attribute"

/-- A value, or the fault that stands for its absence. -/
def orElse {α : Type} (fault : Fault) : Option α → Except Fault α
  | some value => .ok value
  | none => .error fault

end Fault

end Storytest.Expansion
