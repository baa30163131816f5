import Storytest.Source.Token

/-!
# Patterns

Of a pattern in source text only two things are looked at: the name that it binds as a whole, and
whether it is a range with one end.
-/

namespace Storytest.Source

/-- A pattern in source text. -/
inductive Pattern where
  /-- A name, after `ref` and `mut` if they are written, and with a pattern for its inside. -/
  | binding (modifiers : List Token) (name : String) (inside : List Token)
  /-- A range that lacks an end. -/
  | halfRange (tokens : List Token)
  | other (tokens : List Token)
  deriving Inhabited

namespace Pattern

/-- The name that the whole value is bound to. -/
def name? : Pattern → Option String
  | binding _ name _ => some name
  | halfRange _ | other _ => none

/-- The tokens of a pattern. -/
def tokens : Pattern → List Token
  | binding modifiers name inside => modifiers ++ Token.ident name ++ inside
  | halfRange tokens | other tokens => tokens

end Pattern

end Storytest.Source
