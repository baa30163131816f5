import Storytest.Source.Token

/-!
# Types in source text

A type that is written in source text is mostly a list of tokens. The one form that is looked into
is a path whose last word is applied to a type, because an optional parameter is declared that way.
-/

namespace Storytest.Source

/-- A type in source text. -/
inductive TypeText where
  /-- A path whose last word, `name`, is applied to arguments of which the first is a type. The
  tokens before the word are `head`; those around the first argument are `opening` and `closing`. -/
  | applied (head : List Token) (name : String) (opening : List Token) (argument : TypeText)
    (closing : List Token)
  | other (tokens : List Token)
  deriving Inhabited

namespace TypeText

/-- The tokens of a type. -/
def tokens : TypeText → List Token
  | applied head name opening argument closing =>
    head ++ Token.ident name ++ opening ++ argument.tokens ++ closing
  | other tokens => tokens

/-- The type `T` of an `Option<T>`, however `Option` is qualified. Only the outermost `Option` is
taken away. -/
def optionInner? : TypeText → Option TypeText
  | applied _ name _ argument _ => if name = "Option" then some argument else none
  | other _ => none

end TypeText

end Storytest.Source
