import Storytest.Source.Attribute
import Storytest.Source.Reader

/-!
# Items with generic parameters

A structure, enumeration or union in source text, as far as an instance for it needs to know it: its
attributes, its name, its generic parameters and its conditions. Both lists of generic parameters
that an instance writes, with bounds and without, have the lifetimes first.
-/

namespace Storytest.Source

/-- A generic parameter. -/
inductive GenericParam where
  | lifetime (attributes : List Attribute) (name : List Token) (bounds : List Token)
  | type (attributes : List Attribute) (name : String) (bounds : List Token)
  | const (attributes : List Attribute) (name : String) (type : List Token)
  deriving Inhabited

namespace GenericParam

/-- The parameter is a lifetime. -/
def isLifetime : GenericParam → Bool
  | lifetime .. => true
  | type .. | const .. => false

/-- Tokens after a colon, if there are any. -/
def constrained : List Token → List Token
  | [] => []
  | bounds => Token.op ":" ++ bounds

/-- The parameter as an instance declares it: with its bounds and without its default. -/
def declaration : GenericParam → List Token
  | lifetime attributes name bounds =>
    attributes.flatMap Attribute.tokens ++ name ++ constrained bounds
  | type attributes name bounds =>
    attributes.flatMap Attribute.tokens ++ Token.ident name ++ constrained bounds
  | const attributes name kind =>
    attributes.flatMap Attribute.tokens ++ Token.ident "const" ++ Token.ident name ++
      Token.op ":" ++ kind

/-- The parameter as an argument of the type that it parametrizes. -/
def argument : GenericParam → List Token
  | lifetime _ name _ => name
  | type _ name _ | const _ name _ => Token.ident name

end GenericParam

/-- The generic parameters and the conditions of an item. -/
structure Generics where
  params : List (Listed GenericParam)
  /-- The conditions after `where`. -/
  predicates : List (List Token)
  deriving Inhabited

namespace Generics

/-- Tokens in angle brackets, or none for an empty list of parameters. -/
def angled (generics : Generics) (item : GenericParam → List Token) : List Token :=
  if generics.params.isEmpty then []
  else
    Token.op "<" ++ Listed.partitioned GenericParam.isLifetime item generics.params ++ Token.op ">"

/-- The parameters as an instance declares them. -/
def declarations (generics : Generics) : List Token :=
  generics.angled GenericParam.declaration

/-- The parameters as arguments of the item's type. -/
def arguments (generics : Generics) : List Token :=
  generics.angled GenericParam.argument

/-- The conditions, after `where`. -/
def conditions (generics : Generics) : List Token :=
  if generics.predicates.isEmpty then []
  else Token.ident "where" ++ Token.separated (Token.op ",") generics.predicates

/-- The generics with one more condition. -/
def require (generics : Generics) (predicate : List Token) : Generics :=
  { generics with predicates := generics.predicates ++ [predicate] }

end Generics

/-- A structure, enumeration or union. -/
structure Item where
  attributes : List Attribute
  name : String
  generics : Generics
  deriving Inhabited

end Storytest.Source
