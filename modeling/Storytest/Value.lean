import Storytest.Table.Sorted
import Storytest.Text.Quoted
import Storytest.Text.ShortName
import Storytest.Ty.Reader

/-!
# Typed values

A `Value` is a datum together with its run-time type. The type decides what a parameter may take,
and its short name is the key under which a value without a key of its own is stored.
-/

namespace Storytest

namespace Ty

/-- The name of the type with every path in it cut down to its last segment. -/
def shortName (ty : Ty) : String :=
  Text.shortName ty.fullName

/-- How a type is shown: by its full name. -/
def display (ty : Ty) : String :=
  "ValueType(" ++ Text.quote ty.fullName ++ ")"

end Ty

/-- The content of a value, whatever its type. -/
inductive Datum where
  | unit
  | flag (value : Bool)
  | integer (value : Int)
  /-- A floating-point number, by its bits. -/
  | float (bits : Nat)
  | character (value : Char)
  | text (value : String)
  | sequence (items : List Datum)
  /-- A set, in ascending order and without repetitions. -/
  | collection (items : List Datum)
  /-- A map, in ascending order of its keys. -/
  | table (entries : List (String × Datum))
  | absent
  | present (content : Datum)
  | success (content : Datum)
  | failure (message : String)
  /-- A typed value stored inside another. -/
  | nested (ty : Ty) (content : Datum)
  /-- Code, of which nothing can be seen. -/
  | code
  deriving Inhabited

namespace Datum

/-- The order of the data that sets hold: integers by size, texts by their characters. -/
def precedes : Datum → Datum → Bool
  | .integer a, .integer b => a < b
  | .text a, .text b => a < b
  | _, _ => false

/-- Puts a datum at its place in an ascending list, unless it is there already. -/
def insert (item : Datum) : List Datum → List Datum
  | [] => [item]
  | first :: rest =>
    if item.precedes first then item :: first :: rest
    else if first.precedes item then first :: insert item rest
    else first :: rest

/-- The set of these items. -/
def setOf (items : List Datum) : Datum :=
  .collection (items.foldl (fun set item => insert item set) [])

/-- The map of these entries; the last one under a key counts. -/
def mapOf (entries : List (String × Datum)) : Datum :=
  .table (Sorted.ofList entries)

end Datum

/-- A datum with its run-time type. -/
structure Value where
  ty : Ty
  datum : Datum
  deriving Inhabited

namespace Value

/-- The type of typed values themselves. -/
def type : Ty := Ty.standard "Value" []

/-- The value stored inside a value. -/
def nest (value : Value) : Value :=
  ⟨type, .nested value.ty value.datum⟩

/-- The value is of the type. -/
def is (value : Value) (ty : Ty) : Bool :=
  value.ty = ty

/-- The content, when the value is of the type. -/
def content? (value : Value) (ty : Ty) : Option Datum :=
  if value.ty = ty then some value.datum else none

/-- The key under which a value without a key of its own is stored. -/
def inferredKey (value : Value) : String :=
  value.ty.shortName

/-- How a value is shown: by the short name of its type. -/
def display (value : Value) : String :=
  "Value<" ++ value.ty.shortName ++ ">"

end Value

end Storytest
