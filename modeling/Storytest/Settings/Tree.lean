import Storytest.Decimal.Shortest
import Storytest.Settings.Suite
import Storytest.Table.Assoc

/-!
# Settings as trees

What a source of settings holds before anything is known about the settings: scalars, lists and
tables. Reading a suite from a tree either succeeds or tells the first value of the wrong type, in
ascending order of the names of the settings.
-/

namespace Storytest

namespace Settings

/-- An uninterpreted setting. -/
inductive Tree where
  | null
  | flag (value : Bool)
  | signed (value : Int)
  | unsigned (value : Nat)
  | float (value : Decimal.Binary64)
  | text (value : String)
  | list (items : List Tree)
  | table (entries : List (String × Tree))
  deriving Inhabited

namespace Tree

/-- How a tree is described where another was expected. -/
def describe : Tree → String
  | .null => "unit"
  | .flag value => "bool " ++ toString value
  | .signed value => "signed int `" ++ toString value ++ "`"
  | .unsigned value => "unsigned int `" ++ toString value ++ "`"
  | .float value => "float `" ++ value.display ++ "`"
  | .text value => "string " ++ Text.quote value
  | .list _ => "sequence"
  | .table _ => "map"

end Tree

/-- A value of the wrong type: where it is, what it is, and what it should be. -/
structure Mismatch where
  path : List String
  found : String
  expected : String
  deriving DecidableEq, Repr

/-! ## Reading single settings -/

/-- Reads a text. -/
def readText (path : List String) : Tree → Except Mismatch String
  | .text value => .ok value
  | tree => .error ⟨path, tree.describe, "a string"⟩

/-- Reads a text that may be missing. -/
def readOptional (path : List String) : Tree → Except Mismatch (Option String)
  | .null => .ok none
  | tree => (readText path tree).map some

/-- Reads the texts of a list, the first of which is at the position. -/
def readItems (path : List String) (position : Nat) : List Tree → Except Mismatch (List String)
  | [] => .ok []
  | item :: rest => do
    let first ← readText (path ++ [toString position]) item
    return first :: (← readItems path (position + 1) rest)

/-- Reads a list of texts. -/
def readTexts (path : List String) : Tree → Except Mismatch (List String)
  | .list items => readItems path 0 items
  | tree => .error ⟨path, tree.describe, "a sequence"⟩

/-- Reads a setting by its name, or takes its default when it is not there. -/
def readField {α : Type} (get? : String → Option Tree)
    (read : List String → Tree → Except Mismatch α) (name : String) (default : α) :
    Except Mismatch α :=
  match get? name with
  | none => .ok default
  | some tree => read [name] tree

end Settings

namespace Suite

open Settings

/-! ## Reading a suite -/

/-- Reads a suite from its settings by name. Names that are no setting are not looked at. -/
def ofSettings (get? : String → Option Tree) : Except Mismatch Suite := do
  let authGuard ← readField get? readOptional "auth_guard" default.authGuard
  let authProvider ← readField get? readOptional "auth_provider" default.authProvider
  let guards ← readField get? readTexts "guards" default.guards
  let responseKey ← readField get? readText "response_key" default.responseKey
  let userKey ← readField get? readText "user_key" default.userKey
  return { authProvider, authGuard, guards, responseKey, userKey }

/-- The names of the settings, in the order in which a list gives them. -/
def fieldNames : List String :=
  ["auth_provider", "auth_guard", "guards", "response_key", "user_key"]

/-- Reads a suite from a table of settings, or from a list of them in order that may end early. -/
def ofTree? : Tree → Option Suite
  | .table entries => (ofSettings (Assoc.get? entries)).toOption
  | .list items =>
    if items.length ≤ fieldNames.length then
      (ofSettings (Assoc.get? (fieldNames.zip items))).toOption
    else none
  | _ => none

end Suite

end Storytest
