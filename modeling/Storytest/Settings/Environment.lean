import Storytest.Decimal.Reader
import Storytest.Settings.Scalar
import Storytest.Settings.Tree
import Storytest.Text.Class
import Storytest.Text.Numeral

/-!
# Settings in environment variables

A variable whose name opens with `GWT_`, in any case, holds the setting named by the rest in lower
case. Its text is read as a value where it is one as a whole: a truth value, a quoted text, a
character, a list in brackets, a table in braces, or a number. Any other text stands for itself.
-/

namespace Storytest.Settings.Environment

/-! ## Values -/

/-- A blank between the parts of a value. -/
def isSpace (c : Char) : Bool :=
  c = ' ' || c = '\t' || c = '\n' || c = '\x0c' || c = '\r'

/-- Takes blanks. -/
def spaces : Reader Char Unit := do
  let _ ← Reader.takeWhile isSpace

/-- A character that ends a bare word. -/
def isSeparator (c : Char) : Bool :=
  c = ',' || c = '{' || c = '}' || c = '[' || c = ']'

/-- The value of a numeral without a minus that fits 64 bits. -/
def unsigned? (text : List Char) : Option Nat :=
  if text.head? = some '-' then none
  else (Text.Numeral.read? 0 0xffffffffffffffff text).map Int.toNat

/-- What a bare word stands for: a number if it can be read as one, and else itself. -/
def bare (word : List Char) : Tree :=
  match if '.' ∈ word then Decimal.read? word else none with
  | some value => .float value
  | none =>
    match unsigned? word with
    | some value => .unsigned value
    | none =>
      match Text.Numeral.read? (-0x8000000000000000) 0x7fffffffffffffff word with
      | some value => .signed value
      | none => .text (String.ofList word)

/-- A character of a key that is not quoted. -/
def isKeyChar (c : Char) : Bool :=
  c.isAlphanum || c = '_' || c = '-'

/-- Takes a key with the blanks around it. -/
def key : Reader Char String := do
  spaces
  let name ← if (← Reader.peek) = some '"' then quoted
    else return String.ofList (← Reader.takeWhile1 isKeyChar)
  spaces
  return name

mutual

/-- Takes a value with the blanks around it, nested no deeper than the fuel. -/
def value : Nat → Reader Char Tree
  | 0 => failure
  | fuel + 1 => do
    spaces
    let tree ←
      (do Reader.all "true".toList; return .flag true) <|>
      (do Reader.all "false".toList; return .flag false) <|>
      compound fuel
    spaces
    return tree

/-- Takes a value that is neither true nor false. -/
def compound : Nat → Reader Char Tree
  | 0 => failure
  | fuel + 1 => do
    match ← Reader.peek with
    | some '[' => do
      Reader.one '['
      return .list (← items fuel)
    | some '{' => do
      Reader.one '{'
      return .table (← entries fuel)
    | some '"' => return .text (← quoted)
    | some '\'' => do
      Reader.one '\''
      let c ← Reader.next
      Reader.one '\''
      return .text c.toString
    | _ => do
      let word ← Reader.takeWhile fun c => !isSeparator c
      return bare (Text.trimBlank word)

/-- Takes the items of a list and the closing bracket; a comma may come before it. -/
def items : Nat → Reader Char (List Tree)
  | 0 => failure
  | fuel + 1 => do
    if ← Reader.optional ']' then return []
    else
      let first ← value fuel
      if ← Reader.optional ',' then return first :: (← items fuel)
      else
        Reader.one ']'
        return [first]

/-- Takes the entries of a table and the closing brace; a comma may come before it. -/
def entries : Nat → Reader Char (List (String × Tree))
  | 0 => failure
  | fuel + 1 => do
    if ← Reader.optional '}' then return []
    else
      let name ← key
      Reader.one '='
      let first ← value fuel
      if ← Reader.optional ',' then return (name, first) :: (← entries fuel)
      else
        Reader.one '}'
        return [(name, first)]

end

/-- What the text of a variable stands for. -/
def read (text : String) : Tree :=
  let trimmed := Text.trimBlank text.toList
  match Reader.whole (value (3 * trimmed.length + 3)) trimmed with
  | some tree => tree
  | none => .text (String.ofList trimmed)

/-! ## Variables -/

/-- What the names of the variables open with, in lower case. -/
def opening : List Char := "gwt_".toList

/-- The dotted name of the setting that a variable holds. -/
def settingName? (name : String) : Option (List String) :=
  let name := (Text.trimBlank name.toList).map Char.toLower
  if opening.isPrefixOf name then
    let segments := (String.ofList (Text.trimBlank (name.drop opening.length))).splitOn "."
    if "" ∈ segments then none else some segments
  else none

/-- A value inside the tables that a dotted name asks for. -/
def nest : List String → Tree → Tree
  | [], tree => tree
  | name :: rest, tree => .table [(name, nest rest tree)]

/-- The settings in the variables, by name; the last variable of a setting counts. -/
def settings (assignments : List (String × String)) : List (String × Tree) :=
  assignments.foldl (fun settings entry =>
    match settingName? entry.1 with
    | some (name :: rest) => Assoc.put settings name (nest rest (read entry.2))
    | _ => settings) []

/-- The environment after variables are set one after the other. -/
def ofList (assignments : List (String × String)) : List (String × String) :=
  assignments.foldl (fun environment entry => Assoc.put environment entry.1 entry.2) []

end Storytest.Settings.Environment
