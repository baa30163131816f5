import Storytest.Text.Reader
import Storytest.Text.Class
import Storytest.Ty.Basic

/-!
# Reading written types

A type is read from the form in which programmers write it: names are bare, or qualified where a
bare name would be ambiguous. `Ty.home` supplies the modules of the bare names of the standard
library; any other bare name belongs to the program under test.
-/

namespace Storytest.Ty

/-- The names that the language itself defines; they have no home. -/
def primitives : List String :=
  ["bool", "char", "str", "i8", "i16", "i32", "i64", "i128", "isize", "u8", "u16", "u32", "u64",
    "u128", "usize", "f32", "f64"]

/-- The homes of the names of the standard library and of this one. -/
def homes : List (String × List String) :=
  [("String", ["alloc", "string"]), ("Vec", ["alloc", "vec"]),
    ("VecDeque", ["alloc", "collections", "vec_deque"]),
    ("BTreeSet", ["alloc", "collections", "btree", "set"]),
    ("BTreeMap", ["alloc", "collections", "btree", "map"]),
    ("HashSet", ["std", "collections", "hash", "set"]),
    ("HashMap", ["std", "collections", "hash", "map"]), ("Option", ["core", "option"]),
    ("Result", ["core", "result"]), ("Box", ["alloc", "boxed"]), ("Rc", ["alloc", "rc"]),
    ("Arc", ["alloc", "sync"]), ("Fn", ["core", "ops", "function"]), ("Value", ["storytest"]),
    ("ScenarioError", ["storytest"])]

/-- The home of a bare name. -/
def home (name : String) : List String :=
  if name ∈ primitives then [] else (homes.lookup name).getD ["program"]

/-- A type found in the standard library under the name it is written with. -/
def standard (name : String) (arguments : List Ty) : Ty :=
  .named (home name) name arguments

/-- The modules belong to the standard library. -/
def standardHome : List String → Bool
  | [] => true
  | first :: _ => first == "core" || first == "alloc" || first == "std"

mutual

/-- Every name in the type is the language's own or the standard library's. -/
def isStandard : Ty → Bool
  | .named home _ arguments => standardHome home && areStandard arguments
  | .reference target | .exclusive target => isStandard target
  | .tuple items => areStandard items
  | .slice item | .array item _ => isStandard item
  | .function parameters result => areStandard parameters && isStandard result
  | .dyn interfaces => areStandard interfaces
  | .callable home _ parameters result =>
    standardHome home && areStandard parameters && isStandard result
  | .associated _ ty => isStandard ty

/-- Every name in the types is the language's own or the standard library's. -/
def areStandard : List Ty → Bool
  | [] => true
  | ty :: rest => isStandard ty && areStandard rest

end

/-! ## The reader -/

/-- Takes blank characters. -/
def blanks : Reader Char Unit := do
  let _ ← Reader.takeWhile Text.isBlank

/-- Takes a character with the blanks after it. -/
def mark (c : Char) : Reader Char Unit := do
  Reader.one c
  blanks

/-- Takes a name with the blanks after it. -/
def word : Reader Char String := do
  let name ← Reader.takeWhile1 fun c => Text.isIdentifierPart c
  blanks
  return String.ofList name

/-- Takes the names that follow, each after a double colon. -/
def pathTail : Nat → Reader Char (List String)
  | 0 => failure
  | fuel + 1 => do
    if (← get).take 2 = [':', ':'] then
      mark ':'
      mark ':'
      let name ← word
      return name :: (← pathTail fuel)
    else return []

/-- Takes a name and finds its home: the modules it is qualified by, or those of the bare name. -/
def path (fuel : Nat) : Reader Char (List String × String) := do
  let first ← word
  let rest ← pathTail fuel
  match (first :: rest).reverse with
  | [] => failure
  | [name] => return (home name, name)
  | name :: modules => return (modules.reverse, name)

mutual

/-- Takes a type, nested no deeper than the fuel. -/
def reader : Nat → Reader Char Ty
  | 0 => failure
  | fuel + 1 => do
    blanks
    match ← Reader.peek with
    | some '&' => do
      mark '&'
      if (← get).take 4 = ['m', 'u', 't', ' '] then
        let _ ← word
        return .exclusive (← reader fuel)
      else return .reference (← reader fuel)
    | some '(' => do
      mark '('
      return .tuple (← listReader ')' fuel)
    | some '[' => do
      mark '['
      let item ← reader fuel
      if ← Reader.optional ']' then
        blanks
        return .slice item
      else
        mark ';'
        let digits ← word
        mark ']'
        match digits.toNat? with
        | some length => return .array item length
        | none => failure
    | _ => do
      let (modules, name) ← path fuel
      if name = "fn" then
        mark '('
        let parameters ← listReader ')' fuel
        return .function parameters (← resultReader fuel)
      else if name = "dyn" then return .dyn (← interfacesReader fuel)
      else
        match ← Reader.peek with
        | some '<' => do
          mark '<'
          return .named modules name (← listReader '>' fuel)
        | some '(' => do
          mark '('
          let parameters ← listReader ')' fuel
          return .callable modules name parameters (← resultReader fuel)
        | some '=' => do
          mark '='
          return .associated name (← reader fuel)
        | _ => return .named modules name []

/-- Takes types separated by commas, up to the closing character and with it. -/
def listReader (close : Char) : Nat → Reader Char (List Ty)
  | 0 => failure
  | fuel + 1 => do
    if ← Reader.optional close then
      blanks
      return []
    else
      let first ← reader fuel
      if ← Reader.optional ',' then
        blanks
        return first :: (← listReader close fuel)
      else
        mark close
        return [first]

/-- Takes interfaces with plus signs between them. -/
def interfacesReader : Nat → Reader Char (List Ty)
  | 0 => failure
  | fuel + 1 => do
    let first ← reader fuel
    if ← Reader.optional '+' then
      blanks
      return first :: (← interfacesReader fuel)
    else return [first]

/-- Takes an arrow and a type; no arrow stands for the unit type. -/
def resultReader : Nat → Reader Char Ty
  | 0 => failure
  | fuel + 1 => do
    if ← Reader.optional '-' then
      mark '>'
      reader fuel
    else return .tuple []

end

/-- The type that a text writes. -/
def read? (text : String) : Option Ty :=
  Reader.whole (reader (2 * text.length + 1)) text.toList

end Storytest.Ty
