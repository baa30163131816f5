import Storytest.Source.Token
import Storytest.Text.Reader

/-!
# Readers of tokens

The small readers that a grammar is put together from. A reader gives back the tokens it took in
their normal form: the marks of one operator are joined, and an operator is not joined to what
follows it, however closely the two were written.
-/

namespace Storytest.Source

/-- Reads a value from the front of a list of tokens. -/
abbrev TokenReader (α : Type) := Reader Token α

/-! ## Looking at tokens -/

/-- The tokens start with these marks, each but the last joined to the next. -/
def startsMarks : List Char → List Token → Bool
  | [c], .mark d _ :: _ => c == d
  | c :: more, .mark d joint :: rest => c == d && joint && startsMarks more rest
  | _, _ => false

/-- The tokens start with this operator. Any operator that the marks go on to counts too. -/
def atOp (marks : String) (tokens : List Token) : Bool :=
  startsMarks marks.toList tokens

/-- The tokens start with this word. -/
def atWord (text : String) : List Token → Bool
  | .word found :: _ => found == text
  | _ => false

/-- The tokens start with one of these words. -/
def atAnyOf (texts : List String) : List Token → Bool
  | .word found :: _ => texts.contains found
  | _ => false

/-- The words that are no identifiers. -/
def reserved : List String :=
  ["_", "abstract", "as", "async", "await", "become", "box", "break", "const", "continue", "crate",
    "do", "dyn", "else", "enum", "extern", "false", "final", "fn", "for", "if", "impl", "in", "let",
    "loop", "macro", "match", "mod", "move", "mut", "override", "priv", "pub", "ref", "return",
    "Self", "self", "static", "struct", "super", "trait", "true", "try", "type", "typeof", "unsafe",
    "unsized", "use", "virtual", "where", "while", "yield"]

/-- The tokens start with an identifier. -/
def atIdent : List Token → Bool
  | .word found :: _ => !reserved.contains found
  | _ => false

/-- The tokens start with a word of any kind. -/
def atAnyWord : List Token → Bool
  | .word _ :: _ => true
  | _ => false

/-- The tokens start with a lifetime. -/
def atLifetime : List Token → Bool
  | .lifetime _ :: _ => true
  | _ => false

/-- The text of a literal is a number. -/
def isNumeral (text : String) : Bool :=
  (text.toList.head?.map Char.isDigit).getD false

/-- The tokens start with a literal; a truth value and a number with a sign are literals too. -/
def atLiteral : List Token → Bool
  | .literal _ :: _ => true
  | .word found :: _ => found == "true" || found == "false"
  | .mark '-' _ :: .literal text :: _ => isNumeral text
  | _ => false

/-- The tokens start with a group in this delimiter. -/
def atGroup (delimiter : Delimiter) : List Token → Bool
  | .group found _ :: _ => found == delimiter
  | _ => false

namespace TokenReader

variable {α : Type}

/-! ## Single tokens -/

/-- Takes an operator. -/
def op (marks : String) : TokenReader (List Token) := do
  if atOp marks (← get) then
    set ((← get).drop marks.length)
    return Token.op marks
  else failure

/-- Takes an operator if it comes next. -/
def op? (marks : String) : TokenReader (List Token) := do
  if atOp marks (← get) then op marks else return []

/-- Takes any word. -/
def word : TokenReader String := do
  match ← Reader.next with
  | .word text => return text
  | _ => failure

/-- Takes this word. -/
def keyword (text : String) : TokenReader (List Token) := do
  if (← word) = text then return Token.ident text else failure

/-- Takes this word if it comes next. -/
def keyword? (text : String) : TokenReader (List Token) := do
  if atWord text (← get) then keyword text else return []

/-- Takes an identifier. -/
def ident : TokenReader String := do
  if atIdent (← get) then word else failure

/-- Takes a lifetime. -/
def lifetime : TokenReader (List Token) := do
  match ← Reader.next with
  | .lifetime name => return [.lifetime name]
  | _ => failure

/-- Takes a lifetime if one comes next. -/
def lifetime? : TokenReader (List Token) := do
  if atLifetime (← get) then lifetime else return []

/-- Takes a literal with its sign. -/
def literal : TokenReader (List Token) := do
  if atLiteral (← get) then return (← op? "-") ++ [← Reader.next] else failure

/-- Takes a literal that is a text in double quotes, if one comes next. -/
def text? : TokenReader (List Token) := do
  match ← Reader.peek with
  | some (.literal text) =>
    if text.startsWith "\"" || text.startsWith "r" then literal else return []
  | _ => return []

/-! ## Groups -/

/-- Takes a group in this delimiter and gives its content. -/
def group (delimiter : Delimiter) : TokenReader (List Token) := do
  match ← Reader.next with
  | .group found content => if found = delimiter then return content else failure
  | _ => failure

/-- Takes a group of any delimiter. -/
def anyGroup : TokenReader (List Token) := do
  match ← Reader.next with
  | .group delimiter content => return [.group delimiter content]
  | _ => failure

/-- Reads the whole content of a group that was taken. -/
def within (content : List Token) (reader : TokenReader α) : TokenReader α := fun tokens =>
  (Reader.whole reader content).map fun value => (value, tokens)

/-- Takes a group in this delimiter and reads its whole content. -/
def inside (delimiter : Delimiter) (reader : TokenReader α) : TokenReader α := do
  within (← group delimiter) reader

/-- Takes a group in this delimiter whose whole content the reader normalizes. -/
def grouped (delimiter : Delimiter) (reader : TokenReader (List Token)) :
    TokenReader (List Token) := do
  return [.group delimiter (← inside delimiter reader)]

/-! ## Repetition -/

/-- Reads items while the predicate holds, at most so many. -/
def repeatUpTo (more : List Token → Bool) (item : TokenReader α) : Nat → TokenReader (List α)
  | 0 => return []
  | count + 1 => do
    if more (← get) then
      let first ← item
      return first :: (← repeatUpTo more item count)
    else return []

/-- Reads items while the predicate holds of the tokens that are left. -/
def repeatWhile (more : List Token → Bool) (item : TokenReader α) : TokenReader (List α) := do
  repeatUpTo more item (← get).length

end TokenReader

/-! ## Lists -/

/-- An item of a list, and whether a separator follows it. -/
structure Listed (α : Type) where
  value : α
  separated : Bool
  deriving DecidableEq, Repr

namespace Listed

variable {α : Type}

/-- The tokens of a list with its separators. -/
def tokens (separator : String) (item : α → List Token) : List (Listed α) → List Token
  | [] => []
  | first :: rest =>
    item first.value ++ (if first.separated then Token.op separator else []) ++
      tokens separator item rest

/-- The list ends in a separator or is empty, so that an item may follow. -/
def isOpen (items : List (Listed α)) : Bool :=
  match items.getLast? with
  | some last => last.separated
  | none => true

/-- What puts a comma between two parts of a list if the first part does not end in one. -/
def glue (first rest : List (Listed α)) : List Token :=
  if isOpen first || rest.isEmpty then [] else Token.op ","

/-- The tokens of a list with commas in which items of one kind go first. -/
def partitioned (isFirst : α → Bool) (item : α → List Token) (items : List (Listed α)) :
    List Token :=
  let first := items.filter fun entry => isFirst entry.value
  let rest := items.filter fun entry => !isFirst entry.value
  tokens "," item first ++ glue first rest ++ tokens "," item rest

end Listed

namespace TokenReader

variable {α : Type}

/-- Reads items with separators between them up to where the predicate holds, at most so many. -/
def listUpTo (separator : String) (ends : List Token → Bool) (item : TokenReader α) :
    Nat → TokenReader (List (Listed α))
  | 0 => return []
  | count + 1 => do
    if ends (← get) then return []
    let first ← item
    if ends (← get) then return [⟨first, false⟩]
    let _ ← op separator
    return ⟨first, true⟩ :: (← listUpTo separator ends item count)

/-- Reads items with separators between them up to where the predicate holds; a separator may come
last. -/
def listUntil (separator : String) (ends : List Token → Bool) (item : TokenReader α) :
    TokenReader (List (Listed α)) := do
  listUpTo separator ends item ((← get).length + 1)

/-- Reads all tokens as items with commas between them; a comma may come last. -/
def commaList (item : TokenReader α) : TokenReader (List (Listed α)) :=
  listUntil "," List.isEmpty item

/-- Reads all tokens as items with commas between them, as tokens. -/
def commaTokens (item : TokenReader (List Token)) : TokenReader (List Token) := do
  return Listed.tokens "," id (← commaList item)

/-- Reads items as long as a separator follows, or up to where the predicate holds, at most so
many. -/
def chainUpTo (separator : String) (ends : List Token → Bool) (item : TokenReader α) :
    Nat → TokenReader (List (Listed α))
  | 0 => return []
  | count + 1 => do
    if ends (← get) then return []
    let first ← item
    if atOp separator (← get) then
      let _ ← op separator
      return ⟨first, true⟩ :: (← chainUpTo separator ends item count)
    else return [⟨first, false⟩]

/-- Reads items as long as a separator follows, or up to where the predicate holds. -/
def chain (separator : String) (ends : List Token → Bool) (item : TokenReader α) :
    TokenReader (List (Listed α)) := do
  chainUpTo separator ends item ((← get).length + 1)

end TokenReader

end Storytest.Source
