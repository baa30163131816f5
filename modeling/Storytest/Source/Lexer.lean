import Storytest.Source.Literal
import Storytest.Source.Token

/-!
# Reading tokens

Source text is cut into lexemes, which are then nested at their delimiters. Blanks and comments
separate lexemes and are dropped; a documentation comment stands for an attribute that holds its
text.
-/

namespace Storytest.Source

/-- What source text is cut into. -/
inductive Lexeme where
  | token (token : Token)
  | opening (delimiter : Delimiter)
  | closing (delimiter : Delimiter)

namespace Lexeme

/-! ## Blanks and comments -/

/-- A blank of source text; the marks of writing direction count as blanks. -/
def isBlank (c : Char) : Bool :=
  Text.isBlank c || c = '\u200e' || c = '\u200f'

/-- Splits a text behind the end of the block comment that is open `depth` times. -/
def splitComment (taken : List Char) (depth : Nat) : List Char → Option (List Char × List Char)
  | '/' :: '*' :: rest => splitComment ('*' :: '/' :: taken) (depth + 1) rest
  | '*' :: '/' :: rest =>
    match depth with
    | 0 | 1 => some (('/' :: '*' :: taken).reverse, rest)
    | deeper + 1 => splitComment ('/' :: '*' :: taken) deeper rest
  | c :: rest => splitComment (c :: taken) depth rest
  | [] => none

/-- The block comment that a text starts with, and what follows it. -/
def blockComment? : List Char → Option (List Char × List Char)
  | '/' :: '*' :: rest => splitComment ['*', '/'] 1 rest
  | _ => none

/-- The line that a text starts with, without its end, and what follows it. -/
def splitLine (text : List Char) : List Char × List Char :=
  let line := text.takeWhile (· ≠ '\n')
  let rest := text.dropWhile (· ≠ '\n')
  if line.getLast? = some '\r' && !rest.isEmpty then (line.dropLast, '\r' :: rest) else (line, rest)

/-- Drops blanks and comments from the front of a text. -/
def skip : Nat → List Char → List Char
  | 0, text => text
  | fuel + 1, text =>
    if startsWith text "//" && (!startsWith text "///" || startsWith text "////") &&
        !startsWith text "//!" then
      skip fuel (splitLine text).2
    else if startsWith text "/**/" then skip fuel (text.drop 4)
    else if startsWith text "/*" && (!startsWith text "/**" || startsWith text "/***") &&
        !startsWith text "/*!" then
      match blockComment? text with
      | some (_, rest) => skip fuel rest
      | none => text
    else
      match text with
      | c :: rest => if isBlank c then skip fuel rest else text
      | [] => []

/-- The attribute that a documentation comment stands for. -/
def documentation (inner : Bool) (text : List Char) : List Lexeme :=
  let content := Token.ident "doc" ++ Token.op "=" ++ Token.quoted (String.ofList text)
  (Token.op "#" ++ (if inner then Token.op "!" else []) ++ Token.brackets content).map .token

/-- The documentation comment that a text starts with. -/
def documentation? (text : List Char) : Option (List Lexeme × List Char) :=
  let inside := fun (taken : List Char) => (taken.drop 3).take (taken.length - 5)
  if startsWith text "//!" then
    let (line, rest) := splitLine (text.drop 3)
    some (documentation true line, rest)
  else if startsWith text "/*!" then
    (blockComment? text).map fun (taken, rest) => (documentation true (inside taken), rest)
  else if startsWith text "///" && !startsWith text "////" then
    let (line, rest) := splitLine (text.drop 3)
    some (documentation false line, rest)
  else if startsWith text "/**" && !startsWith text "/***" then
    (blockComment? text).map fun (taken, rest) => (documentation false (inside taken), rest)
  else none

/-! ## Words -/

/-- What a literal with a marked quote starts with; no identifier does. -/
def literalStarts : List String :=
  ["r\"", "r#\"", "r##", "b\"", "b'", "br\"", "br#", "c\"", "cr\"", "cr#"]

/-- Takes a word. -/
def word : Reader Char Token := do
  let text ← get
  if literalStarts.any (startsWith text) then failure
  else return .word (← anyIdent)

/-! ## Literals -/

/-- Takes a literal, as it is written. -/
def literalToken : Reader Char Token := fun input =>
  (literal input).map fun (_, rest) =>
    (.literal (String.ofList (input.take (input.length - rest.length))), rest)

/-! ## Marks -/

/-- The characters that are marks. -/
def marks : List Char :=
  "~!@#$%^&*-=+|;:,<.>/?'".toList

/-- A mark starts the text. -/
def startsMark (text : List Char) : Bool :=
  match text with
  | c :: _ => c ∈ marks && !startsWith text "//" && !startsWith text "/*"
  | [] => false

/-- Takes a lifetime. -/
def lifetime : Reader Char Token := do
  Reader.one '\''
  let raw := startsWith (← get) "r#"
  let name ← anyIdent
  match ← Reader.peek with
  | some '\'' => failure
  | some '#' => if raw then return .lifetime name else failure
  | _ => return .lifetime name

/-- Takes a mark. -/
def mark : Reader Char Token := do
  if startsMark (← get) then
    let c ← Reader.next
    return .mark c (startsMark (← get))
  else failure

/-! ## Lexemes -/

/-- Takes a delimiter. -/
def delimiter : Reader Char Lexeme := do
  match ← Reader.next with
  | '(' => return .opening .parenthesis
  | '[' => return .opening .bracket
  | '{' => return .opening .brace
  | ')' => return .closing .parenthesis
  | ']' => return .closing .bracket
  | '}' => return .closing .brace
  | _ => failure

/-- Takes a token that is no group. -/
def leaf : Reader Char Token := do
  literalToken <|> (if (← Reader.peek) = some '\'' then lifetime else mark) <|> word

/-- Cuts a text into lexemes. -/
def cut : Nat → List Char → Option (List Lexeme)
  | 0, _ => none
  | fuel + 1, input =>
    let input := skip (input.length + 1) input
    if input.isEmpty then some []
    else
      match documentation? input with
      | some (lexemes, rest) => (cut fuel rest).map (lexemes ++ ·)
      | none =>
        match delimiter input with
        | some (lexeme, rest) => (cut fuel rest).map (lexeme :: ·)
        | none =>
          match leaf input with
          | some (found, rest) => (cut fuel rest).map (Lexeme.token found :: ·)
          | none => none

/-- Nests lexemes, where `outer` holds the groups that are open, innermost first: for each its
delimiter and the tokens before it, latest first. -/
def nest (outer : List (Delimiter × List Token)) (taken : List Token) :
    List Lexeme → Option (List Token)
  | [] => if outer.isEmpty then some taken.reverse else none
  | .token found :: rest => nest outer (found :: taken) rest
  | .opening delimiter :: rest => nest ((delimiter, taken) :: outer) [] rest
  | .closing delimiter :: rest =>
    match outer with
    | [] => none
    | (opened, before) :: outer =>
      if opened = delimiter then nest outer (.group delimiter taken.reverse :: before) rest
      else none

end Lexeme

/-- The tokens of a source text. -/
def tokens? (text : String) : Option (List Token) := do
  let input := match text.toList with
    | '\ufeff' :: rest => rest
    | input => input
  let lexemes ← Lexeme.cut (input.length + 1) input
  Lexeme.nest [] [] lexemes

end Storytest.Source
