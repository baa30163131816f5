import Storytest.Text.Class
import Storytest.Text.Digits
import Storytest.Text.Reader

/-!
# Words and literals

Readers for the words and the literals of source text. The reader of a text in quotes gives the
value that the text has.
-/

namespace Storytest.Source.Lexeme

/-- The text starts with these characters. -/
def startsWith (text : List Char) (start : String) : Bool :=
  start.toList.isPrefixOf text

/-! ## Identifiers -/

/-- Takes an identifier without a raw mark. -/
def plainIdent : Reader Char (List Char) := do
  let first ← Reader.satisfy Text.isIdentifierStart
  return first :: (← Reader.takeWhile Text.isIdentifierPart)

/-- Takes an identifier, raw or not. -/
def anyIdent : Reader Char String := do
  if startsWith (← get) "r#" then
    Reader.all ['r', '#']
    let name := String.ofList (← plainIdent)
    if name ∈ ["_", "super", "self", "Self", "crate"] then failure
    else return "r#" ++ name
  else return String.ofList (← plainIdent)

/-- Takes the name of a type right behind a literal, if there is one. -/
def typeSuffix : Reader Char (List Char) :=
  plainIdent <|> pure []

/-! ## Texts -/

/-- What a text in quotes is for: this decides what it may hold. -/
inductive Quotes where
  | text
  /-- Bytes, written in ASCII. -/
  | bytes
  /-- A text for a foreign language, without NUL. -/
  | foreign
  deriving DecidableEq

namespace Quotes

/-- The character may stand in such a text. -/
def allows : Quotes → Char → Bool
  | text, _ => true
  | bytes, c => c.toNat < 128
  | foreign, c => c ≠ '\x00'

end Quotes

/-- Takes a character by its number in hexadecimal, in braces. -/
def numberedChar : Reader Char Char := do
  Reader.one '{'
  let digits ← Reader.takeWhile fun c => Text.Digits.isHex c || c = '_'
  Reader.one '}'
  let shown := digits.filter (· ≠ '_')
  if digits.head? = some '_' || shown.isEmpty || 6 < shown.length then failure
  match (Text.Digits.valueIn? 16 shown).bind Text.Digits.scalar? with
  | some c => return c
  | none => failure

/-- Takes what may follow a backslash, and gives the character that it stands for. -/
def escape (quotes : Quotes) : Reader Char Char := do
  let c ← match ← Reader.next with
    | 'n' => pure '\n'
    | 'r' => pure '\r'
    | 't' => pure '\t'
    | '0' => pure '\x00'
    | '\\' => pure '\\'
    | '\'' => pure '\''
    | '"' => pure '"'
    | 'x' => do
      let high ← Reader.satisfy Text.Digits.isHex
      let low ← Reader.satisfy Text.Digits.isHex
      let value := (Text.Digits.valueIn? 16 [high, low]).getD 0
      if quotes = .text && 128 ≤ value then failure else pure (Char.ofNat value)
    | 'u' => if quotes = .bytes then failure else numberedChar
    | _ => failure
  if quotes = .foreign && c = '\x00' then failure else return c

/-- Takes the end of a line; a carriage return alone is none. -/
def lineEnd : Reader Char Unit := do
  let _ ← Reader.optional '\r'
  Reader.one '\n'

/-- Takes blanks behind a backslash at the end of a line. -/
def continuation : Nat → Reader Char Unit
  | 0 => failure
  | fuel + 1 => do
    match ← Reader.peek with
    | some '\r' | some '\n' => do lineEnd; continuation fuel
    | some ' ' | some '\t' => do let _ ← Reader.next; continuation fuel
    | some _ => pure ()
    | none => failure

/-- Takes the rest of a text in double quotes, and gives its value. -/
def textTail (quotes : Quotes) : Nat → Reader Char (List Char)
  | 0 => failure
  | fuel + 1 => do
    match ← Reader.next with
    | '"' => return []
    | '\r' => do
      Reader.one '\n'
      return '\n' :: (← textTail quotes fuel)
    | '\\' => do
      match ← Reader.peek with
      | some '\n' | some '\r' => do
        continuation fuel
        textTail quotes fuel
      | _ => do
        let c ← escape quotes
        return c :: (← textTail quotes fuel)
    | c => if quotes.allows c then return c :: (← textTail quotes fuel) else failure

/-- Takes a text in double quotes, and gives its value. -/
def text (quotes : Quotes) : Reader Char (List Char) := do
  Reader.one '"'
  textTail quotes ((← get).length + 1)

/-- Takes the rest of a raw text, up to a quote with as many hashes as it opened with. -/
def rawTail (quotes : Quotes) (hashes : Nat) : Nat → Reader Char (List Char)
  | 0 => failure
  | fuel + 1 => do
    match ← Reader.next with
    | '"' => do
      let rest ← get
      let closing := rest.take hashes
      if closing.length = hashes && closing.all (· == '#') then do
        set (rest.drop hashes)
        return []
      else return '"' :: (← rawTail quotes hashes fuel)
    | '\r' => do
      Reader.one '\n'
      return '\r' :: '\n' :: (← rawTail quotes hashes fuel)
    | c => if quotes.allows c then return c :: (← rawTail quotes hashes fuel) else failure

/-- Takes a raw text, and gives its value. -/
def rawText (quotes : Quotes) : Reader Char (List Char) := do
  Reader.one 'r'
  let hashes ← Reader.takeWhile (· == '#')
  if 255 < hashes.length then failure
  Reader.one '"'
  rawTail quotes hashes.length ((← get).length + 1)

/-- Takes a text, raw or not, with the letter that marks its kind. -/
def anyText : Reader Char (List Char) :=
  text .text <|> rawText .text <|>
    (do Reader.one 'b'; text .bytes <|> rawText .bytes) <|>
    (do Reader.one 'c'; text .foreign <|> rawText .foreign)

/-- Takes a character in single quotes, or a byte. -/
def character : Reader Char Unit := do
  let isByte ← Reader.optional 'b'
  Reader.one '\''
  let c ← Reader.next
  if c = '\\' then
    let _ ← escape (if isByte then .bytes else .text)
  else if isByte && 128 ≤ c.toNat then failure
  Reader.one '\''

/-- The value of a literal that is a text, without a type behind it. -/
def textValue? (literal : String) : Option String :=
  (Reader.whole (text .text <|> rawText .text) literal.toList).map String.ofList

/-! ## Numbers -/

/-- Succeeds where no identifier goes on. -/
def wordBreak : Reader Char Unit := do
  match ← Reader.peek with
  | some c => if Text.isIdentifierPart c then failure
  | none => pure ()

/-- Takes the digits of an exponent behind its mark. -/
def exponentDigits : Reader Char Unit := do
  let _ ← Reader.takeWhile (· == '_')
  let _ ← (do Reader.one '+') <|> (do Reader.one '-') <|> pure ()
  let digits ← Reader.takeWhile fun c => c.isDigit || c = '_'
  if digits.any Char.isDigit then pure () else failure

/-- Takes a number with a point or an exponent. -/
def floatNumber : Reader Char Unit := do
  let _ ← Reader.satisfy Char.isDigit
  let _ ← Reader.takeWhile fun c => c.isDigit || c = '_'
  let hasPoint ← Reader.optional '.'
  if hasPoint then
    match ← Reader.peek with
    | some c => if c = '.' || Text.isIdentifierStart c then failure
    | none => pure ()
    let _ ← Reader.takeWhile fun c => c.isDigit || c = '_'
  let exponent : Reader Char Unit := do
    let _ ← Reader.satisfy fun c => c = 'e' || c = 'E'
    exponentDigits
  if hasPoint then exponent <|> pure () else exponent
  let _ ← typeSuffix
  wordBreak

/-- Takes the digits of an integer, in the base that its start tells. -/
def integerDigits : Reader Char Unit := do
  let input ← get
  let (base, marked) :=
    if startsWith input "0x" then (16, true)
    else if startsWith input "0o" then (8, true)
    else if startsWith input "0b" then (2, true)
    else (10, false)
  if marked then set (input.drop 2)
  let digits ← Reader.takeWhile fun c =>
    c = '_' || c.isDigit || (base = 16 && Text.Digits.isHex c)
  if digits.any fun c => c.isDigit && base ≤ c.toNat - '0'.toNat then failure
  if !(digits.any fun c => c ≠ '_') then failure
  if !marked && digits.head? = some '_' then failure

/-- Takes an integer. -/
def integer : Reader Char Unit := do
  integerDigits
  let _ ← typeSuffix
  wordBreak

/-- The position of a member that an integer literal names: one of 32 bits, without a type. -/
def position? (text : String) : Option Nat :=
  let digits := text.toList.filter (· ≠ '_')
  let value? := match digits with
    | '0' :: 'x' :: rest => Text.Digits.valueIn? 16 rest
    | '0' :: 'o' :: rest => Text.Digits.valueIn? 8 rest
    | '0' :: 'b' :: rest => Text.Digits.valueIn? 2 rest
    | [] => none
    | rest => Text.Digits.valueIn? 10 rest
  value?.filter (· < 0x100000000)

/-- Takes a literal. -/
def literal : Reader Char Unit :=
  (do let _ ← anyText; let _ ← typeSuffix) <|> (do character; let _ ← typeSuffix) <|>
    floatNumber <|> integer

end Storytest.Source.Lexeme
