import Storytest.Decimal.Reader
import Storytest.Settings.Document.Basic
import Storytest.Settings.Document.Time
import Storytest.Settings.Scalar

/-!
# Reading settings documents

A document is read line by line: key-value pairs, headers in brackets, comments. Values are
texts in four kinds of quotes, numbers, truth values, dates, lists and tables in braces.
-/

namespace Storytest.Settings.Document

/-! ## Blanks, ends of lines, comments -/

/-- Takes blanks inside a line. -/
def blanks : Reader Char Unit := do
  let _ ← Reader.takeWhile fun c => c = ' ' || c = '\t'

/-- Takes the end of a line. -/
def newline : Reader Char Unit := do
  match ← Reader.next with
  | '\n' => pure ()
  | '\r' => Reader.one '\n'
  | _ => failure

/-- Takes a comment, if there is one. -/
def comment : Reader Char Unit := do
  if (← Reader.peek) = some '#' then
    let _ ← Reader.takeWhile isPlain

/-- Takes blanks, comments and ends of lines. -/
def gap : Nat → Reader Char Unit
  | 0 => pure ()
  | fuel + 1 => do
    blanks
    comment
    match ← Reader.peek with
    | some '\n' | some '\r' => do
      newline
      gap fuel
    | _ => pure ()

/-! ## Texts -/

/-- Takes the rest of a text in three quotes, where `quote` is the quote and `escapes` says whether
a backslash escapes. Up to two quotes more may stand before the closing three. -/
def blockTail (quote : Char) (escapes : Bool) : Nat → Reader Char (List Char)
  | 0 => failure
  | fuel + 1 => do
    let input ← get
    if input.take 3 = [quote, quote, quote] then
      let quotes := input.takeWhile (· == quote)
      let extra := min (quotes.length - 3) 2
      set (input.drop (3 + extra))
      return quotes.take extra
    else
      match ← Reader.next with
      | '\r' => do
        Reader.one '\n'
        return '\n' :: (← blockTail quote escapes fuel)
      | '\\' =>
        if escapes then
          (do blanks
              newline
              let _ ← Reader.takeWhile fun c => c = ' ' || c = '\t' || c = '\n'
              skipReturns fuel
              blockTail quote escapes fuel) <|>
          (do let c ← escaped
              return c :: (← blockTail quote escapes fuel))
        else return '\\' :: (← blockTail quote escapes fuel)
      | c =>
        if c = '\n' || isPlain c then return c :: (← blockTail quote escapes fuel) else failure
where
  /-- Takes ends of lines that open with a carriage return, and the blanks after them. -/
  skipReturns : Nat → Reader Char Unit
    | 0 => pure ()
    | fuel + 1 => do
      if (← Reader.peek) = some '\r' then
        newline
        let _ ← Reader.takeWhile fun c => c = ' ' || c = '\t' || c = '\n'
        skipReturns fuel

/-- Takes a text in three quotes; an end of line right after them is left out. -/
def block (quote : Char) (escapes : Bool) : Reader Char String := do
  Reader.all [quote, quote, quote]
  newline <|> pure ()
  let fuel := (← get).length + 1
  return String.ofList (← blockTail quote escapes fuel)

/-- Takes a text in single quotes, in which nothing is escaped. -/
def literal : Reader Char String := do
  Reader.one '\''
  let text ← Reader.takeWhile fun c => c ≠ '\'' && isPlain c
  Reader.one '\''
  return String.ofList text

/-- Takes a text in any quotes. -/
def text : Reader Char String := do
  match (← get).take 3 with
  | ['"', '"', '"'] => block '"' true
  | ['\'', '\'', '\''] => block '\'' false
  | '"' :: _ => quoted
  | '\'' :: _ => literal
  | _ => failure

/-! ## Keys -/

/-- Takes one segment of a key. -/
def segment : Reader Char String := do
  match ← Reader.peek with
  | some '"' => quoted
  | some '\'' => literal
  | _ =>
    return String.ofList (← Reader.takeWhile1 fun c => c.isAlphanum || c = '_' || c = '-')

/-- Takes a dotted key with the blanks around its segments. -/
def dottedKey : Nat → Reader Char (List String)
  | 0 => failure
  | fuel + 1 => do
    blanks
    let first ← segment
    blanks
    if ← Reader.optional '.' then return first :: (← dottedKey fuel) else return [first]

/-! ## Numbers -/

/-- The digits with single underscores between them taken out; none if an underscore is anywhere
else. -/
def plainDigits? (isDigit : Char → Bool) : List Char → Option (List Char)
  | [] => none
  | [c] => if isDigit c then some [c] else none
  | c :: '_' :: rest => if isDigit c then (plainDigits? isDigit rest).map (c :: ·) else none
  | c :: rest => if isDigit c then (plainDigits? isDigit rest).map (c :: ·) else none

/-- The digits of a whole number without needless zeros in front. -/
def wholeDigits? (text : List Char) : Option (List Char) := do
  let digits ← plainDigits? Char.isDigit text
  if digits.length > 1 && digits.head? = some '0' then none else some digits

/-- The integer within 64 bits that a text writes. -/
def integer? (text : List Char) : Option Int := do
  let value ← match text with
    | '0' :: 'x' :: rest => natural 16 (← plainDigits? Text.Digits.isHex rest)
    | '0' :: 'o' :: rest => natural 8 (← plainDigits? (fun c => '0' ≤ c && c ≤ '7') rest)
    | '0' :: 'b' :: rest => natural 2 (← plainDigits? (fun c => c = '0' || c = '1') rest)
    | _ =>
      let (negative, body) := Decimal.splitSign text
      let value : Int := Decimal.digitsValue (← wholeDigits? body)
      some (if negative then -value else value)
  if -0x8000000000000000 ≤ value && value ≤ 0x7fffffffffffffff then some value else none
where
  /-- The value of digits in a base. -/
  natural (base : Nat) (digits : List Char) : Option Int :=
    (Text.Digits.valueIn? base digits).map Int.ofNat

/-- The digits of an exponent with its mark and sign, underscores taken out. -/
def exponentText? (text : List Char) : Option (List Char) :=
  match text with
  | [] => some []
  | mark :: '+' :: rest => (plainDigits? Char.isDigit rest).map ([mark, '+'] ++ ·)
  | mark :: '-' :: rest => (plainDigits? Char.isDigit rest).map ([mark, '-'] ++ ·)
  | mark :: rest => (plainDigits? Char.isDigit rest).map (mark :: ·)

/-- The floating-point number that a text writes. Digits stand on both sides of a point. -/
def float? (text : List Char) : Option Decimal.Binary64 := do
  let (negative, body) := Decimal.splitSign text
  if body = "inf".toList then return .infinite negative
  if body = "nan".toList then return .notANumber
  let isExponent := fun (c : Char) => c = 'e' || c = 'E'
  let mantissa := body.takeWhile (!isExponent ·)
  let exponent := body.dropWhile (!isExponent ·)
  let whole ← wholeDigits? (mantissa.takeWhile (· ≠ '.'))
  let fraction ← match mantissa.dropWhile (· ≠ '.') with
    | '.' :: rest => (plainDigits? Char.isDigit rest).map ('.' :: ·)
    | _ => if exponent.isEmpty then none else some []
  let value ← Decimal.read? ((if negative then ['-'] else []) ++ whole ++ fraction ++
    (← exponentText? exponent))
  if value = .infinite false then none else some value

/-- Takes a number or a date. -/
def number : Reader Char Tree :=
  (do dateTime
      stop
      return .table []) <|>
  (do let word ← Reader.takeWhile1 fun c =>
        c.isAlphanum || c = '_' || c = '+' || c = '-' || c = '.'
      match integer? word with
      | some value => return .signed value
      | none =>
        match float? word with
        | some value => return .float value
        | none => failure)
where
  /-- Nothing that could continue a number follows. -/
  stop : Reader Char Unit := do
    match ← Reader.peek with
    | some c => if c.isAlphanum || c = '_' || c = '-' || c = '.' || c = ':' then failure
    | none => pure ()

/-! ## Values -/

mutual

/-- Takes a value, nested no deeper than the fuel. -/
def value : Nat → Reader Char Tree
  | 0 => failure
  | fuel + 1 => do
    match ← Reader.peek with
    | some '"' | some '\'' => return .text (← text)
    | some '[' => do
      Reader.one '['
      return .list (← items fuel)
    | some '{' => do
      Reader.one '{'
      blanks
      let pairs ← if ← Reader.optional '}' then pure [] else pairs fuel
      match ofPairs? pairs with
      | some tree => return tree
      | none => failure
    | some 't' => do
      Reader.all "true".toList
      return .flag true
    | some 'f' => do
      Reader.all "false".toList
      return .flag false
    | _ => number

/-- Takes the items of a list and the closing bracket; a comma may come before it. -/
def items : Nat → Reader Char (List Tree)
  | 0 => failure
  | fuel + 1 => do
    gap fuel
    if ← Reader.optional ']' then return []
    else
      let first ← value fuel
      gap fuel
      if ← Reader.optional ',' then return first :: (← items fuel)
      else
        Reader.one ']'
        return [first]

/-- Takes the pairs of a table and the closing brace, all on one line. -/
def pairs : Nat → Reader Char (List (List String × Tree))
  | 0 => failure
  | fuel + 1 => do
    let path ← dottedKey fuel
    Reader.one '='
    blanks
    let tree ← value fuel
    blanks
    if ← Reader.optional ',' then return (path, tree) :: (← pairs fuel)
    else
      Reader.one '}'
      return [(path, tree)]

end

/-! ## Lines -/

/-- Takes what a line says. -/
def line (fuel : Nat) : Reader Char Line := do
  blanks
  match ← Reader.peek with
  | none | some '\n' | some '\r' | some '#' => return .blank
  | some '[' => do
    Reader.one '['
    if ← Reader.optional '[' then
      let path ← dottedKey fuel
      Reader.all [']', ']']
      return .item path
    else
      let path ← dottedKey fuel
      Reader.one ']'
      return .header path
  | _ => do
    let path ← dottedKey fuel
    Reader.one '='
    blanks
    let tree ← value fuel
    return .pair path tree

/-- Takes all lines. -/
def lines : Nat → Reader Char (List Line)
  | 0 => failure
  | fuel + 1 => do
    let first ← line fuel
    blanks
    comment
    if (← Reader.peek).isNone then return [first]
    else
      newline
      return first :: (← lines fuel)

/-- The settings that the text of a document holds; a byte order mark in front is skipped. -/
def read? (text : String) : Option (List (String × Tree)) := do
  let input := match text.toList with
    | '\ufeff' :: rest => rest
    | input => input
  let lines ← Reader.whole (lines (2 * input.length + 4)) input
  ofLines? lines

end Storytest.Settings.Document
