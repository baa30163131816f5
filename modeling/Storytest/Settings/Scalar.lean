import Storytest.Text.Digits
import Storytest.Text.Reader

/-!
# Escapes in quoted settings

The escapes that quoted texts in settings may hold: single characters and code points in
hexadecimal.
-/

namespace Storytest.Settings

/-- Takes a number of hexadecimal digits and gives the character of that code point. -/
def hexChar (count : Nat) : Reader Char Char := fun input =>
  let digits := input.take count
  if digits.length = count then
    ((Text.Digits.valueIn? 16 digits).bind Text.Digits.scalar?).map fun c => (c, input.drop count)
  else none

/-- Takes what follows a backslash and gives the character it stands for. -/
def escaped : Reader Char Char := do
  match ← Reader.next with
  | 'b' => return '\x08'
  | 't' => return '\t'
  | 'n' => return '\n'
  | 'f' => return '\x0c'
  | 'r' => return '\r'
  | '"' => return '"'
  | '\\' => return '\\'
  | 'u' => hexChar 4
  | 'U' => hexChar 8
  | _ => failure

/-- A character that may stand in a quoted text as it is: no control except the tab. -/
def isPlain (c : Char) : Bool :=
  c = '\t' || (0x20 ≤ c.toNat && c.toNat ≠ 0x7F)

/-- Takes the rest of a text in double quotes, and the closing quote. -/
def quotedTail : Nat → Reader Char (List Char)
  | 0 => failure
  | fuel + 1 => do
    match ← Reader.next with
    | '"' => return []
    | '\\' => do
      let c ← escaped
      return c :: (← quotedTail fuel)
    | c => if isPlain c then return c :: (← quotedTail fuel) else failure

/-- Takes a text in double quotes. -/
def quoted : Reader Char String := do
  Reader.one '"'
  let fuel := (← get).length
  return String.ofList (← quotedTail fuel)

end Storytest.Settings
