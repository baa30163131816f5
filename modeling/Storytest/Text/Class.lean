import Storytest.Text.Ranges.Alphanumeric
import Storytest.Text.Ranges.IdentifierStart
import Storytest.Text.Ranges.IdentifierPart

/-!
# Character classes

The classes of characters that the library's texts are read by. Each is the whole Unicode class;
the ASCII part is tested first and the table of ranges is consulted above it.
-/

namespace Storytest.Text

/-- A letter or number of any script. -/
def isAlphanumeric (c : Char) : Bool :=
  c.isAlphanum || (c.toNat ≥ 128 && Ranges.alphanumeric.has c)

/-- A character of a qualified name: alphanumeric, an underscore or a colon. -/
def isPathChar (c : Char) : Bool :=
  isAlphanumeric c || c == '_' || c == ':'

/-- A character that opens an identifier, the underscore included. -/
def isIdentifierStart (c : Char) : Bool :=
  c.isAlpha || c == '_' || (c.toNat ≥ 128 && Ranges.identifierStart.has c)

/-- A character that continues an identifier. -/
def isIdentifierPart (c : Char) : Bool :=
  c.isAlphanum || c == '_' || (c.toNat ≥ 128 && Ranges.identifierPart.has c)

/-- A character with the property White_Space. -/
def isBlank (c : Char) : Bool :=
  let n := c.toNat
  (9 ≤ n && n ≤ 13) || n == 0x20 || n == 0x85 || n == 0xA0 || n == 0x1680 ||
    (0x2000 ≤ n && n ≤ 0x200A) || n == 0x2028 || n == 0x2029 || n == 0x202F || n == 0x205F ||
    n == 0x3000

/-- The text without the blank characters at its two ends. -/
def trimBlank (text : List Char) : List Char :=
  ((text.dropWhile isBlank).reverse.dropWhile isBlank).reverse

end Storytest.Text
