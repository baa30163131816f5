/-!
# Integer numerals

A numeral is an optional sign followed by one or more decimal digits. `value?` reads a numeral of
any size, `read?` only one whose value lies within given bounds, and `fault` says why a text is
not such a numeral.
-/

namespace Storytest.Text.Numeral

/-- The value of a run of decimal digits that follows digits worth `value`. -/
def digitsFrom (value : Nat) : List Char → Option Nat
  | [] => some value
  | c :: rest => if c.isDigit then digitsFrom (10 * value + (c.toNat - 48)) rest else none

/-- The value of one or more decimal digits. -/
def digits? : List Char → Option Nat
  | [] => none
  | text => digitsFrom 0 text

/-- The value of a numeral of any size. -/
def value? : List Char → Option Int
  | '+' :: text => (digits? text).map Int.ofNat
  | '-' :: text => (digits? text).map fun n => -Int.ofNat n
  | text => (digits? text).map Int.ofNat

/-- The value of a numeral that lies within the bounds. -/
def read? (low high : Int) (text : List Char) : Option Int :=
  (value? text).filter fun n => low ≤ n && n ≤ high

/-- Why a text is not the numeral of a bounded integer. -/
inductive Fault where
  | empty
  | invalidDigit
  | tooLarge
  | tooSmall
  deriving DecidableEq, Repr

/-- How each fault is worded. -/
def Fault.message : Fault → String
  | .empty => "cannot parse integer from empty string"
  | .invalidDigit => "invalid digit found in string"
  | .tooLarge => "number too large to fit in target type"
  | .tooSmall => "number too small to fit in target type"

/-- The digits that open the text already exceed the limit. -/
def exceeds (limit value : Nat) : List Char → Bool
  | [] => limit < value
  | c :: rest =>
    limit < value || (c.isDigit && exceeds limit (10 * value + (c.toNat - 48)) rest)

/-- Why a text that `read?` refuses is refused. Digits are read from the left, so a value that
leaves the bounds is reported before a later character that is no digit. -/
def fault (low high : Int) : List Char → Fault
  | [] => .empty
  | '-' :: text => if exceeds (-low).toNat 0 text then .tooSmall else .invalidDigit
  | '+' :: text => if exceeds high.toNat 0 text then .tooLarge else .invalidDigit
  | text => if exceeds high.toNat 0 text then .tooLarge else .invalidDigit

end Storytest.Text.Numeral
