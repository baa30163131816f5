/-!
# Digits of a base

The value of a digit and of a run of digits in a base of at most sixteen. Letters of either case
are the digits from ten on.
-/

namespace Storytest.Text.Digits

/-- The value of a digit. -/
def value? (c : Char) : Option Nat :=
  if c.isDigit then some (c.toNat - '0'.toNat)
  else if 'a' ≤ c && c ≤ 'f' then some (c.toNat - 'a'.toNat + 10)
  else if 'A' ≤ c && c ≤ 'F' then some (c.toNat - 'A'.toNat + 10)
  else none

/-- A digit of base sixteen. -/
def isHex (c : Char) : Bool := (value? c).isSome

/-- The value of digits of a base that follow digits worth `value`. -/
def valueFrom? (base value : Nat) : List Char → Option Nat
  | [] => some value
  | c :: rest =>
    match value? c with
    | some digit => if digit < base then valueFrom? base (base * value + digit) rest else none
    | none => none

/-- The value of digits of a base; no digits are worth zero. -/
def valueIn? (base : Nat) (digits : List Char) : Option Nat :=
  valueFrom? base 0 digits

/-- The character of a code point, if there is one. -/
def scalar? (value : Nat) : Option Char :=
  if h : value.isValidChar then some (Char.ofNatAux value h) else none

end Storytest.Text.Digits
