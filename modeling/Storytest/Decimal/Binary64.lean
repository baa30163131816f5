/-!
# Floating-point numbers of 64 bits

A finite number is `mantissa * 2 ^ exponent` with a mantissa below 2 ^ 53. `ofFraction` gives the
number nearest to a fraction; of two nearest ones, the one with the even mantissa.
-/

namespace Storytest.Decimal

/-- A floating-point number. -/
inductive Binary64 where
  | finite (negative : Bool) (mantissa : Nat) (exponent : Int)
  | infinite (negative : Bool)
  | notANumber
  deriving DecidableEq, Repr

namespace Binary64

/-- The quotient rounded to the nearest integer, and a half to the even one. -/
def roundDiv (num den : Nat) : Nat :=
  let q := num / den
  let twice := 2 * (num % den)
  if twice < den then q
  else if den < twice then q + 1
  else if q % 2 = 0 then q else q + 1

/-- The least mantissa of 53 bits, 2 ^ 52. -/
def leastMantissa : Nat := 0x10000000000000

/-- The first number that is too large for a mantissa, 2 ^ 53. -/
def fullMantissa : Nat := 0x20000000000000

/-- A fraction times a power of two, as a fraction. -/
def scale (num den : Nat) (power : Int) : Nat × Nat :=
  if 0 ≤ power then (num * Nat.pow 2 power.toNat, den) else (num, den * Nat.pow 2 (-power).toNat)

/-- The exponent that a number near the fraction has: its mantissa then fills 53 bits, unless the
number is too small for that. -/
def exponentFor (num den : Nat) : Int :=
  let guess : Int := (num.log2 : Int) - (den.log2 : Int) - 53
  let (a, b) := scale num den (-guess)
  let exponent := if a / b < fullMantissa then guess else guess + 1
  max exponent (-1074)

/-- The number nearest to a fraction. -/
def ofFraction (negative : Bool) (num den : Nat) : Binary64 :=
  if num = 0 then .finite negative 0 (-1074)
  else
    let exponent := exponentFor num den
    let (a, b) := scale num den (-exponent)
    let mantissa := roundDiv a b
    let (mantissa, exponent) :=
      if mantissa = fullMantissa then (leastMantissa, exponent + 1) else (mantissa, exponent)
    if 971 < exponent then .infinite negative else .finite negative mantissa exponent

/-- The number nearest to `digits * 10 ^ power`. -/
def ofDecimal (negative : Bool) (digits : Nat) (power : Int) : Binary64 :=
  let size : Int := ((toString digits).length : Int) + power
  if digits = 0 || size < -400 then .finite negative 0 (-1074)
  else if 400 < size then .infinite negative
  else if 0 ≤ power then ofFraction negative (digits * Nat.pow 10 power.toNat) 1
  else ofFraction negative digits (Nat.pow 10 (-power).toNat)

end Binary64

end Storytest.Decimal
