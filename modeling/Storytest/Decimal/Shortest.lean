import Storytest.Decimal.Binary64

/-!
# The shortest decimal of a number

The shortest decimal of a positive floating-point number has the fewest digits with which it still
reads back, and of the decimals of that length it is the nearest; of two nearest ones it is the
greater. A decimal reads back when it lies in the interval of the reals that round to the number;
the ends belong to the interval exactly when the mantissa is even. On a grid that meets the
interval, one of the number's two neighbours lies in it, so only these are tried.
-/

namespace Storytest.Decimal

/-- A positive number as a fraction, with the ends of the interval that rounds to it, over one
denominator. -/
structure Interval where
  low : Nat
  value : Nat
  high : Nat
  den : Nat
  closed : Bool

namespace Interval

/-- The interval of `mantissa * 2 ^ exponent`. Below a power of two the numbers lie twice as
dense. -/
def ofBinary (mantissa : Nat) (exponent : Int) : Interval :=
  let up := exponent.toNat
  let down := (-exponent).toNat
  let below := if mantissa = Binary64.leastMantissa && exponent != -1074 then 1 else 2
  { low := (4 * mantissa - below) * Nat.pow 2 up
    value := 4 * mantissa * Nat.pow 2 up
    high := (4 * mantissa + 2) * Nat.pow 2 up
    den := 4 * Nat.pow 2 down
    closed := mantissa % 2 = 0 }

/-- The fraction `num / interval.den` lies in the interval. -/
def has (interval : Interval) (num : Nat) : Bool :=
  if interval.closed then interval.low ≤ num && num ≤ interval.high
  else interval.low < num && num < interval.high

/-- The numerator over `interval.den` of `digits * 10 ^ power`, after scaling both by
`10 ^ (-power)` where the power is negative. -/
def scaled (interval : Interval) (power : Int) : Interval × Nat :=
  if 0 ≤ power then (interval, interval.den * Nat.pow 10 power.toNat)
  else
    let factor := Nat.pow 10 (-power).toNat
    ({ low := interval.low * factor, value := interval.value * factor,
       high := interval.high * factor, den := interval.den, closed := interval.closed },
     interval.den)

/-- The decimal on the grid of `10 ^ power` that reads back and is nearest, if there is one. -/
def onGrid? (interval : Interval) (power : Int) : Option Nat :=
  let (scaled, unit) := interval.scaled power
  let below := scaled.value / unit
  let rest := scaled.value % unit
  let first := if 2 * rest < unit then below else below + 1
  let second := if 2 * rest < unit then below + 1 else below
  if scaled.has (first * unit) then some first
  else if scaled.has (second * unit) then some second
  else none

/-- The decimal on the coarsest grid that has one, starting at a power and going down. -/
def search (interval : Interval) (power : Int) : Nat → Nat × Int
  | 0 => (0, 0)
  | fuel + 1 =>
    match interval.onGrid? power with
    | some digits => if digits = 0 then search interval (power - 1) fuel else (digits, power)
    | none => search interval (power - 1) fuel

/-- The shortest decimal: digits and the power of ten of the last one. -/
def shortest (interval : Interval) : Nat × Int :=
  let size : Int := ((toString (interval.value / interval.den)).length : Int)
  let start := if interval.den ≤ interval.value then size else 1
  interval.search start 400

end Interval

/-- Digits in positional notation, the last of them at a power of ten. -/
def positional (digits : Nat) (power : Int) : String :=
  let text := toString digits
  if 0 ≤ power then text ++ "".pushn '0' power.toNat
  else
    let places := (-power).toNat
    let padded := "".pushn '0' (places + 1 - text.length) ++ text
    let whole := padded.length - places
    String.ofList (padded.toList.take whole) ++ "." ++ String.ofList (padded.toList.drop whole)

/-- A number in positional notation with its shortest decimal. -/
def Binary64.display : Binary64 → String
  | .notANumber => "NaN"
  | .infinite negative => (if negative then "-" else "") ++ "inf"
  | .finite negative mantissa exponent =>
    (if negative then "-" else "") ++
      if mantissa = 0 then "0"
      else
        let (digits, power) := (Interval.ofBinary mantissa exponent).shortest
        positional digits power

end Storytest.Decimal
