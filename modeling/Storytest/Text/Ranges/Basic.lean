/-!
# Ranges of code points

A character class is a table of inclusive ranges of code points above ASCII. The ASCII part of
each class is written where the class is defined, so that it evaluates without the table.
-/

namespace Storytest.Text

/-- A table of inclusive ranges of code points, in ascending order. -/
abbrev Ranges := Array (Nat × Nat)

/-- The character lies in one of the ranges. -/
def Ranges.has (ranges : Ranges) (c : Char) : Bool :=
  ranges.any fun range => range.1 ≤ c.toNat && c.toNat ≤ range.2

end Storytest.Text
