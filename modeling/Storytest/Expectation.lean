import Storytest.Failure.Basic
import Storytest.Text.Infix
import Storytest.Text.Quoted

/-!
# Expected failures

An expectation names a type of error and, if it wants, a part of its text. A failure satisfies it
when one link of its chain has both.
-/

namespace Storytest

/-- The failure that a scenario is expected to end with. The empty part of a text counts as none. -/
structure Expectation where
  type : Ty
  part : Option String
  nonempty : part ≠ some ""

namespace Expectation

/-- Expects an error of the type. -/
def ofType (type : Ty) : Expectation :=
  ⟨type, none, by simp⟩

/-- Expects the text as a part of the error's text; the empty one is no demand. -/
def containing (expectation : Expectation) (text : String) : Expectation :=
  if h : text = "" then ⟨expectation.type, none, by simp⟩
  else ⟨expectation.type, some text, by simpa using h⟩

/-- The link has the type, and the part in its text. -/
def meets (expectation : Expectation) (link : Link) : Bool :=
  link.type = expectation.type && (expectation.part.all fun part => Text.contains link.message part)

/-- Some link of the chain has the type and the part. -/
def isSatisfiedBy (expectation : Expectation) (chain : List Link) : Bool :=
  chain.any expectation.meets

/-- How an expectation is described. -/
def display (expectation : Expectation) : String :=
  expectation.type.shortName ++
    match expectation.part with
    | none => ""
    | some part => " containing \"" ++ part ++ "\""

/-- How the demanded text is shown. -/
def displayPart (expectation : Expectation) : String :=
  ", message: " ++ Text.quoteOption expectation.part ++ ", .. \x7d"

end Expectation

end Storytest
