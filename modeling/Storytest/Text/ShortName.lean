import Storytest.Text.Class

/-!
# Short names

A qualified name such as `alloc::vec::Vec<alloc::string::String>` is shortened run by run: of
every maximal run of path characters only what follows its rightmost double colon is kept, and
every other character stays where it is.
-/

namespace Storytest.Text

/-- Of a run read backwards, the part before the first double colon: the last segment of the run,
backwards. -/
def lastSegmentBackwards : List Char → List Char
  | ':' :: ':' :: _ => []
  | c :: rest => c :: lastSegmentBackwards rest
  | [] => []

/-- What follows the rightmost double colon of a run, or the whole run when it has none. -/
def lastSegment (run : List Char) : List Char :=
  (lastSegmentBackwards run.reverse).reverse

/-- Shortens the rest of a text, where `run` holds the path characters read since the last other
character, latest first. -/
def shortenFrom (run : List Char) : List Char → List Char
  | [] => lastSegment run.reverse
  | c :: rest =>
    if isPathChar c then shortenFrom (c :: run) rest
    else lastSegment run.reverse ++ c :: shortenFrom [] rest

/-- The text with every run of path characters cut down to its last segment. -/
def shorten (text : List Char) : List Char :=
  shortenFrom [] text

/-- The short form of a qualified name. -/
def shortName (name : String) : String :=
  String.ofList (shorten name.toList)

end Storytest.Text
