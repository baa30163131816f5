/-!
# Texts inside texts

`contains` decides whether one text occurs inside another; `contains_iff` says so in terms of
`List.IsInfix`.
-/

namespace Storytest.Text

/-- The characters occur, one after the other, somewhere in the text. -/
def occursIn (part : List Char) : List Char → Bool
  | [] => part.isEmpty
  | c :: rest => part.isPrefixOf (c :: rest) || occursIn part rest

/-- The text holds the part. -/
def contains (text part : String) : Bool :=
  occursIn part.toList text.toList

theorem occursIn_iff {part text : List Char} : occursIn part text = true ↔ part <:+: text := by
  induction text with
  | nil => simp [occursIn, List.isEmpty_iff]
  | cons c rest ih => simp [occursIn, ih, List.infix_cons_iff]

theorem contains_iff {text part : String} :
    contains text part = true ↔ part.toList <:+: text.toList :=
  occursIn_iff

end Storytest.Text
