import Storytest.Proofs.Shortening

/-!
# Shortening piece by piece

`shortens_shortName`: a text is shortened piece by piece between the characters that belong to no
path, and of a path the segment behind its rightmost double colon is kept. Nothing else is needed to
see, by induction on the runs of a text (`induction_on_runs`), that the characters between the
pieces stay, that no double colon is left, and that there is nothing to shorten again.
-/

namespace Storytest.Text

/-! ## Runs of a text -/

/-- A text is a path, or a path with another character behind it and then a text. -/
theorem induction_on_runs {motive : List Char → Prop}
    (path : ∀ run, (∀ c ∈ run, isPathChar c = true) → motive run)
    (piece : ∀ run c after, (∀ d ∈ run, isPathChar d = true) → isPathChar c = false →
      motive after → motive (run ++ c :: after))
    (text : List Char) : motive text := by
  suffices hrun : ∀ run, (∀ c ∈ run, isPathChar c = true) → motive (run ++ text) from
    hrun [] (by simp)
  induction text with
  | nil =>
    intro run h
    rw [List.append_nil]
    exact path run h
  | cons c text ih =>
    intro run h
    cases hc : isPathChar c with
    | false => exact piece run c text h hc (ih [] (by simp))
    | true =>
      rw [List.append_cons]
      refine ih (run ++ [c]) fun d hd => ?_
      rcases List.mem_append.1 hd with hd | hd
      · exact h d hd
      · rw [List.mem_singleton.1 hd, hc]

/-- The characters between the paths of a text. -/
def between (text : List Char) : List Char :=
  text.filter fun c => !isPathChar c

theorem between_append (before after : List Char) :
    between (before ++ after) = between before ++ between after :=
  List.filter_append before after

theorem between_cons {c : Char} (hc : isPathChar c = false) (after : List Char) :
    between (c :: after) = c :: between after := by
  simp [between, hc]

theorem between_path {run : List Char} (h : ∀ c ∈ run, isPathChar c = true) : between run = [] := by
  simpa [between] using h

/-! ## What shortening leaves -/

theorem path_lastSegment {run : List Char} (h : ∀ c ∈ run, isPathChar c = true) :
    ∀ c ∈ lastSegment run, isPathChar c = true := fun c hc =>
  h c ((lastSegment_eq_iff.1 rfl).suffix.subset hc)

/-- A part that holds a character once is not torn by it. -/
theorem infix_of_infix_append_cons {part before after : List Char} {c : Char} (hc : c ∉ part)
    (h : part <:+: before ++ c :: after) : part <:+: before ∨ part <:+: after := by
  rcases List.infix_append_iff.1 h with h | h | ⟨front, back, rfl, hfront, hback⟩
  · exact .inl h
  · rcases List.infix_cons_iff.1 h with h | h
    · rcases List.prefix_cons_iff.1 h with rfl | ⟨rest, rfl, -⟩
      · exact .inl List.nil_infix
      · exact absurd List.mem_cons_self hc
    · exact .inr h
  · rcases List.prefix_cons_iff.1 hback with rfl | ⟨rest, rfl, -⟩
    · rw [List.append_nil]
      exact .inl hfront.isInfix
    · exact absurd (List.mem_append_right _ List.mem_cons_self) hc

theorem between_shorten (text : List Char) : between (shorten text) = between text := by
  induction text using induction_on_runs with
  | path run h => rw [shorten_path h, between_path h, between_path (path_lastSegment h)]
  | piece run c after h hc ih =>
    rw [shorten_append_cons hc, shorten_path h, between_append, between_append, between_cons hc,
      between_cons hc, ih, between_path h, between_path (path_lastSegment h)]

theorem single_shorten (text : List Char) : ¬[':', ':'] <:+: shorten text := by
  have hlast : ∀ run, ¬[':', ':'] <:+: lastSegment run := fun run =>
    (lastSegment_eq_iff.1 rfl).single
  induction text using induction_on_runs with
  | path run h =>
    rw [shorten_path h]
    exact hlast run
  | piece run c after h hc ih =>
    rw [shorten_append_cons hc, shorten_path h]
    intro hin
    have hcolon : c ∉ [':', ':'] := by
      intro hmem
      obtain rfl : c = ':' := by simpa using hmem
      cases hc
    exact (infix_of_infix_append_cons hcolon hin).elim (hlast run) ih

theorem shorten_shorten (text : List Char) : shorten (shorten text) = shorten text := by
  -- The segment that is kept of a run is a run of its own, and holds no double colon.
  have hlast : ∀ run, (∀ c ∈ run, isPathChar c = true) →
      shorten (lastSegment run) = lastSegment run := by
    intro run h
    rw [shorten_path (path_lastSegment h)]
    exact lastSegment_of_last (.whole (lastSegment_eq_iff.1 rfl).single)
  induction text using induction_on_runs with
  | path run h => rw [shorten_path h, hlast run h]
  | piece run c after h hc ih =>
    rw [shorten_append_cons hc, shorten_append_cons hc, shorten_path h, hlast run h, ih]

/-! ## Short names -/

theorem toList_shortName (name : String) : (shortName name).toList = shorten name.toList :=
  String.toList_ofList

/-- A way to shorten texts: piece by piece, and of each path its last segment. -/
structure Shortens (short : String → String) : Prop where
  /-- The text is shortened in two parts around a character that belongs to no path. -/
  parts : ∀ (before after : String) (c : Char), isPathChar c = false →
    short (before ++ String.singleton c ++ after) =
      short before ++ String.singleton c ++ short after
  /-- Of a path, what follows the rightmost double colon is left. -/
  path : ∀ name segment : String, (∀ c ∈ name.toList, isPathChar c = true) →
    (short name = segment ↔ Last name.toList segment.toList)
  /-- The characters that belong to no path are left, in their order. -/
  between : ∀ name, between (short name).toList = between name.toList
  /-- No double colon is left. -/
  single : ∀ name, ¬[':', ':'] <:+: (short name).toList
  /-- What is left stays as it is when it is shortened again. -/
  settled : ∀ name, short (short name) = short name

/-- A name is shortened piece by piece: of each path only what follows its rightmost double colon is
left, and the characters between paths stay. No double colon is left, and a short name is its own
short name. -/
theorem shortens_shortName : Shortens shortName where
  parts before after c hc := by
    apply String.toList_injective
    simp only [toList_shortName, String.toList_append, String.toList_singleton, List.append_assoc,
      List.singleton_append]
    exact shorten_append_cons hc _ _
  path name segment h := by
    rw [← lastSegment_eq_iff, ← shorten_path h, ← toList_shortName]
    exact String.toList_inj.symm
  between name := by rw [toList_shortName, between_shorten]
  single name := by
    rw [toList_shortName]
    exact single_shorten _
  settled name := by
    apply String.toList_injective
    rw [toList_shortName, toList_shortName, shorten_shorten]

/-- Of colons in a row, the last two count. -/
example : shortName "a:::b<::c:, d::::>" = "b<c:, >" ∧ shortName ":a:b" = ":a:b" := by
  decide +kernel

end Storytest.Text
