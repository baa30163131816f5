import Storytest.Expectation
import Storytest.Script.Cause

/-!
# Errors that wrap errors

From outside, an error is told by its type, its message and its source. `Cause.Wraps` follows the
sources, and the links of an error are those of the errors that it wraps (`mem_links_iff`).
`discerns` says when an expectation is satisfied: one wrapped error has both the type and the text.
So a satisfying error may be wrapped again, and less may be asked of it.
-/

namespace Storytest

/-! ## What an error wraps -/

namespace Cause

/-- What caused an error. A fault in settings is handed on in a box. -/
def source? : Cause → Option Cause
  | .plain .. => none
  | .chained _ _ source => some source
  | .failure (.step cause) => some cause
  | .failure (.settings fault) =>
    some (.plain (Ty.standard "Box" [SettingsFault.type]) fault.message)
  | .failure _ => none

/-- The error as one link of a chain. -/
def link (cause : Cause) : Link :=
  ⟨cause.type, cause.message⟩

/-- An error wraps itself and whatever its source wraps. -/
inductive Wraps : Cause → Cause → Prop
  | itself (cause : Cause) : Wraps cause cause
  | behind {outer source inner : Cause} :
      outer.source? = some source → Wraps source inner → Wraps outer inner

theorem links_eq (cause : Cause) :
    cause.links = cause.link :: (cause.source?.map links).getD [] := by
  cases cause with
  | plain | chained => rfl
  | failure failure => cases failure <;> rfl

theorem mem_links_iff {cause : Cause} {found : Link} :
    found ∈ cause.links ↔ ∃ inner, cause.Wraps inner ∧ inner.link = found := by
  constructor
  · -- By induction on the chain, which is shorter for the source.
    generalize hchain : cause.links = chain
    induction chain generalizing cause with
    | nil => exact fun h => nomatch h
    | cons first rest ih =>
      rw [links_eq] at hchain
      obtain ⟨rfl, hrest⟩ := List.cons.inj hchain
      intro h
      rcases List.mem_cons.1 h with rfl | h
      · exact ⟨cause, .itself cause, rfl⟩
      · cases hs : cause.source? with
        | none =>
          rw [hs] at hrest
          rw [← hrest] at h
          exact nomatch h
        | some source =>
          rw [hs] at hrest
          obtain ⟨inner, hw, hi⟩ := ih hrest h
          exact ⟨inner, .behind hs hw, hi⟩
  · rintro ⟨inner, hw, rfl⟩
    induction hw with
    | itself cause =>
      rw [links_eq]
      exact List.mem_cons_self
    | behind hs _ ih =>
      rw [links_eq, hs]
      exact List.mem_cons_of_mem _ ih

theorem Wraps.trans {outer middle inner : Cause} (h : outer.Wraps middle)
    (hi : middle.Wraps inner) : outer.Wraps inner := by
  induction h with
  | itself => exact hi
  | behind hs _ ih => exact .behind hs (ih hi)

/-- The error as the cause of a failed step, of which the failure is the cause of another, and so
on, so many times. -/
def stepped (cause : Cause) : Nat → Cause
  | 0 => cause
  | depth + 1 => .failure (.step (cause.stepped depth))

theorem stepped_wraps (cause : Cause) (depth : Nat) : (cause.stepped depth).Wraps cause := by
  induction depth with
  | zero => exact .itself cause
  | succ depth ih => exact .behind rfl ih

theorem message_stepped (cause : Cause) (depth : Nat) :
    (cause.stepped depth).message = cause.message := by
  induction depth with
  | zero => rfl
  | succ depth ih => exact ih

/-- The error has the type and, if a text is asked for that is not empty, that text in its
message. -/
def Fits (cause : Cause) (type : Ty) (part : Option String) : Prop :=
  cause.type = type ∧
    ∀ text, part = some text → text ≠ "" → text.toList <:+: cause.message.toList

end Cause

/-! ## Expectations -/

namespace Expectation

/-- Expects an error of the type and, if a text is given, with the text in its message. -/
def wanting (type : Ty) : Option String → Expectation
  | none => ofType type
  | some text => (ofType type).containing text

theorem wanting_part (type : Ty) (part : Option String) :
    (wanting type part).type = type ∧ (wanting type part).part = part.filter (· ≠ "") := by
  cases part with
  | none => exact ⟨rfl, rfl⟩
  | some text =>
    by_cases h : text = ""
    · subst h
      exact ⟨rfl, rfl⟩
    · rw [Option.filter_some, if_pos (decide_eq_true h)]
      simp only [wanting, containing, dif_neg h, ofType, and_self]

theorem meets_wanting_iff {type : Ty} {part : Option String} {cause : Cause} :
    (wanting type part).meets cause.link = true ↔ cause.Fits type part := by
  obtain ⟨htype, hpart⟩ := wanting_part type part
  rw [meets, htype, hpart, Bool.and_eq_true, decide_eq_true_iff, Option.all_eq_true]
  refine and_congr_right fun _ => forall_congr' fun text => ?_
  rw [Option.filter_eq_some_iff, decide_eq_true_iff, and_imp, Text.contains_iff]
  rfl

theorem satisfied_iff {type : Ty} {part : Option String} {cause : Cause} :
    (wanting type part).isSatisfiedBy cause.links = true ↔
      ∃ inner, cause.Wraps inner ∧ inner.Fits type part := by
  rw [isSatisfiedBy, List.any_eq_true]
  constructor
  · rintro ⟨found, hin, hmeets⟩
    obtain ⟨inner, hw, rfl⟩ := Cause.mem_links_iff.1 hin
    exact ⟨inner, hw, meets_wanting_iff.1 hmeets⟩
  · rintro ⟨inner, hw, hfits⟩
    exact ⟨inner.link, Cause.mem_links_iff.2 ⟨inner, hw, rfl⟩, meets_wanting_iff.2 hfits⟩

/-- One text asks for no more than another: it is a part of it, or is not asked for at all. -/
def Weaker (part whole : Option String) : Prop :=
  ∀ text, part = some text → ∃ more, whole = some more ∧ text.toList <:+: more.toList

end Expectation

theorem Cause.Fits.weaken {cause : Cause} {type : Ty} {part whole : Option String}
    (h : cause.Fits type whole) (hw : Expectation.Weaker part whole) : cause.Fits type part := by
  refine ⟨h.1, fun text htext hne => ?_⟩
  obtain ⟨more, hmore, hinfix⟩ := hw text htext
  have hlong : more ≠ "" := by
    rintro rfl
    exact hne (String.toList_eq_nil_iff.1 (List.infix_nil.1 hinfix))
  exact hinfix.trans (h.2 more hmore hlong)

namespace Expectation

/-- What an expectation of a type, and of a text if one is given, sees in an error. -/
structure Discerns (type : Ty) (part : Option String) (cause : Cause) : Prop where
  /-- It is satisfied when one error that is wrapped has both the type and the text. -/
  satisfied : (wanting type part).isSatisfiedBy cause.links = true ↔
    ∃ inner, cause.Wraps inner ∧ inner.Fits type part
  /-- The type of one error and the text of another do not do. -/
  apart : (∀ inner, cause.Wraps inner → inner.type = type → ¬inner.Fits type part) →
    (wanting type part).isSatisfiedBy cause.links = false
  /-- It stays satisfied however the error is wrapped. -/
  wrapped : (wanting type part).isSatisfiedBy cause.links = true → ∀ outer : Cause,
    outer.Wraps cause → (wanting type part).isSatisfiedBy outer.links = true
  /-- Failures of steps, of which each caused the next, wrap their first cause and say what it
  says. -/
  stepped : ∀ depth, (cause.stepped depth).Wraps cause ∧
    (cause.stepped depth).message = cause.message
  /-- It stays satisfied when less of the text is asked for, or none. -/
  weakened : (wanting type part).isSatisfiedBy cause.links = true → ∀ less, Weaker less part →
    (wanting type less).isSatisfiedBy cause.links = true
  /-- Without a text it is satisfied by the failure of a step that an error of the type caused. -/
  downcast : ∀ failure, cause = .failure failure → failure.causeType? = some type →
    (wanting type none).isSatisfiedBy cause.links = true

/-- An expectation of a type, and of a text if one is given, is satisfied by an error exactly when
one single error that it wraps has both. It stays satisfied however the error is wrapped and when
less of the text is asked for, and without a text it is satisfied by the failure of a step that an
error of the type caused. -/
theorem discerns (type : Ty) (part : Option String) (cause : Cause) : Discerns type part cause where
  satisfied := satisfied_iff
  apart h := by
    rw [Bool.eq_false_iff]
    intro hs
    obtain ⟨inner, hw, hfits⟩ := satisfied_iff.1 hs
    exact h inner hw hfits.1 hfits
  wrapped h outer ho := by
    obtain ⟨inner, hw, hfits⟩ := satisfied_iff.1 h
    exact satisfied_iff.2 ⟨inner, ho.trans hw, hfits⟩
  stepped depth := ⟨cause.stepped_wraps depth, cause.message_stepped depth⟩
  weakened h less hless := by
    obtain ⟨inner, hw, hfits⟩ := satisfied_iff.1 h
    exact satisfied_iff.2 ⟨inner, hw, hfits.weaken hless⟩
  downcast := by
    rintro failure rfl h
    cases failure with
    | step source =>
      have hsource : source.Fits type none := ⟨Option.some.inj h, fun _ hnone => nomatch hnone⟩
      exact satisfied_iff.2 ⟨source, .behind rfl (.itself source), hsource⟩
    | _ => cases h

open Script in
/-- An error of the type that was caused by one with the text. -/
example : (wanting (programType "Wrapped" []) (some "gateway")).isSatisfiedBy
    (Script.Cause.wrapped "payment failed" Script.Cause.gatewayTimeout).links = false := by decide

end Expectation

end Storytest
