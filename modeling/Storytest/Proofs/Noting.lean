import Storytest.Proofs.Run

/-!
# Noting invocations

Steps that note their own invocations show what a phase invokes, in which order and with what
success. A note carries a number, which tells the steps of a scenario apart. Noting changes nothing
else: `evaluate_noting` gives the phase of noting steps in terms of the phase of the steps themselves,
and its notes in terms of the steps that were waiting.
-/

namespace Storytest

/-- An invocation: the number of the step, and whether it returned. -/
structure Note where
  number : Nat
  returned : Bool

/-- A shared state with the notes of all invocations so far. -/
structure Noted (σ : Type) where
  world : σ
  notes : List Note

/-- The report, with a state that has these notes. -/
def Report.withNotes {σ α : Type} (report : Report σ α) (notes : List Note) : Report (Noted σ) α :=
  ⟨report.result, ⟨report.world, notes⟩, report.events⟩

/-- Planned steps were invoked one after the other, up to the first that did not return. -/
inductive Attempts : List Nat → List Note → Prop
  | done : Attempts [] []
  | returned {n : Nat} {planned : List Nat} {notes : List Note} :
      Attempts planned notes → Attempts (n :: planned) (⟨n, true⟩ :: notes)
  | failed {n : Nat} {planned : List Nat} : Attempts (n :: planned) [⟨n, false⟩]

namespace Attempts

variable {planned others : List Nat} {notes more : List Note}

/-- What was invoked is the beginning of what was planned. -/
theorem begins (h : Attempts planned notes) : notes.map Note.number <+: planned := by
  induction h with
  | done => exact List.prefix_rfl
  | returned _ ih => exact List.prefix_cons_inj _ |>.2 ih
  | failed => exact ⟨_, rfl⟩

/-- More may be planned behind a step that failed. -/
theorem extend (h : Attempts planned notes) (hf : notes.all Note.returned = false) :
    Attempts (planned ++ others) notes := by
  induction h with
  | done => cases hf
  | returned _ ih => exact .returned (ih hf)
  | failed => exact .failed

/-- More is invoked behind steps that returned. -/
theorem append (h : Attempts planned notes) (hr : notes.all Note.returned = true)
    (hm : Attempts others more) : Attempts (planned ++ others) (notes ++ more) := by
  induction h with
  | done => exact hm
  | returned _ ih => exact .returned (ih hr)
  | failed => cases hr

/-- One step was planned and invoked. -/
theorem single (n : Nat) (returned : Bool) : Attempts [n] [⟨n, returned⟩] := by
  cases returned with
  | true => exact .returned .done
  | false => exact .failed

/-- What is planned behind a step that failed was not invoked. -/
theorem behind (h : Attempts planned notes) (hd : planned.Nodup) {failed n : Nat}
    (hf : ⟨failed, false⟩ ∈ notes) (hs : [failed, n].Sublist planned) :
    n ∉ notes.map Note.number := by
  induction h with
  | done => cases hf
  | @returned m planned notes h ih =>
    obtain ⟨hm, hd⟩ := List.nodup_cons.1 hd
    replace hf : ⟨failed, false⟩ ∈ notes := by simpa using hf
    cases hs with
    | cons _ hs =>
      rw [List.map_cons, List.mem_cons, not_or]
      refine ⟨?_, ih hd hf hs⟩
      rintro rfl
      exact hm (hs.subset (by simp))
    | cons_cons _ hs =>
      have hin : failed ∈ planned := h.begins.subset (List.mem_map.2 ⟨⟨failed, false⟩, hf, rfl⟩)
      exact absurd hin hm
  | @failed m planned =>
    obtain rfl : failed = m := by simpa using hf
    have hne : failed ≠ n := by simpa using hd.sublist hs
    simpa using hne.symm

end Attempts

/-! ## Noting steps -/

variable {σ : Type}

/-- The step, which also notes its invocations under a number. -/
def Step.noting (number : Nat) (step : Step σ) : Step (Noted σ) where
  signature := step.signature
  call args world :=
    let (result, after) := step.call args world.world
    (result, ⟨after, world.notes ++ [⟨number, result.isOk⟩]⟩)

/-- A step that notes does what the step does. -/
theorem Step.invoke_noting (number : Nat) {step : Step σ} {values : List Value} {world : Noted σ}
    {result : Except Halt (Option Value)} {after : σ}
    (h : step.invoke values world.world = (result, after)) :
    (step.noting number).invoke values world =
      (result, ⟨after, world.notes ++ [⟨number, result.isOk⟩]⟩) := by
  have hn : (step.noting number).invoke values world =
      ((step.invoke values world.world).1,
        ⟨(step.invoke values world.world).2,
          world.notes ++ [⟨number, (step.invoke values world.world).1.isOk⟩]⟩) := rfl
  rw [hn, h]

/-! ## Waiting steps -/

/-- In a registry, no other step waits under the key of a step. -/
theorem Registry.key_ne_of_split {registry : Registry σ} {before after : List (Entry σ)}
    {entry : Entry σ} {name : String} (h : registry.entries = before ++ entry :: after)
    (hk : entry.key = some name) : ∀ other ∈ before ++ after, other.key ≠ some name := by
  have hd := registry.distinct
  rw [h, List.filterMap_append, List.filterMap_cons_some hk, List.perm_middle.nodup_iff,
    List.nodup_cons, ← List.filterMap_append] at hd
  intro other ho he
  exact hd.1 (List.mem_filterMap.2 ⟨other, ho, he⟩)

/-- A waiting step with its number. -/
structure Slot (σ : Type) where
  number : Nat
  entry : Entry σ

namespace Slot

/-- The waiting step, noting its invocations. -/
def noting (slot : Slot σ) : Entry (Noted σ) :=
  ⟨slot.entry.key, slot.entry.step.noting slot.number⟩

/-- The numbers of waiting steps. -/
def numbers (slots : List (Slot σ)) : List Nat :=
  slots.map Slot.number

/-- Adds a step: in the place of the one that waits under its key, or else behind all others. -/
def place (new : Slot σ) : List (Slot σ) → List (Slot σ)
  | [] => [new]
  | slot :: rest =>
    if slot.entry.key = new.entry.key ∧ new.entry.key ≠ none then new :: rest
    else slot :: place new rest

/-- A step that is added waits behind all others, or in the place of one with its key. -/
theorem place_cases (new : Slot σ) (slots : List (Slot σ)) :
    (place new slots = slots ++ [new] ∧
      ∀ slot ∈ slots, new.entry.key ≠ none → slot.entry.key ≠ new.entry.key) ∨
    ∃ before old after, slots = before ++ old :: after ∧ place new slots = before ++ new :: after ∧
      old.entry.key = new.entry.key ∧ new.entry.key ≠ none := by
  induction slots with
  | nil => exact .inl ⟨rfl, by simp⟩
  | cons slot rest ih =>
    unfold place
    by_cases h : slot.entry.key = new.entry.key ∧ new.entry.key ≠ none
    · rw [if_pos h]
      exact .inr ⟨[], slot, rest, rfl, rfl, h⟩
    · rw [if_neg h]
      rcases ih with ⟨hp, hn⟩ | ⟨before, old, after, rfl, hp, hk⟩
      · refine .inl ⟨by rw [hp]; rfl, ?_⟩
        intro other ho hsome hkey
        rcases List.mem_cons.1 ho with rfl | ho
        · exact h ⟨hkey, hsome⟩
        · exact hn other ho hsome hkey
      · exact .inr ⟨slot :: before, old, after, rfl, by rw [hp]; rfl, hk⟩

/-- Steps that wait after one was added waited before, or are that one. -/
theorem mem_place {new slot : Slot σ} {slots : List (Slot σ)} (h : slot ∈ place new slots) :
    slot ∈ slots ∨ slot = new := by
  rcases place_cases new slots with ⟨hp, -⟩ | ⟨before, old, after, rfl, hp, -⟩
  · rw [hp] at h
    simpa using h
  · rw [hp] at h
    simp only [List.mem_append, List.mem_cons] at h ⊢
    rcases h with h | h | h
    · exact .inl (.inl h)
    · exact .inr h
    · exact .inl (.inr (.inr h))

/-- A new number keeps numbers distinct, also next to others. -/
theorem nodup_place {new : Slot σ} {slots : List (Slot σ)} {left right : List Nat}
    (hd : (left ++ numbers slots ++ right).Nodup)
    (hn : new.number ∉ left ++ numbers slots ++ right) :
    (left ++ numbers (place new slots) ++ right).Nodup := by
  rcases place_cases new slots with ⟨hp, -⟩ | ⟨before, old, after, rfl, hp, -⟩
  · rw [hp]
    unfold numbers at *
    grind
  · rw [hp]
    unfold numbers at *
    grind

/-- A step that is replaced does not wait any more. -/
theorem replaced_place {registry : Registry σ} {new old : Slot σ} {slots : List (Slot σ)}
    (h : registry.entries = slots.map Slot.entry) (hd : (numbers slots).Nodup)
    (hn : new.number ∉ numbers slots) (ho : old ∈ slots) (hkey : old.entry.key = new.entry.key)
    (hsome : new.entry.key ≠ none) : old.number ∉ numbers (place new slots) := by
  rcases place_cases new slots with ⟨-, hother⟩ | ⟨before, other, after, rfl, hp, hk, -⟩
  · exact absurd hkey (hother old ho hsome)
  · obtain ⟨name, hname⟩ := Option.ne_none_iff_exists'.1 hsome
    rw [List.map_append, List.map_cons] at h
    have halone := Registry.key_ne_of_split h (hk.trans hname)
    -- The one replaced is the only one under its key.
    obtain rfl : old = other := by
      have hrest : old.entry ∉ before.map Slot.entry ++ after.map Slot.entry :=
        fun hm => halone _ hm (hkey.trans hname)
      grind
    rw [hp]
    unfold numbers at *
    grind

variable {τ : Type} {f : Slot σ → Entry τ} {registry : Registry τ} {slots : List (Slot σ)}
  {new : Slot σ} {step : Step τ}

/-- Adding a step without a key, where waiting steps stand for the entries of a registry. -/
theorem push_entries (hf : ∀ slot, (f slot).key = slot.entry.key)
    (h : registry.entries = slots.map f) (hn : f new = ⟨none, step⟩) :
    (registry.push step).entries = (place new slots).map f := by
  have hkey : new.entry.key = none := by rw [← hf, hn]
  rcases place_cases new slots with ⟨hp, -⟩ | ⟨_, _, _, -, -, -, hsome⟩
  · rw [hp, List.map_append, List.map_singleton, hn, ← h]
    rfl
  · exact absurd hkey hsome

/-- Adding a step under a key, where waiting steps stand for the entries of a registry. -/
theorem put_entries (hf : ∀ slot, (f slot).key = slot.entry.key)
    (h : registry.entries = slots.map f) {name : String} (hn : f new = ⟨some name, step⟩)
    (he : name ≠ "") : (registry.put name step he).entries = (place new slots).map f := by
  have hkey : new.entry.key = some name := by rw [← hf, hn]
  unfold Registry.put
  rcases place_cases new slots with ⟨hp, hother⟩ | ⟨before, old, after, rfl, hp, hold, -⟩
  · have habsent : some name ∉ registry.entries.map Entry.key := by
      rw [h, List.map_map]
      intro hin
      obtain ⟨slot, hs, hk⟩ := List.mem_map.1 hin
      refine hother slot hs (by simp [hkey]) ?_
      rw [hkey, ← hk]
      exact (hf slot).symm
    rw [dif_neg habsent, hp, List.map_append, List.map_singleton, hn, ← h]
  · rw [List.map_append, List.map_cons] at h
    have hfold : (f old).key = some name := by rw [hf, hold, hkey]
    have hpresent : some name ∈ registry.entries.map Entry.key := by
      rw [h, List.map_append, List.map_cons, hfold]
      exact List.mem_append_right _ List.mem_cons_self
    have hstays : ∀ entry ∈ before.map f ++ after.map f,
        Registry.replaceStep name step entry = entry :=
      fun entry hm => if_neg (Registry.key_ne_of_split h hfold entry hm)
    have htakes : Registry.replaceStep name step (f old) = ⟨some name, step⟩ := by
      rw [Registry.replaceStep, if_pos hfold, hfold]
    rw [dif_pos hpresent, hp, List.map_append, List.map_cons, hn]
    simp only [h, List.map_append, List.map_cons, htakes]
    rw [List.map_congr_left fun entry hm => hstays entry (List.mem_append_left _ hm),
      List.map_congr_left fun entry hm => hstays entry (List.mem_append_right _ hm),
      List.map_id', List.map_id']

/-- Adding a step, where waiting steps stand for the entries of a registry. -/
theorem add_entries (hf : ∀ slot, (f slot).key = slot.entry.key)
    (h : registry.entries = slots.map f) {key : Option String}
    (hn : f new = ⟨key.filter (· ≠ ""), step⟩) :
    (registry.add step key).entries = (place new slots).map f := by
  cases key with
  | none => exact push_entries hf h hn
  | some name =>
    by_cases he : name = ""
    · subst he
      exact push_entries hf h hn
    · rw [Option.filter_some, if_pos (decide_eq_true he)] at hn
      simp only [Registry.add, he, dite_false]
      exact put_entries hf h hn he

end Slot

/-! ## Noting runs -/

/-- A phase of noting steps gives and reports what the phase of the steps does. Its notes are those
of its steps up to the first that failed, and none failed exactly when the phase passed. -/
theorem evaluate_noting (phase : Phase) (slots : List (Slot σ)) :
    ∀ (store : Store) (world : Noted σ), ∃ ran, Attempts (Slot.numbers slots) ran ∧
      ran.all Note.returned = (evaluate phase (slots.map Slot.entry) store world.world).result.isOk ∧
      evaluate phase (slots.map Slot.noting) store world =
        (evaluate phase (slots.map Slot.entry) store world.world).withNotes (world.notes ++ ran) := by
  induction slots with
  | nil =>
    intro store world
    exact ⟨[], .done, rfl, by simp [evaluate, Report.done, Report.withNotes]⟩
  | cons slot slots ih =>
    intro store world
    obtain ⟨number, key, step⟩ := slot
    simp only [List.map_cons, evaluate, Slot.noting, Slot.numbers]
    cases hi : step.invoke (step.signature.arguments store) world.world with
    | mk result after =>
      rw [show (step.noting number).signature = step.signature from rfl,
        Step.invoke_noting number hi]
      cases result with
      | error halt => exact ⟨[⟨number, false⟩], .failed, rfl, rfl⟩
      | ok given =>
        -- The rest runs on the store and the state that this step leaves.
        cases given with
        | none =>
          obtain ⟨ran, ha, hr, he⟩ := ih store ⟨after, world.notes ++ [⟨number, true⟩]⟩
          refine ⟨⟨number, true⟩ :: ran, .returned ha, hr, ?_⟩
          simp only [Except.isOk, Except.toBool, he, Report.after, Report.withNotes,
            List.append_assoc, List.singleton_append]
        | some value =>
          obtain ⟨ran, ha, hr, he⟩ :=
            ih (store.keep key value) ⟨after, world.notes ++ [⟨number, true⟩]⟩
          refine ⟨⟨number, true⟩ :: ran, .returned ha, hr, ?_⟩
          simp only [Except.isOk, Except.toBool, he, Report.after, Report.withNotes,
            List.append_assoc, List.singleton_append]

/-- An assertion that notes its invocation gives and reports what the assertion does. -/
theorem assertOn_noting (number : Nat) (assertion : Step σ) (store : Store) (world : Noted σ) :
    ∃ returned, (assertion.noting number).assertOn store world =
      (assertion.assertOn store world.world).withNotes (world.notes ++ [⟨number, returned⟩]) :=
  ⟨_, rfl⟩

end Storytest
