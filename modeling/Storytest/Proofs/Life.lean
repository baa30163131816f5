import Storytest.Proofs.Following

/-!
# The life of a scenario

A scenario lives through calls made one after the other. `Tidy` is what holds of its notes and of the
steps that wait after any number of calls: every step was invoked at most once, and none that was
invoked waits. `Tidy.turn` keeps it from call to call, `play_noting` over any number of them.
-/

namespace Storytest

variable {σ : Type}

namespace Scenario

variable {config : Config σ} {number : Nat} {waiting next : Waiting σ} {ran : List Note}
  {call : Call σ} {calls : List (Call σ)} {notes : List Note}

/-- However a run goes, it attempts the conditions, the actions and the assertion. -/
theorem Runs.attempts (h : Runs waiting number ran next) :
    Attempts (waiting.numbers ++ [number]) ran := by
  cases h with
  | stopped ha hf =>
    rw [Waiting.numbers, List.append_assoc]
    exact ha.extend hf
  | drained ha => exact ha

/-- A run invokes what waited, or its assertion, and leaves waiting what it did not plan. -/
theorem Runs.sublist (h : Runs waiting number ran next) :
    (ran.map Note.number ++ next.numbers).Sublist (waiting.numbers ++ [number]) := by
  cases h with
  | stopped ha hf =>
    exact (ha.begins.sublist.append (.refl _)).trans (List.sublist_append_left _ _)
  | drained ha => simpa [Waiting.numbers, Waiting.empty, Slot.numbers] using ha.begins.sublist

/-- What waits after a call waited before, or the call made it wait. -/
theorem Turn.mem (h : Turn config number waiting call ran next) {phase : Phase} {slot : Slot σ}
    (hs : slot ∈ next.of phase) :
    slot ∈ waiting.of phase ∨
      slot.number = number ∧ call.registration config = some (phase, slot.entry) := by
  cases h with
  | verifies h =>
    cases h with
    | stopped ha hf =>
      cases phase with
      | action => exact .inl hs
      | _ => cases hs
    | drained ha => cases phase <;> cases hs
  | registers hr =>
    rcases Waiting.mem_place hs with hs | ⟨rfl, rfl⟩
    · exact .inl hs
    · exact .inr ⟨rfl, hr⟩
  | passes hr hv => exact .inl hs

/-- The numbers noted by a call and those waiting afterwards waited before, or are that of the
call. -/
theorem Turn.numbers (h : Turn config number waiting call ran next) :
    ∀ n ∈ ran.map Note.number ++ next.numbers, n ∈ waiting.numbers ∨ n = number := by
  intro n hn
  rcases List.mem_append.1 hn with hran | hnext
  · cases h with
    | verifies h => simpa using h.sublist.subset (List.mem_append_left _ hran)
    | registers hr => cases hran
    | passes hr hv => cases hran
  · obtain ⟨phase, slot, hs, rfl⟩ := Waiting.mem_numbers.1 hnext
    rcases h.mem hs with hs | ⟨hnumber, -⟩
    · exact .inl (Waiting.mem_numbers.2 ⟨phase, slot, hs, rfl⟩)
    · exact .inr hnumber

/-- A step behind one of its phase that failed is not invoked, and does not wait any more. -/
theorem Runs.behind (h : Runs waiting number ran next) (hd : (waiting.numbers ++ [number]).Nodup)
    {phase : Phase} {failed n : Nat} (hs : [failed, n].Sublist (Slot.numbers (waiting.of phase)))
    (hf : ⟨failed, false⟩ ∈ ran) : n ∉ ran.map Note.number ++ next.numbers := by
  have hplanned : (Slot.numbers (waiting.of phase)).Sublist (waiting.numbers ++ [number]) :=
    (waiting.numbers_of_sublist phase).trans (List.sublist_append_left _ _)
  have hran : n ∉ ran.map Note.number := h.attempts.behind hd hf (hs.trans hplanned)
  rw [List.mem_append, not_or]
  refine ⟨hran, fun hn => ?_⟩
  cases h with
  | drained ha => cases hn
  | stopped ha hfalse =>
    -- The failure is one of a condition, and the actions that wait are others.
    have hcondition : failed ∈ Slot.numbers waiting.conditions :=
      ha.begins.subset (List.mem_map.2 ⟨⟨failed, false⟩, hf, rfl⟩)
    have hother := (List.nodup_append.1 (hd.sublist (List.sublist_append_left _ _))).2.2
    cases phase with
    | condition => exact hother n (hs.subset (by simp)) n hn rfl
    | action => exact hother failed hcondition failed (hs.subset (by simp)) rfl
    | assertion => cases hs

/-- A verification is a run. -/
theorem Turn.runs {assertion : Step σ}
    (h : Turn config number waiting (.verify assertion) ran next) : Runs waiting number ran next := by
  cases h with
  | verifies h => exact h
  | registers hr => cases hr
  | passes hr hv => exact absurd rfl (hv assertion)

/-- Any other call invokes nothing. -/
theorem Turn.silent (h : Turn config number waiting call ran next)
    (hv : ∀ assertion, call ≠ .verify assertion) : ran = [] := by
  cases h with
  | verifies h => exact absurd rfl (hv _)
  | registers hr => rfl
  | passes hr hv => rfl

/-- A call that registers a step adds it. -/
theorem Turn.registered {phase : Phase} {entry : Entry σ}
    (h : Turn config number waiting call ran next)
    (hr : call.registration config = some (phase, entry)) :
    ran = [] ∧ next = waiting.place ⟨number, entry⟩ phase := by
  cases h with
  | verifies h => cases hr
  | registers hr' =>
    rw [hr] at hr'
    cases hr'
    exact ⟨rfl, rfl⟩
  | passes hr' hv =>
    rw [hr] at hr'
    cases hr'

/-! ## What holds after any number of calls -/

/-- The invariant: no step was invoked twice and none that was invoked waits, numbers are those of
calls, and what waits is what the call of its number registered. -/
structure Tidy (config : Config σ) (calls : List (Call σ)) (notes : List Note)
    (waiting : Waiting σ) : Prop where
  once : (notes.map Note.number ++ waiting.numbers).Nodup
  made : ∀ n ∈ notes.map Note.number ++ waiting.numbers, n < calls.length
  registered : ∀ phase, ∀ slot ∈ waiting.of phase, ∃ call, calls[slot.number]? = some call ∧
    call.registration config = some (phase, slot.entry)

/-- The invariant holds before any call. -/
theorem tidy_nil : Tidy config [] [] .empty where
  once := List.nodup_nil
  made := by simp [Waiting.numbers, Waiting.empty, Slot.numbers]
  registered := by
    intro phase slot hs
    cases phase <;> cases hs

/-- Calls that were not made change nothing. -/
theorem Tidy.mono (h : Tidy config calls notes waiting) (more : List (Call σ)) :
    Tidy config (calls ++ more) notes waiting where
  once := h.once
  made n hn := by
    rw [List.length_append]
    exact Nat.lt_add_right _ (h.made n hn)
  registered phase slot hs := by
    obtain ⟨call, hc, hr⟩ := h.registered phase slot hs
    obtain ⟨hlt, -⟩ := List.getElem?_eq_some_iff.1 hc
    exact ⟨call, by rw [List.getElem?_append_left hlt, hc], hr⟩

/-- The next call has a number of its own. -/
theorem Tidy.fresh (h : Tidy config calls notes waiting) :
    calls.length ∉ notes.map Note.number ++ waiting.numbers :=
  fun hn => Nat.lt_irrefl _ (h.made _ hn)

/-- What a verification plans was not invoked, and is planned once. -/
theorem Tidy.planned (h : Tidy config calls notes waiting) :
    (notes.map Note.number ++ (waiting.numbers ++ [calls.length])).Nodup := by
  rw [← List.append_assoc]
  refine List.nodup_append.2 ⟨h.once, by simp, ?_⟩
  rintro n hn m hm rfl
  obtain rfl := List.mem_singleton.1 hm
  exact h.fresh hn

/-- A call keeps the invariant. -/
theorem Tidy.turn (h : Tidy config calls notes waiting)
    (ht : Turn config calls.length waiting call ran next) :
    Tidy config (calls ++ [call]) (notes ++ ran) next where
  once := by
    cases ht with
    | verifies hr =>
      -- What is noted and what goes on waiting was planned.
      rw [List.map_append, List.append_assoc]
      exact h.planned.sublist ((List.Sublist.refl _).append hr.sublist)
    | registers hr =>
      rw [List.append_nil]
      exact Waiting.nodup_place _ h.once h.fresh
    | passes hr hv =>
      rw [List.append_nil]
      exact h.once
  made n hn := by
    rw [List.length_append, List.length_singleton]
    rw [List.map_append, List.append_assoc, List.mem_append] at hn
    rcases hn with hn | hn
    · exact Nat.lt_succ_of_lt (h.made n (List.mem_append_left _ hn))
    · rcases ht.numbers n hn with hn | rfl
      · exact Nat.lt_succ_of_lt (h.made n (List.mem_append_right _ hn))
      · exact Nat.lt_succ_self _
  registered phase slot hs := by
    rcases ht.mem hs with hs | ⟨hnumber, hr⟩
    · exact (h.mono [call]).registered phase slot hs
    · exact ⟨call, by rw [hnumber, List.getElem?_concat_length], hr⟩

/-- A step that is replaced does not wait any more. -/
theorem Tidy.replaced {noted : Scenario (Noted σ)} {plain : Scenario σ}
    (h : Tidy config calls notes waiting) (hf : Follows config waiting noted plain) {phase : Phase}
    {entry : Entry σ} {slot : Slot σ} (hs : slot ∈ waiting.of phase)
    (hkey : slot.entry.key = entry.key) (hsome : entry.key ≠ none) :
    slot.number ∉ (waiting.place ⟨calls.length, entry⟩ phase).numbers := by
  have hd : waiting.numbers.Nodup := h.once.sublist (List.sublist_append_right _ _)
  have hnew : calls.length ∉ waiting.numbers := fun hn => h.fresh (List.mem_append_right _ hn)
  rw [Waiting.numbers, List.nodup_append] at hd
  rw [Waiting.numbers, List.mem_append, not_or] at hnew
  obtain ⟨hconditions, hactions, hdisjoint⟩ := hd
  rw [Waiting.numbers, List.mem_append, not_or]
  cases phase with
  | condition =>
    refine ⟨Slot.replaced_place hf.conditions hconditions hnew.1 hs hkey hsome, fun hn => ?_⟩
    exact hdisjoint _ (List.mem_map_of_mem hs) _ hn rfl
  | action =>
    refine ⟨fun hn => ?_, Slot.replaced_place hf.actions hactions hnew.2 hs hkey hsome⟩
    exact hdisjoint _ hn _ (List.mem_map_of_mem hs) rfl
  | assertion => cases hs

/-! ## The life of a scenario -/

/-- Makes calls in order on noting steps, numbered from a number on, up to the first call that does
not return. -/
def playNoting (config : Config σ) (number : Nat) (scenario : Scenario (Noted σ))
    (world : Noted σ) : List (Call σ) → Report (Noted σ) (Scenario (Noted σ))
  | [] => .done scenario world
  | call :: rest =>
    let report := callNoting config number scenario world call
    match report.result with
    | .ok next => (playNoting config (number + 1) next report.world rest).after report.events
    | .error halt => ⟨.error halt, report.world, report.events⟩

section

variable {number : Nat} {scenario reached : Scenario (Noted σ)} {world : Noted σ}

/-- Calls made after a call that returned. -/
theorem playNoting_cons (h : (callNoting config number scenario world call).result = .ok reached)
    (rest : List (Call σ)) :
    playNoting config number scenario world (call :: rest) =
      (playNoting config (number + 1) reached (callNoting config number scenario world call).world
        rest).after (callNoting config number scenario world call).events := by
  rw [playNoting, h]

/-- A call that does not return is the last one. -/
theorem playNoting_cons_error {halt : Halt}
    (h : (callNoting config number scenario world call).result = .error halt)
    (rest : List (Call σ)) :
    playNoting config number scenario world (call :: rest) =
      callNoting config number scenario world call := by
  simp only [playNoting, h]
  rw [← h]

/-- One call alone. -/
theorem playNoting_single (number : Nat) (scenario : Scenario (Noted σ)) (world : Noted σ)
    (call : Call σ) :
    playNoting config number scenario world [call] =
      callNoting config number scenario world call := by
  cases h : (callNoting config number scenario world call).result with
  | ok next =>
    rw [playNoting_cons h, playNoting, Report.done, Report.after, List.append_nil, ← h]
  | error halt => exact playNoting_cons_error h []

/-- Calls made after calls that returned. -/
theorem playNoting_append {before : List (Call σ)} (rest : List (Call σ)) :
    ∀ {number : Nat} {scenario : Scenario (Noted σ)} {world : Noted σ},
    (playNoting config number scenario world before).result = .ok reached →
    playNoting config number scenario world (before ++ rest) =
      (playNoting config (number + before.length) reached
        (playNoting config number scenario world before).world rest).after
        (playNoting config number scenario world before).events := by
  induction before with
  | nil =>
    intro number scenario world h
    obtain rfl : scenario = reached := Except.ok.inj h
    rfl
  | cons call before ih =>
    intro number scenario world h
    cases hc : (callNoting config number scenario world call).result with
    | error halt =>
      rw [playNoting_cons_error hc, hc] at h
      cases h
    | ok next =>
      rw [playNoting_cons hc] at h
      rw [List.cons_append, playNoting_cons hc, playNoting_cons hc, ih h, Report.after_after,
        List.length_cons, Nat.add_comm before.length, ← Nat.add_assoc]
      rfl

end

/-- The life of a scenario, its steps numbered by the calls that they come with. -/
def live (config : Config σ) (world : σ) (calls : List (Call σ)) :
    Report (Noted σ) (Scenario (Noted σ)) :=
  playNoting config 0 (fresh (config.noting 0)) ⟨world, []⟩ calls

/-- The invocations in the life of a scenario. -/
def life (config : Config σ) (world : σ) (calls : List (Call σ)) : List Note :=
  (live config world calls).world.notes

/-- Calls that come after other events. -/
theorem Alike.after {noted : Report (Noted σ) (Scenario (Noted σ))}
    {plain : Report σ (Scenario σ)} (h : Alike config waiting notes noted plain)
    (events : List Event) : Alike config waiting notes (noted.after events) (plain.after events) :=
  ⟨h.world, congrArg (events ++ ·) h.events, h.result⟩

/-- Calls on noting steps do what the calls on the steps do, and keep the invariant. A number that
neither waits nor is still to come is not noted. -/
theorem play_noting (rest : List (Call σ)) : ∀ {calls : List (Call σ)} {waiting : Waiting σ}
    {noted : Scenario (Noted σ)} {plain : Scenario σ} {world : Noted σ},
    Follows config waiting noted plain → Tidy config calls world.notes waiting →
    ∃ ran next, Alike config next (world.notes ++ ran)
        (playNoting config calls.length noted world rest) (plain.play world.world rest) ∧
      Tidy config (calls ++ rest) (world.notes ++ ran) next ∧
      ∀ n < calls.length, n ∉ waiting.numbers → n ∉ ran.map Note.number := by
  -- On the calls still to be made: what waits changes with each of them.
  induction rest with
  | nil =>
    intro calls waiting noted plain world hf ht
    refine ⟨[], waiting, .silent world hf [], ?_, by simp⟩
    rw [List.append_nil, List.append_nil]
    exact ht
  | cons call rest ih =>
    intro calls waiting noted plain world hf ht
    obtain ⟨ran, next, hturn, ha⟩ := callNoting_alike hf calls.length call world
    have ht' := ht.turn hturn
    -- A number that does not wait is not noted by this call, and does not wait after it.
    have hspent : ∀ n < calls.length, n ∉ waiting.numbers →
        n ∉ ran.map Note.number ++ next.numbers := by
      intro n hn hw hm
      rcases hturn.numbers n hm with hm | rfl
      · exact hw hm
      · exact Nat.lt_irrefl _ hn
    rcases ha.result with ⟨halt, hnoted, hplain⟩ | ⟨after, plainAfter, hnoted, hplain, hnext⟩
    · refine ⟨ran, next, ?_, ?_, fun n hn hw hm => hspent n hn hw (List.mem_append_left _ hm)⟩
      · rw [playNoting_cons_error hnoted, play_cons_error hplain]
        exact ha
      · rw [List.append_cons]
        exact ht'.mono rest
    · obtain ⟨more, last, ha', htlast, hmore⟩ :=
        @ih (calls ++ [call]) next after plainAfter
          ⟨(plain.call world.world call).world, world.notes ++ ran⟩ hnext ht'
      rw [List.length_append, List.length_singleton] at ha' hmore
      refine ⟨ran ++ more, last, ?_, ?_, ?_⟩
      · rw [playNoting_cons hnoted, play_cons hplain, ha.world, ha.events, ← List.append_assoc]
        exact ha'.after _
      · rw [List.append_cons, ← List.append_assoc]
        exact htlast
      · intro n hn hw hm
        rw [List.map_append, List.mem_append] at hm
        rcases hm with hm | hm
        · exact hspent n hn hw (List.mem_append_left _ hm)
        · exact hmore n (Nat.lt_succ_of_lt hn)
            (fun hm => hspent n hn hw (List.mem_append_right _ hm)) hm

/-- Noting goes along from the start. -/
theorem follows_fresh (config : Config σ) :
    Follows config .empty (fresh (config.noting 0)) (fresh config) :=
  ⟨rfl, rfl, rfl, rfl, rfl, rfl, rfl⟩

/-- The life of a scenario is that of its steps, and keeps the invariant. -/
theorem live_tidy (config : Config σ) (world : σ) (calls : List (Call σ)) :
    ∃ waiting, Alike config waiting (life config world calls) (live config world calls)
        ((fresh config).play world calls) ∧
      Tidy config calls (life config world calls) waiting := by
  obtain ⟨ran, waiting, ha, ht, -⟩ :=
    @play_noting σ config calls [] .empty _ _ ⟨world, []⟩ (follows_fresh config) tidy_nil
  have hran : life config world calls = ran := congrArg Noted.notes ha.world
  rw [hran]
  exact ⟨waiting, ha, ht⟩

/-- A call in the life of a scenario after others that returned: what waits when it is made, the notes
taken meanwhile, and what waits afterwards. -/
theorem live_call {before : List (Call σ)} {world : σ} {noted : Scenario (Noted σ)}
    {plain : Scenario σ} (hn : (live config world before).result = .ok noted)
    (hp : ((fresh config).play world before).result = .ok plain)
    (ha : Alike config waiting (life config world before) (live config world before)
      ((fresh config).play world before))
    (hf : Follows config waiting noted plain)
    (ht : Tidy config before (life config world before) waiting) (call : Call σ) :
    ∃ ran next, Turn config before.length waiting call ran next ∧
      life config world (before ++ [call]) = life config world before ++ ran ∧
      Alike config next (life config world before ++ ran) (live config world (before ++ [call]))
        ((fresh config).play world (before ++ [call])) ∧
      ∀ after, ∃ more,
        life config world (before ++ call :: after) = life config world before ++ ran ++ more ∧
        ∀ n < before.length, n ∉ next.numbers → n ∉ more.map Note.number := by
  obtain ⟨ran, next, hturn, hcall⟩ :=
    callNoting_alike hf before.length call (live config world before).world
  -- The call is made on what the calls before it left.
  have hlive : ∀ rest, live config world (before ++ rest) =
      (playNoting config before.length noted (live config world before).world rest).after
        (live config world before).events := by
    intro rest
    have happend := playNoting_append rest hn
    rw [Nat.zero_add] at happend
    exact happend
  have hplay := fun rest => play_append rest hp
  have hworld : ((fresh config).play world before).world = (live config world before).world.world := by
    rw [ha.world]
  have halike : Alike config next (life config world before ++ ran)
      (live config world (before ++ [call])) ((fresh config).play world (before ++ [call])) := by
    rw [hlive, hplay, playNoting_single, play_single, hworld, ← ha.events]
    exact hcall.after _
  refine ⟨ran, next, hturn, congrArg Noted.notes halike.world, halike, fun after => ?_⟩
  unfold life
  rw [hlive (call :: after)]
  rcases hcall.result with ⟨halt, hstop, -⟩ | ⟨reached, reachedPlain, hnext, hnextPlain, hfollows⟩
  · rw [playNoting_cons_error hstop]
    exact ⟨[], by rw [List.append_nil]; exact congrArg Noted.notes hcall.world, by simp⟩
  · obtain ⟨more, last, hmore, -, hspent⟩ :=
      @play_noting σ config after (before ++ [call]) next reached reachedPlain
        ⟨(plain.call (live config world before).world.world call).world,
          (live config world before).world.notes ++ ran⟩ hfollows (ht.turn hturn)
    rw [List.length_append, List.length_singleton] at hmore hspent
    rw [playNoting_cons hnext, hcall.world]
    exact ⟨more, congrArg Noted.notes hmore.world, fun n hn => hspent n (Nat.lt_succ_of_lt hn)⟩

end Scenario

end Storytest
