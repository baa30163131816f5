import Mathlib.Data.List.Induction
import Mathlib.Data.List.TakeWhile
import Storytest.Proofs.Life
import Storytest.Script.Provider
import Storytest.Script.Step

/-!
# Authentication before the conditions that follow

The step that authenticates a principal waits among the conditions like any other. Conditions that
are added later wait behind it, unless they replace one that waits in front of it (`Behind`, kept by
every call that does not verify). `authenticated_before_iff`: a condition added later that is
invoked finds the principal authenticated exactly when it does not overtake the authentication in
this way.
-/

namespace Storytest

variable {σ : Type}

/-! ## Attempts in order -/

/-- In a list without repetitions, of two elements one comes first. -/
theorem not_sublist_swap {α : Type} {items : List α} (hd : items.Nodup) {first second : α}
    (h : [first, second].Sublist items) : ¬[second, first].Sublist items := by
  induction items with
  | nil => cases h
  | cons item items ih =>
    obtain ⟨habsent, hd⟩ := List.nodup_cons.1 hd
    intro hs
    cases h with
    | cons _ h =>
      cases hs with
      | cons _ hs => exact ih hd h hs
      | cons_cons _ hs => exact habsent (h.subset (by simp))
    | cons_cons _ h =>
      cases hs with
      | cons _ hs => exact habsent (hs.subset (by simp))
      | cons_cons _ hs => exact habsent (h.subset (by simp))

/-- Of two steps planned in this order, the first has returned when the second is invoked. -/
theorem Attempts.returned_before {planned : List Nat} {notes : List Note}
    (h : Attempts planned notes) (hd : planned.Nodup) {first second : Nat} {returned : Bool}
    (hs : [first, second].Sublist planned) (hm : ⟨second, returned⟩ ∈ notes) :
    [⟨first, true⟩, ⟨second, returned⟩].Sublist notes := by
  induction h with
  | done => cases hm
  | @returned n planned notes h ih =>
    obtain ⟨habsent, hd⟩ := List.nodup_cons.1 hd
    -- The second step is not the one at hand, which is planned once.
    have hlater : second ∈ planned → (⟨second, returned⟩ : Note) ∈ notes := by
      intro hin
      rcases List.mem_cons.1 hm with he | hm
      · cases he
        exact absurd hin habsent
      · exact hm
    cases hs with
    | cons _ hs => exact (ih hd hs (hlater (hs.subset (by simp)))).cons _
    | cons_cons _ hs =>
      exact (List.singleton_sublist.2 (hlater (List.singleton_sublist.1 hs))).cons_cons _
  | @failed n planned =>
    obtain ⟨habsent, -⟩ := List.nodup_cons.1 hd
    obtain ⟨rfl, -⟩ : second = n ∧ returned = false := by simpa using hm
    cases hs with
    | cons _ hs => exact absurd (hs.subset (by simp)) habsent
    | cons_cons _ hs => exact absurd (hs.subset (by simp)) habsent

/-! ## Slots in front of another one -/

/-- The entries behind which a step comes to wait that is added under a key: those in front of the
one that it replaces, or else all. -/
def ahead (key : Option String) (entries : List (Entry σ)) : List (Entry σ) :=
  entries.takeWhile fun entry => entry.key ≠ key ∨ key = none

/-- A condition with the second key replaces one that waits in front of the step added under the
first key. -/
def Overtakes (entries : List (Entry σ)) (key later : Option String) : Prop :=
  later ≠ none ∧ later ∈ (ahead key entries).map Entry.key

namespace Slot

variable {new guard slot : Slot σ} {slots front rest : List (Slot σ)}

/-- The keys of waiting steps, in order. -/
def keys (slots : List (Slot σ)) : List (Option String) :=
  slots.map fun slot => slot.entry.key

/-- A step that replaces another one leaves the keys as they are. -/
theorem keys_place (hsome : new.entry.key ≠ none) (hin : new.entry.key ∈ keys slots) :
    keys (place new slots) = keys slots := by
  rcases place_cases new slots with ⟨-, hother⟩ | ⟨before, old, after, rfl, hp, hkey, -⟩
  · obtain ⟨slot, hs, hkey⟩ := List.mem_map.1 hin
    exact absurd hkey (hother slot hs hsome)
  · rw [hp]
    simp [keys, hkey]

/-- A step that is added replaces one of those in front, or is added among the rest. -/
theorem place_append (new : Slot σ) (front rest : List (Slot σ)) :
    (new.entry.key ≠ none ∧ new.entry.key ∈ keys front ∧
        place new (front ++ rest) = place new front ++ rest) ∨
      (new.entry.key ≠ none → new.entry.key ∉ keys front) ∧
        place new (front ++ rest) = front ++ place new rest := by
  induction front with
  | nil => exact .inr ⟨by simp [keys], rfl⟩
  | cons slot front ih =>
    rw [List.cons_append, place, place]
    by_cases h : slot.entry.key = new.entry.key ∧ new.entry.key ≠ none
    · rw [if_pos h, if_pos h]
      exact .inl ⟨h.2, by simp [keys, h.1], rfl⟩
    · rw [if_neg h, if_neg h]
      rcases ih with ⟨hsome, hin, hp⟩ | ⟨hout, hp⟩
      · exact .inl ⟨hsome, List.mem_cons_of_mem _ hin, by rw [hp]; rfl⟩
      · refine .inr ⟨fun hsome hin => ?_, by rw [hp]; rfl⟩
        rcases List.mem_cons.1 hin with he | hin
        · exact h ⟨he.symm, hsome⟩
        · exact hout hsome hin

/-- A step waits behind steps of these keys, of which those without a key were added before it. No
step behind it has one of these keys. -/
def Behind (names : List (Option String)) (guard : Slot σ) (slots : List (Slot σ)) : Prop :=
  ∃ front rest, slots = front ++ guard :: rest ∧ keys front = names ∧
    (∀ slot ∈ front, slot.entry.key = none → slot.number < guard.number) ∧
    ∀ slot ∈ rest, slot.entry.key ≠ none → slot.entry.key ∉ names

/-- Steps added later, under other keys, leave a step behind the same keys. -/
theorem Behind.place {names : List (Option String)} (h : Behind names guard slots)
    (hkey : new.entry.key ≠ none → new.entry.key ≠ guard.entry.key) :
    Behind names guard (place new slots) := by
  obtain ⟨front, rest, rfl, rfl, hfront, hrest⟩ := h
  rcases place_append new front (guard :: rest) with ⟨hsome, hin, hp⟩ | ⟨hout, hp⟩
  · refine ⟨_, rest, hp, keys_place hsome hin, fun slot hs hnone => ?_, hrest⟩
    rcases mem_place hs with hs | rfl
    · exact hfront slot hs hnone
    · exact absurd hnone hsome
  · have hpass : Slot.place new (guard :: rest) = guard :: Slot.place new rest :=
      if_neg fun h => hkey h.2 h.1.symm
    refine ⟨front, _, by rw [hp, hpass], rfl, hfront, fun slot hs hsome => ?_⟩
    rcases mem_place hs with hs | rfl
    · exact hrest slot hs hsome
    · exact hout hsome

/-- A step that is added waits behind the steps in front of the one that it replaces, or all. -/
theorem behind_place {registry : Registry σ} (h : registry.entries = slots.map Slot.entry)
    (hn : ∀ slot ∈ slots, slot.number < new.number) :
    Behind ((ahead new.entry.key registry.entries).map Entry.key) new (place new slots) := by
  rw [h, ahead]
  rcases place_cases new slots with ⟨hp, hother⟩ | ⟨before, old, after, rfl, hp, hkey, hsome⟩
  · refine ⟨slots, [], hp, ?_, fun slot hs _ => hn slot hs, by simp⟩
    rw [List.takeWhile_eq_self_iff.2]
    · simp [keys]
    · intro entry hm
      obtain ⟨slot, hs, rfl⟩ := List.mem_map.1 hm
      rw [decide_eq_true_eq]
      by_cases hnone : new.entry.key = none
      · exact .inr hnone
      · exact .inl (hother slot hs hnone)
  · obtain ⟨name, hname⟩ := Option.ne_none_iff_exists'.1 hsome
    rw [List.map_append, List.map_cons] at h ⊢
    have hothers := Registry.key_ne_of_split h (hkey.trans hname)
    have hfront : (before.map Slot.entry ++ old.entry :: after.map Slot.entry).takeWhile
        (fun entry => decide (entry.key ≠ new.entry.key ∨ new.entry.key = none)) =
          before.map Slot.entry := by
      rw [List.takeWhile_append_of_pos, List.takeWhile_cons_of_neg, List.append_nil]
      · simp [hkey, hsome]
      · intro entry hm
        rw [decide_eq_true_eq, hname]
        exact .inl (hothers entry (List.mem_append_left _ hm))
    rw [hfront]
    refine ⟨before, after, hp, by simp [keys], fun slot hs _ => hn slot (by simp [hs]), ?_⟩
    intro slot hs hkeyed hin
    obtain ⟨other, ho, he⟩ := List.mem_map.1 hin
    obtain ⟨key, hk⟩ := Option.ne_none_iff_exists'.1 hkeyed
    -- Both would wait under one key.
    obtain ⟨left, right, rfl⟩ := List.append_of_mem hs
    rw [List.map_append, List.map_cons, ← List.cons_append, ← List.append_assoc] at h
    exact Registry.key_ne_of_split h hk other
      (List.mem_append_left _ (List.mem_append_left _ ho)) (he.trans hk)

/-- A step with a greater number waits in front of another one exactly when it replaced a step
there. -/
theorem Behind.order {names : List (Option String)} (h : Behind names guard slots)
    (hs : slot ∈ slots) (hn : guard.number < slot.number) :
    slot.entry.key ≠ none ∧ slot.entry.key ∈ names ∧
        [slot.number, guard.number].Sublist (numbers slots) ∨
      (slot.entry.key ≠ none → slot.entry.key ∉ names) ∧
        [guard.number, slot.number].Sublist (numbers slots) := by
  obtain ⟨front, rest, rfl, rfl, hfront, hrest⟩ := h
  rcases List.mem_append.1 hs with hs | hs
  · have hsome : slot.entry.key ≠ none :=
      fun hnone => Nat.lt_asymm hn (hfront slot hs hnone)
    have hsub : [slot, guard].Sublist (front ++ guard :: rest) :=
      (List.singleton_sublist.2 hs).append (List.singleton_sublist.2 List.mem_cons_self)
    exact .inl ⟨hsome, List.mem_map_of_mem hs, hsub.map Slot.number⟩
  · rcases List.mem_cons.1 hs with rfl | hs
    · exact absurd hn (Nat.lt_irrefl _)
    · have hsub : [guard, slot].Sublist (front ++ guard :: rest) :=
        ((List.singleton_sublist.2 hs).cons_cons guard).trans (List.sublist_append_right _ _)
      exact .inr ⟨hrest slot hs, hsub.map Slot.number⟩

end Slot

namespace Scenario

variable {config : Config σ} {world : σ} {before middle rest calls : List (Call σ)}
  {waiting : Waiting σ} {plain started last : Scenario σ} {call later : Call σ} {entry : Entry σ}

/-! ## What waits when calls were made -/

/-- These steps wait after calls were made. -/
structure Reached (config : Config σ) (world : σ) (calls : List (Call σ)) (waiting : Waiting σ) :
    Prop where
  alike : Alike config waiting (life config world calls) (live config world calls)
    ((fresh config).play world calls)
  tidy : Tidy config calls (life config world calls) waiting

theorem exists_reached (config : Config σ) (world : σ) (calls : List (Call σ)) :
    ∃ waiting, Reached config world calls waiting := by
  obtain ⟨waiting, ha, ht⟩ := live_tidy config world calls
  exact ⟨waiting, ha, ht⟩

/-- Noting goes along with calls that returned. -/
theorem Reached.follows (h : Reached config world calls waiting)
    (hp : ((fresh config).play world calls).result = .ok plain) :
    ∃ noted, (live config world calls).result = .ok noted ∧ Follows config waiting noted plain := by
  rcases h.alike.result with ⟨halt, -, hstop⟩ | ⟨noted, plain', hn, hp', hf⟩
  · rw [hp] at hstop
    cases hstop
  · rw [hp] at hp'
    cases hp'
    exact ⟨noted, hn, hf⟩

/-- The next call after calls that returned. -/
theorem Reached.turn (h : Reached config world calls waiting)
    (hp : ((fresh config).play world calls).result = .ok plain) (call : Call σ) :
    ∃ ran next, Turn config calls.length waiting call ran next ∧
      life config world (calls ++ [call]) = life config world calls ++ ran ∧
      Reached config world (calls ++ [call]) next := by
  obtain ⟨noted, hn, hf⟩ := h.follows hp
  obtain ⟨ran, next, hturn, hnoted, hnext, -⟩ := live_call hn hp h.alike hf h.tidy call
  refine ⟨ran, next, hturn, hnoted, ?_, ?_⟩
  · rw [hnoted]
    exact hnext
  · rw [hnoted]
    exact h.tidy.turn hturn

/-- Of two steps that wait in this order when the scenario is verified, the first has returned when
the second is invoked, and is not invoked behind it. -/
theorem Reached.verified (h : Reached config world calls waiting)
    (hp : ((fresh config).play world calls).result = .ok plain) (assertion : Step σ)
    {first second : Nat} (hs : [first, second].Sublist waiting.numbers) :
    let notes := life config world (calls ++ [.verify assertion])
    (∀ returned, ⟨second, returned⟩ ∈ notes →
        [⟨first, true⟩, ⟨second, returned⟩].Sublist notes) ∧
      ¬[second, first].Sublist (notes.map Note.number) := by
  obtain ⟨ran, next, hturn, hnoted, -⟩ := h.turn hp (.verify assertion)
  have hattempts := hturn.runs.attempts
  have hplanned : [first, second].Sublist (waiting.numbers ++ [calls.length]) :=
    hs.trans (List.sublist_append_left _ _)
  dsimp only
  rw [hnoted]
  refine ⟨fun returned hm => ?_, fun hswapped => ?_⟩
  · -- What waits was not invoked before.
    have hran : (⟨second, returned⟩ : Note) ∈ ran := by
      rcases List.mem_append.1 hm with hm | hm
      · exact absurd rfl ((List.nodup_append.1 h.tidy.once).2.2 second
          (List.mem_map.2 ⟨_, hm, rfl⟩) second (hs.subset (by simp)))
      · exact hm
    have hd := h.tidy.planned.sublist (List.sublist_append_right _ _)
    exact (hattempts.returned_before hd hplanned hran).trans (List.sublist_append_right _ _)
  · rw [List.map_append] at hswapped
    exact not_sublist_swap h.tidy.planned (hplanned.trans (List.sublist_append_right _ _))
      (hswapped.trans ((List.Sublist.refl _).append hattempts.begins.sublist))

/-- A step that a verification is the first to invoke was waiting for it. -/
theorem Reached.waited (h : Reached config world calls waiting)
    (hp : ((fresh config).play world calls).result = .ok plain) (assertion : Step σ) {n : Nat}
    {phase : Phase} (hcall : calls[n]? = some call)
    (hr : call.registration config = some (phase, entry))
    (hnew : n ∉ (life config world calls).map Note.number)
    (hm : n ∈ (life config world (calls ++ [.verify assertion])).map Note.number) :
    ⟨n, entry⟩ ∈ waiting.of phase := by
  obtain ⟨ran, next, hturn, hnoted, -⟩ := h.turn hp (.verify assertion)
  rw [hnoted, List.map_append, List.mem_append] at hm
  rcases List.mem_append.1 (hturn.runs.attempts.begins.subset (hm.resolve_left hnew)) with hw | hw
  · obtain ⟨phase', slot, hs, rfl⟩ := Waiting.mem_numbers.1 hw
    obtain ⟨call', hcall', hr'⟩ := h.tidy.registered phase' slot hs
    obtain rfl : call = call' := Option.some.inj (hcall.symm.trans hcall')
    rw [hr] at hr'
    cases hr'
    exact hs
  · obtain ⟨hlt, -⟩ := List.getElem?_eq_some_iff.1 hcall
    exact absurd (List.mem_singleton.1 hw) (Nat.ne_of_lt hlt)

/-! ## Principals -/

/-- A condition that was added goes on waiting behind the same keys, as calls come that do not
verify and do not replace it. -/
theorem waits_behind (hstart : ((fresh config).play world before).result = .ok started)
    (hr : call.registration config = some (.condition, entry)) (more : List (Call σ)) :
    ∀ last, ((fresh config).play world (before ++ [call] ++ more)).result = .ok last →
    (∀ next ∈ more, ∀ assertion, next ≠ .verify assertion) →
    (∀ next ∈ more, ∀ other, next.registration config = some (.condition, other) →
      other.key ≠ none → other.key ≠ entry.key) →
    ∃ waiting, Reached config world (before ++ [call] ++ more) waiting ∧
      Slot.Behind ((ahead entry.key started.conditions.entries).map Entry.key)
        ⟨before.length, entry⟩ waiting.conditions ∧
      ∀ n ∈ (life config world (before ++ [call] ++ more)).map Note.number, n < before.length := by
  -- On the calls that come, the last one at the end.
  induction more using List.reverseRecOn with
  | nil =>
    intro last hp hquiet hkey
    obtain ⟨waiting, hreached⟩ := exists_reached config world before
    obtain ⟨noted, -, hf⟩ := hreached.follows hstart
    obtain ⟨ran, next, hturn, hnoted, hnext⟩ := hreached.turn hstart call
    obtain ⟨rfl, rfl⟩ := hturn.registered hr
    rw [List.append_nil]
    refine ⟨_, hnext, Slot.behind_place hf.conditions fun slot hs => ?_, fun n hn => ?_⟩
    · have hw : slot.number ∈ waiting.numbers :=
        Waiting.mem_numbers.2 ⟨.condition, slot, hs, rfl⟩
      exact hreached.tidy.made _ (List.mem_append_right _ hw)
    · rw [hnoted, List.append_nil] at hn
      exact hreached.tidy.made n (List.mem_append_left _ hn)
  | append_singleton more next ih =>
    intro last hp hquiet hkey
    rw [← List.append_assoc] at hp ⊢
    obtain ⟨reached, hmore, -⟩ := play_concat_ok hp
    obtain ⟨waiting, hreached, hbehind, hold⟩ := ih reached hmore
      (fun next hm => hquiet next (List.mem_append_left _ hm))
      (fun next hm => hkey next (List.mem_append_left _ hm))
    obtain ⟨ran, after, hturn, hnoted, hnext⟩ := hreached.turn hmore next
    have hlast : next ∈ more ++ [next] := by simp
    obtain rfl := hturn.silent (hquiet next hlast)
    rw [hnoted, List.append_nil]
    refine ⟨after, hnext, ?_, hold⟩
    cases hturn with
    | verifies hruns => exact absurd rfl (hquiet _ hlast _)
    | @registers _ phase other hregistered =>
      cases phase with
      | condition => exact hbehind.place (hkey next hlast other hregistered)
      | _ => exact hbehind
    | passes hnone hv => exact hbehind

/-- A principal that was added waits among the conditions, for the provider to authenticate it. -/
theorem registered_of_play {principal : Value} {options : ActingAs}
    (h : ((fresh config).play world (before ++ .actingAs principal options :: rest)).result =
      .ok last) :
    ∃ name provider, config.auth = some (name, provider) ∧
      (Call.actingAs principal options).registration config = some (.condition,
        ⟨(some (keyFor config options)).filter (· ≠ ""),
          authenticate provider principal options.abilities (guardFor config options)⟩) := by
  rw [List.append_cons] at h
  obtain ⟨next, hnext, -⟩ := play_append_ok h
  obtain ⟨started, hstart, hcall⟩ := play_concat_ok hnext
  obtain ⟨waiting, hreached⟩ := exists_reached config world before
  obtain ⟨noted, -, hf⟩ := hreached.follows hstart
  obtain rfl := hf.config
  obtain ⟨name, provider, ha, hg, -⟩ := call_actingAs_ok hcall
  refine ⟨name, provider, ha, ?_⟩
  simp only [Call.registration, ha, hg, if_true]

/-- A condition that is added after a principal, and invoked when the scenario is verified, finds
the principal authenticated exactly when it did not take the place of a condition in front. The key
of the principal is not taken again. -/
theorem authenticated_before_iff {principal : Value} {options : ActingAs} (assertion : Step σ)
    (hstart : ((fresh config).play world before).result = .ok started)
    (hplay : ((fresh config).play world
      (before ++ .actingAs principal options :: (middle ++ later :: rest))).result = .ok last)
    (hquiet : ∀ call ∈ middle ++ later :: rest, ∀ other, call ≠ .verify other)
    (hkey : ∀ call ∈ middle ++ later :: rest, ∀ other,
      call.registration config = some (.condition, other) → other.key ≠ none →
        other.key ≠ (some (keyFor config options)).filter (· ≠ ""))
    (hlater : later.registration config = some (.condition, entry)) :
    let key := (some (keyFor config options)).filter (· ≠ "")
    let number := before.length + 1 + middle.length
    let notes := life config world
      (before ++ .actingAs principal options :: (middle ++ later :: rest) ++ [.verify assertion])
    (∃ name provider, config.auth = some (name, provider) ∧
      (Call.actingAs principal options).registration config = some (.condition,
        ⟨key, authenticate provider principal options.abilities (guardFor config options)⟩)) ∧
      ∀ returned, ⟨number, returned⟩ ∈ notes →
        ([⟨before.length, true⟩, ⟨number, returned⟩].Sublist notes ↔
          ¬Overtakes started.conditions.entries key entry.key) := by
  intro key number notes
  have hregistered := registered_of_play hplay
  refine ⟨hregistered, fun returned hm => ?_⟩
  obtain ⟨name, provider, -, hr⟩ := hregistered
  have hcalls : before ++ .actingAs principal options :: (middle ++ later :: rest) =
      before ++ [.actingAs principal options] ++ (middle ++ later :: rest) :=
    List.append_cons ..
  simp only [notes, hcalls] at hm ⊢
  rw [hcalls] at hplay
  obtain ⟨waiting, hreached, hbehind, hold⟩ := waits_behind hstart hr _ last hplay hquiet hkey
  have hafter : before.length < number := by
    simp only [number]
    omega
  have hcall : (before ++ [.actingAs principal options] ++ (middle ++ later :: rest))[number]? =
      some later := by
    have hlength : (before ++ [Call.actingAs principal options] ++ middle).length = number := by
      simp only [number, List.length_append, List.length_singleton]
    rw [← List.append_assoc, ← hlength, List.getElem?_append_right (Nat.le_refl _), Nat.sub_self]
    rfl
  have hwaits : ⟨number, entry⟩ ∈ waiting.conditions :=
    hreached.waited hplay assertion hcall hlater (fun hn => Nat.lt_asymm hafter (hold number hn))
      (List.mem_map.2 ⟨_, hm, rfl⟩)
  rcases hbehind.order hwaits hafter with ⟨hsome, hin, hfront⟩ | ⟨hout, hbehind⟩
  · obtain ⟨-, hnever⟩ :=
      hreached.verified hplay assertion (hfront.trans (waiting.numbers_of_sublist .condition))
    exact iff_of_false (fun hs => hnever (hs.map Note.number)) (not_not.2 ⟨hsome, hin⟩)
  · obtain ⟨hreturned, -⟩ :=
      hreached.verified hplay assertion (hbehind.trans (waiting.numbers_of_sublist .condition))
    exact iff_of_true (hreturned returned hm) fun h => hout h.1 h.2

open Script in
/-- Scenarios with a provider that takes every principal. -/
def sessions : Config World :=
  { (Config.default : Config World) with auth := some ("session", Script.provider "session" .pass) }

open Script in
/-- A condition that leaves a record and gives nothing. -/
def recorded (key label : String) : Call World :=
  .given (some key) (.deferred (closure [] label .nothing))

open Script in
/-- A principal, between a condition and one under a key. -/
def shopping (key : String) : List (Call World) :=
  [recorded "cart" "fill"] ++
    .actingAs ⟨string, .text "ada"⟩ .plain :: ([] ++ recorded key "refill" :: [])

open Script in
/-- Under another key, the condition finds the principal authenticated. -/
theorem authenticated_before_basket :
    [⟨1, true⟩, ⟨2, true⟩].Sublist
      (life sessions .empty (shopping "basket" ++ [.verify (closure [] "check" .nothing)])) := by
  have hstart : ((fresh sessions).play .empty [recorded "cart" "fill"]).result = .ok _ := rfl
  have hplay : ((fresh sessions).play .empty (shopping "basket")).result = .ok _ := rfl
  have hlife : life sessions .empty (shopping "basket" ++ [.verify (closure [] "check" .nothing)]) =
      [⟨0, true⟩, ⟨1, true⟩, ⟨2, true⟩, ⟨3, true⟩] := rfl
  refine ((authenticated_before_iff (closure [] "check" .nothing) hstart hplay ?_ ?_ rfl).2 true
    ?_).2 ?_
  · intro call hc other
    obtain rfl := List.mem_singleton.1 hc
    simp [recorded]
  · intro call hc other hr _
    obtain rfl := List.mem_singleton.1 hc
    cases hr
    decide
  · exact hlife ▸ by simp
  · rintro ⟨-, hin⟩
    revert hin
    decide

open Script in
/-- Under the key of the condition in front, which is not that of the principal, the condition is
invoked before the principal is authenticated. -/
theorem invoked_unauthenticated :
    (∃ next, ((fresh sessions).play .empty (shopping "cart")).result = .ok next) ∧
      (∃ entry, (recorded "cart" "refill").registration sessions = some (.condition, entry) ∧
        entry.key ≠ some (keyFor sessions .plain)) ∧
      ⟨2, true⟩ ∈
        life sessions .empty (shopping "cart" ++ [.verify (closure [] "check" .nothing)]) ∧
      ¬[⟨1, true⟩, ⟨2, true⟩].Sublist
        (life sessions .empty (shopping "cart" ++ [.verify (closure [] "check" .nothing)])) := by
  have hlife : life sessions .empty (shopping "cart" ++ [.verify (closure [] "check" .nothing)]) =
      [⟨2, true⟩, ⟨1, true⟩, ⟨3, true⟩] := rfl
  rw [hlife]
  refine ⟨⟨_, rfl⟩, ⟨_, rfl, by decide⟩, by simp, fun hs => ?_⟩
  have hnumbers : ¬[1, 2].Sublist [2, 1, 3] := by decide
  exact hnumbers (hs.map Note.number)

end Scenario

end Storytest
