import Storytest.Proofs.Authentication
import Storytest.Proofs.Gathering

/-!
# Where invoked steps come from

Whatever calls invoke on a fresh scenario, one of them brought it along: `invoked_brought`. So a
property that the steps of the calls keep is kept by all calls (`play_keeps`).
-/

namespace Storytest

variable {σ : Type}

/-- A call brings a step along: it makes it wait in a phase, or has it as its assertion. -/
inductive Call.Brings (config : Config σ) (call : Call σ) : Entry σ → Prop
  | registered {phase : Phase} {entry : Entry σ} :
      call.registration config = some (phase, entry) → Call.Brings config call entry
  | asserted {assertion : Step σ} :
      call = .verify assertion → Call.Brings config call ⟨none, assertion⟩

theorem Call.verifies_of_kind {call : Call σ} (h : call.kind = .verification) :
    ∃ assertion, call = .verify assertion := by
  cases call with
  | verify assertion => exact ⟨assertion, rfl⟩
  | given key condition => cases condition <;> cases h
  | _ => cases h

theorem entry_of_trail {entries : List (Entry σ)} {store : Store} {world : σ}
    {invocation : Invocation σ} (h : invocation ∈ trail entries store world) :
    invocation.entry ∈ entries := by
  induction entries generalizing store world with
  | nil => cases h
  | cons entry entries ih =>
    rcases List.mem_cons.1 h with rfl | h
    · exact List.mem_cons_self
    · split at h
      · cases h
      · exact List.mem_cons_of_mem _ (ih h)

namespace Scenario

variable {config : Config σ} {scenario : Scenario σ} {world : σ} {calls : List (Call σ)}

/-- A run invokes steps that wait, and its assertion. -/
theorem entry_of_chapters {assertion : Step σ} {invocation : Invocation σ}
    (h : invocation ∈ (scenario.chapters assertion world).flatMap Chapter.invocations) :
    invocation.entry ∈ scenario.conditions.entries ∨ invocation.entry ∈ scenario.actions.entries ∨
      invocation.entry = ⟨none, assertion⟩ := by
  obtain ⟨chapter, hc, hi⟩ := List.mem_flatMap.1 h
  unfold chapters at hc
  rcases List.mem_cons.1 hc with rfl | hc
  · exact .inl (entry_of_trail hi)
  split at hc
  · cases hc
  rcases List.mem_cons.1 hc with rfl | hc
  · exact .inr (.inl (entry_of_trail hi))
  split at hc
  · cases hc
  obtain rfl := List.mem_singleton.1 hc
  obtain rfl := List.mem_singleton.1 hi
  exact .inr (.inr rfl)

/-- A step that waits after calls was brought along by one of them. -/
theorem waiting_brought (h : ((fresh config).play world calls).result = .ok scenario)
    {entry : Entry σ}
    (hm : entry ∈ scenario.conditions.entries ∨ entry ∈ scenario.actions.entries) :
    ∃ call ∈ calls, call.Brings config entry := by
  obtain ⟨waiting, hreached⟩ := exists_reached config world calls
  obtain ⟨noted, -, hf⟩ := hreached.follows h
  have hslot : ∃ phase, ∃ slot ∈ waiting.of phase, slot.entry = entry := by
    rw [hf.conditions, hf.actions, List.mem_map, List.mem_map] at hm
    rcases hm with hm | hm
    · exact ⟨.condition, hm⟩
    · exact ⟨.action, hm⟩
  obtain ⟨phase, slot, hs, rfl⟩ := hslot
  obtain ⟨call, hc, hr⟩ := hreached.tidy.registered phase slot hs
  exact ⟨call, List.mem_of_getElem? hc, .registered hr⟩

/-- Every step that calls on a fresh scenario invoke was brought along by one of them. -/
theorem invoked_brought (config : Config σ) (world : σ) (calls : List (Call σ)) :
    ∀ invocation ∈ (fresh config).invocations world calls,
      ∃ call ∈ calls, call.Brings config invocation.entry := by
  induction calls using List.reverseRecOn with
  | nil => intro invocation hi; cases hi
  | append_singleton calls call ih =>
    intro invocation hi
    have hearlier : (∃ other ∈ calls, other.Brings config invocation.entry) →
        ∃ other ∈ calls ++ [call], other.Brings config invocation.entry :=
      fun ⟨other, ho, hb⟩ => ⟨other, List.mem_append_left _ ho, hb⟩
    cases hp : ((fresh config).play world calls).result with
    | error halt =>
      -- The last call is not made.
      rw [invocations_append_error _ hp] at hi
      exact hearlier (ih invocation hi)
    | ok reached =>
      rw [invocations_append _ hp, List.mem_append] at hi
      rcases hi with hi | hi
      · exact hearlier (ih invocation hi)
      by_cases hk : call.kind = .verification
      · obtain ⟨assertion, rfl⟩ := Call.verifies_of_kind hk
        rw [invocations, chronicle_verify] at hi
        rcases entry_of_chapters hi with hm | hm | he
        · exact hearlier (waiting_brought hp (.inl hm))
        · exact hearlier (waiting_brought hp (.inr hm))
        · exact ⟨.verify assertion, by simp, he ▸ .asserted rfl⟩
      · rw [invocations_of_gathering (by simpa using hk)] at hi
        cases hi

end Scenario

/-! ## What all steps keep -/

/-- The step keeps a property of the shared state, whatever it is invoked on. -/
def Step.Keeps (holds : σ → Prop) (step : Step σ) : Prop :=
  ∀ arguments world, holds world → holds (step.call arguments world).2

/-- The steps and the facade of a call keep a property of the shared state. -/
structure Call.Keeps (holds : σ → Prop) (config : Config σ) (call : Call σ) : Prop where
  steps : ∀ entry, call.Brings config entry → entry.step.Keeps holds
  facade : ∀ facade, call = .fake facade → ∀ world, holds world → holds (facade.activate world)

theorem evaluate_keeps {holds : σ → Prop} (phase : Phase) {entries : List (Entry σ)}
    (hs : ∀ entry ∈ entries, entry.step.Keeps holds) (store : Store) {world : σ}
    (h : holds world) : holds (evaluate phase entries store world).world := by
  induction entries generalizing store world with
  | nil => exact h
  | cons entry entries ih =>
    obtain ⟨hentry, hs⟩ := List.forall_mem_cons.1 hs
    have hnext := hentry (.ofList (entry.step.signature.arguments store)) world h
    simp only [evaluate, Step.invoke]
    split <;> rename_i heq <;> rw [heq] at hnext
    · exact hnext
    · exact ih hs store hnext
    · exact ih hs _ hnext

namespace Scenario

variable {holds : σ → Prop} {scenario : Scenario σ} {world : σ}

theorem run_keeps (hc : ∀ entry ∈ scenario.conditions.entries, entry.step.Keeps holds)
    (ha : ∀ entry ∈ scenario.actions.entries, entry.step.Keeps holds) {assertion : Step σ}
    (hassertion : assertion.Keeps holds) (h : holds world) :
    holds (scenario.run assertion world).2.world := by
  have hconditions : holds (scenario.runConditions world).world :=
    evaluate_keeps .condition hc scenario.store h
  have hactions : ∀ store,
      holds (scenario.runActions store (scenario.runConditions world).world).world :=
    fun store => evaluate_keeps .action ha store hconditions
  rcases run_cases scenario assertion world with
    ⟨halt, -, hr⟩ | ⟨store, halt, -, -, hr⟩ | ⟨store, final, -, -, hr⟩
  · rw [hr]
    exact hconditions
  · rw [hr]
    exact hactions store
  · rw [hr]
    exact hassertion _ _ (hactions store)

/-- What all steps and facades keep holds after any calls. -/
theorem play_keeps {config : Config σ} {calls : List (Call σ)}
    (hk : ∀ call ∈ calls, call.Keeps holds config) (h : holds world) :
    holds ((fresh config).play world calls).world := by
  induction calls using List.reverseRecOn with
  | nil => exact h
  | append_singleton calls call ih =>
    obtain ⟨hearlier, hlast⟩ := List.forall_mem_append.1 hk
    have hcall := List.forall_mem_singleton.1 hlast
    replace ih := ih hearlier
    cases hp : ((fresh config).play world calls).result with
    | error halt =>
      rw [play_append_error _ hp]
      exact ih
    | ok reached =>
      rw [play_append _ hp, play_single]
      cases call with
      | verify assertion =>
        have hwaiting : ∀ entry, entry ∈ reached.conditions.entries ∨
            entry ∈ reached.actions.entries → entry.step.Keeps holds := by
          intro entry hm
          obtain ⟨other, ho, hb⟩ := waiting_brought hp hm
          exact (hearlier other ho).steps entry hb
        rw [Report.after, Scenario.call, verify_world]
        exact run_keeps (fun entry hm => hwaiting entry (.inl hm))
          (fun entry hm => hwaiting entry (.inr hm)) (hcall.steps _ (.asserted rfl)) ih
      | fake facade => exact hcall.facade facade rfl _ ih
      | actingAs principal options =>
        rw [Report.after, Scenario.call]
        split <;> exact ih
      | _ => exact ih

end Scenario

end Storytest
