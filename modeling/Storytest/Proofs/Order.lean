import Storytest.Proofs.Life
import Storytest.Script.Step

/-!
# The order of invocations

`orderly` is about the whole life of a scenario: whatever calls are made on it, no step is invoked
twice, a verification invokes the waiting conditions, the waiting actions and its assertion in this
order and up to the first that fails, and steps that were replaced while they waited, or waited
behind one of their phase that failed, are never invoked.
-/

namespace Storytest.Scenario

variable {σ : Type}

/-- A call in the life of a scenario, with the steps that wait when it is made and the notes that are
taken meanwhile. -/
structure Episode (config : Config σ) (world : σ) (before : List (Call σ)) (call : Call σ)
    (waiting : Waiting σ) (ran : List Note) : Prop where
  /-- These steps wait, in this order. -/
  waits : Alike config waiting (life config world before) (live config world before)
    ((fresh config).play world before)
  /-- Each of them was registered by the call of its number. -/
  registered : ∀ phase, ∀ slot ∈ waiting.of phase, ∃ registering,
    before[slot.number]? = some registering ∧
      registering.registration config = some (phase, slot.entry)
  /-- These notes are taken. -/
  noted : life config world (before ++ [call]) = life config world before ++ ran
  /-- What waits afterwards is what the call leaves or adds. -/
  turn : ∃ next, Turn config before.length waiting call ran next ∧
    Alike config next (life config world (before ++ [call])) (live config world (before ++ [call]))
      ((fresh config).play world (before ++ [call]))
  /-- A verification attempts the conditions, the actions and its assertion, in this order. -/
  verified : ∀ assertion, call = .verify assertion →
    Attempts (Slot.numbers waiting.conditions ++ Slot.numbers waiting.actions ++ [before.length]) ran
  /-- No other call invokes a step. -/
  silent : (∀ assertion, call ≠ .verify assertion) → ran = []
  /-- A step that the call replaces is never invoked. -/
  replaced : ∀ phase entry, call.registration config = some (phase, entry) → entry.key ≠ none →
    ∀ slot ∈ waiting.of phase, slot.entry.key = entry.key → ∀ after,
      slot.number ∉ (life config world (before ++ call :: after)).map Note.number
  /-- A step behind one of its phase that failed is never invoked. -/
  behind : ∀ phase failed n, [failed, n].Sublist (Slot.numbers (waiting.of phase)) →
    ⟨failed, false⟩ ∈ ran →
    ∀ after, n ∉ (life config world (before ++ call :: after)).map Note.number

/-- The life of a scenario: noting changes nothing, no step is invoked twice, and every call that is
made keeps the order. -/
structure Orderly (config : Config σ) (world : σ) (calls : List (Call σ)) : Prop where
  alike : ∃ waiting, Alike config waiting (life config world calls) (live config world calls)
    ((fresh config).play world calls)
  once : ((life config world calls).map Note.number).Nodup
  episodes : ∀ before call after plain, calls = before ++ call :: after →
    ((fresh config).play world before).result = .ok plain →
    ∃ waiting ran, Episode config world before call waiting ran

/-- Whatever calls are made on a scenario, no step is invoked twice. Only verifications invoke
steps: the conditions that wait, then the actions, then the assertion, up to the first that fails. A
step that was replaced while it waited, or waited behind one of its phase that failed, is never
invoked. -/
theorem orderly (config : Config σ) (world : σ) (calls : List (Call σ)) :
    Orderly config world calls := by
  obtain ⟨waiting, ha, ht⟩ := live_tidy config world calls
  refine ⟨⟨waiting, ha⟩, ht.once.sublist (List.sublist_append_left _ _), ?_⟩
  intro before call after plain _ hp
  obtain ⟨waiting, ha, ht⟩ := live_tidy config world before
  obtain ⟨noted, hn, hf⟩ : ∃ noted, (live config world before).result = .ok noted ∧
      Follows config waiting noted plain := by
    rcases ha.result with ⟨halt, -, hstop⟩ | ⟨noted, plain', hn, hp', hf⟩
    · rw [hp] at hstop
      cases hstop
    · rw [hp] at hp'
      cases hp'
      exact ⟨noted, hn, hf⟩
  obtain ⟨ran, next, hturn, hnoted, hnext, hrest⟩ := live_call hn hp ha hf ht call
  -- What waits, but neither runs now nor goes on waiting, never runs.
  have hspent : ∀ n ∈ waiting.numbers, n ∉ ran.map Note.number ++ next.numbers → ∀ after,
      n ∉ (life config world (before ++ call :: after)).map Note.number := by
    intro n hw hout after
    obtain ⟨more, hmore, hnever⟩ := hrest after
    rw [List.mem_append, not_or] at hout
    rw [hmore, List.map_append, List.map_append, List.mem_append, List.mem_append, not_or, not_or]
    refine ⟨⟨fun hin => ?_, hout.1⟩, hnever n (ht.made n (List.mem_append_right _ hw)) hout.2⟩
    exact (List.nodup_append.1 ht.once).2.2 n hin n hw rfl
  refine ⟨waiting, ran, ha, ht.registered, hnoted, ⟨next, hturn, ?_⟩, ?_, hturn.silent, ?_, ?_⟩
  · rw [hnoted]
    exact hnext
  · rintro assertion rfl
    exact hturn.runs.attempts
  · intro phase entry hr hsome slot hs hkey
    obtain ⟨rfl, rfl⟩ := hturn.registered hr
    exact hspent slot.number (Waiting.mem_numbers.2 ⟨phase, slot, hs, rfl⟩)
      (ht.replaced hf hs hkey hsome)
  · intro phase failed n hs hfalse
    have hw : n ∈ waiting.numbers := by
      obtain ⟨slot, hslot, hn⟩ := List.mem_map.1 (hs.subset (List.mem_cons_of_mem _ List.mem_cons_self))
      exact Waiting.mem_numbers.2 ⟨phase, slot, hslot, hn⟩
    cases hturn with
    | verifies hr =>
      exact hspent n hw (hr.behind (ht.planned.sublist (List.sublist_append_right _ _)) hs hfalse)
    | registers hr => cases hfalse
    | passes hr hv => cases hfalse

open Script in
/-- A condition that is replaced by one that fails, an action behind it, and two verifications, of
which the first expects the failure. -/
def retried : List (Call World) :=
  [.given (some "cart") (.deferred (closure [] "fill" .nothing)),
    .given (some "cart") (.deferred (closure [] "lose" (.err Script.Cause.gatewayTimeout))),
    .act none (closure [] "pay" .nothing),
    .expect (.ofType (programType "GatewayTimeout" [])),
    .verify (closure [] "early" .nothing),
    .verify (closure [] "late" .nothing)]

/-- The first condition never runs, the action runs with the second verification. -/
theorem orderly_retried :
    life .default .empty retried = [⟨1, false⟩, ⟨2, true⟩, ⟨5, true⟩] ∧
      Orderly .default .empty retried :=
  ⟨rfl, orderly .default .empty retried⟩

end Storytest.Scenario
