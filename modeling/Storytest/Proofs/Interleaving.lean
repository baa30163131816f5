import Storytest.Proofs.Gathering
import Storytest.Script.Step

/-!
# Calls of different kinds in any order

Only calls of one kind are told apart by their order. Two lists of calls that are `Interleaved` have
the same calls of each kind: they end at the same principal, which is refused, or they reach the
same scenario and so come to the same when it is verified (`alike_of_interleaved`). An action that is
added before the conditions runs behind them all, and a literal that is given behind a condition is
there for it.
-/

namespace Storytest

variable {σ : Type}

/-- A list is split in one way at its first element with a property. -/
theorem split_unique {α : Type} (p : α → Prop) {before after before' after' : List α} {x x' : α}
    (h : before ++ x :: after = before' ++ x' :: after') (hb : ∀ y ∈ before, ¬p y) (hx : p x)
    (hb' : ∀ y ∈ before', ¬p y) (hx' : p x') : before = before' ∧ x = x' := by
  induction before generalizing before' with
  | nil =>
    cases before' with
    | nil => exact ⟨rfl, (List.cons.inj h).1⟩
    | cons y before' =>
      obtain ⟨rfl, -⟩ := List.cons.inj h
      exact absurd hx (hb' x List.mem_cons_self)
  | cons y before ih =>
    cases before' with
    | nil =>
      obtain ⟨rfl, -⟩ := List.cons.inj h
      exact absurd hx' (hb y List.mem_cons_self)
    | cons y' before' =>
      obtain ⟨rfl, hrest⟩ := List.cons.inj h
      obtain ⟨rfl, rfl⟩ := ih hrest (List.forall_mem_cons.1 hb).2 (List.forall_mem_cons.1 hb').2
      exact ⟨rfl, rfl⟩

namespace Call

/-- The same calls of each kind, in the same order, and no verification. -/
structure Interleaved (first second : List (Call σ)) : Prop where
  kinds : ∀ kind : Kind, (first.filter fun call => call.kind = kind) =
    second.filter fun call => call.kind = kind
  unverified : ∀ call ∈ first, call.kind ≠ .verification

namespace Interleaved

variable {first second : List (Call σ)}

theorem mem_iff (h : Interleaved first second) {call : Call σ} : call ∈ first ↔ call ∈ second := by
  have hkind := congrArg (call ∈ ·) (h.kinds call.kind)
  simpa using hkind

/-- What only calls of one kind have is the same, in the same order. -/
theorem filterMap_eq {α : Type} (h : Interleaved first second) (part : Call σ → Option α)
    (kind : Kind) (hp : ∀ call, part call ≠ none → call.kind = kind) :
    first.filterMap part = second.filterMap part := by
  have honly : ∀ calls : List (Call σ),
      calls.filterMap part = (calls.filter fun call => call.kind = kind).filterMap part := by
    intro calls
    rw [List.filterMap_filter]
    refine congrArg (List.filterMap · calls) (funext fun call => ?_)
    by_cases hk : call.kind = kind
    · simp [hk]
    · simpa [hk] using fun hn => hk (hp call hn)
  rw [honly first, h.kinds kind, ← honly second]

end Interleaved

/-- Of some calls none is refused, or there is a first one. -/
theorem refused_or (config : Config σ) (calls : List (Call σ)) :
    (∀ call ∈ calls, call.refusal? config = none) ∨
      ∃ before call after failure, calls = before ++ call :: after ∧
        (∀ call ∈ before, call.refusal? config = none) ∧ call.refusal? config = some failure := by
  induction calls with
  | nil => exact .inl (by simp)
  | cons call calls ih =>
    cases hr : call.refusal? config with
    | some failure => exact .inr ⟨[], call, calls, failure, rfl, by simp, hr⟩
    | none =>
      rcases ih with hnone | ⟨before, other, after, failure, rfl, hbefore, hother⟩
      · exact .inl (List.forall_mem_cons.2 ⟨hr, hnone⟩)
      · exact .inr ⟨call :: before, other, after, failure, rfl,
          List.forall_mem_cons.2 ⟨hr, hbefore⟩, hother⟩

end Call

namespace Scenario

open Call (Interleaved)

theorem gathered_interleaved {first second : List (Call σ)} (h : Interleaved first second)
    (scenario : Scenario σ) : scenario.gathered first = scenario.gathered second := by
  have hwrites := h.filterMap_eq Call.write? .literal fun call hp => by
    cases call with
    | given key condition => cases condition <;> trivial
    | _ => exact absurd rfl hp
  have hexpectations := h.filterMap_eq Call.expectation? .expectation fun call hp => by
    cases call with
    | expect expectation => rfl
    | _ => exact absurd rfl hp
  have hconditions := h.filterMap_eq (Call.entry? scenario.config .condition) .condition
    fun call hp => by
      obtain ⟨entry, he⟩ := Option.ne_none_iff_exists'.1 hp
      simpa using Call.kind_of_registration (Call.entry?_eq_some_iff.1 he)
  have hactions := h.filterMap_eq (Call.entry? scenario.config .action) .action
    fun call hp => by
      obtain ⟨entry, he⟩ := Option.ne_none_iff_exists'.1 hp
      simpa using Call.kind_of_registration (Call.entry?_eq_some_iff.1 he)
  unfold gathered
  rw [hwrites, hexpectations, hconditions, hactions]

theorem activated_interleaved {first second : List (Call σ)} (h : Interleaved first second)
    (world : σ) : Call.activated world first = Call.activated world second := by
  unfold Call.activated
  rw [h.filterMap_eq Call.fake? .fake fun call hp => by
    cases call with
    | fake facade => rfl
    | _ => exact absurd rfl hp]

/-- The calls end at a principal that is refused, after calls that all returned and before anything
is invoked. -/
structure EndsAt (scenario : Scenario σ) (world : σ) (calls before : List (Call σ))
    (principal : Value) (options : ActingAs) (failure : Failure) : Prop where
  split : ∃ after, calls = before ++ .actingAs principal options :: after
  returned : ∃ reached, (scenario.play world before).result = .ok reached
  refused : (scenario.play world calls).result = .error (.failed failure)
  silent : scenario.invocations world calls = []

/-- Verified after either list of calls, the scenario runs in the same way. -/
structure GoesAlike (scenario : Scenario σ) (world : σ) (first second : List (Call σ))
    (assertion : Step σ) : Prop where
  /-- Both lists reach what the first one gathered. -/
  reached : (scenario.play world first).result = .ok (scenario.gathered first) ∧
    (scenario.play world second).result = .ok (scenario.gathered first)
  /-- The verification invokes the same steps, in the same order, on the same stores and states. -/
  invoked : scenario.invocations world (first ++ [.verify assertion]) =
    scenario.invocations world (second ++ [.verify assertion])
  /-- These are the conditions, then the actions, and last the assertion. -/
  phases : scenario.invocations world (first ++ [.verify assertion]) =
    ((scenario.gathered first).chapters assertion (Call.activated world first)).flatMap
      Chapter.invocations
  /-- Every condition finds all literals, whether they were given before it or after it. -/
  literals : ∀ earlier invocation later,
    (scenario.gathered first).conditionTrail (Call.activated world first) =
      earlier ++ invocation :: later →
    invocation.store = scenario.store.keepAll
      (first.filterMap Call.write? ++ earlier.flatMap Invocation.written)
  /-- It comes to the same, with the same scenario where it goes on. -/
  outcome : (scenario.play world (first ++ [.verify assertion])).result =
    (scenario.play world (second ++ [.verify assertion])).result
  /-- It leaves the same state. -/
  state : (scenario.play world (first ++ [.verify assertion])).world =
    (scenario.play world (second ++ [.verify assertion])).world

variable {scenario : Scenario σ} {first second : List (Call σ)}

theorem endsAt_refused {calls before after : List (Call σ)} {principal : Value}
    {options : ActingAs} {failure : Failure} (hk : ∀ call ∈ calls, call.kind ≠ .verification)
    (hs : calls = before ++ .actingAs principal options :: after)
    (hb : ∀ call ∈ before, call.refusal? scenario.config = none)
    (hr : (Call.actingAs principal options).refusal? scenario.config = some failure) (world : σ) :
    EndsAt scenario world calls before principal options failure := by
  have hkb : ∀ call ∈ before, call.kind ≠ .verification :=
    fun call hc => hk call (hs ▸ List.mem_append_left _ hc)
  refine ⟨⟨after, hs⟩, ⟨_, (play_gathered hkb hb world).1⟩, ?_, invocations_of_gathering hk _ _⟩
  rw [hs]
  exact (play_refused hkb hb hr world).1

/-- Where one list ends at a principal that is refused, the other ends at the same one. -/
theorem endsAt_of_interleaved (h : Interleaved first second) {before after : List (Call σ)}
    {call : Call σ} {failure : Failure} (hfirst : first = before ++ call :: after)
    (hbefore : ∀ other ∈ before, other.refusal? scenario.config = none)
    (hcall : call.refusal? scenario.config = some failure) (world : σ) :
    ∃ principal options before', EndsAt scenario world first before principal options failure ∧
      EndsAt scenario world second before' principal options failure ∧
      (before.filter fun call => call.kind = .condition) =
        before'.filter fun call => call.kind = .condition := by
  obtain ⟨principal, options, rfl⟩ := Call.kind_of_refusal hcall
  rcases Call.refused_or scenario.config second with
    haccepted | ⟨before', call', after', failure', hsecond, hbefore', hcall'⟩
  · have hnone := haccepted (.actingAs principal options) (h.mem_iff.1 (by simp [hfirst]))
    rw [hcall] at hnone
    cases hnone
  obtain ⟨principal', options', rfl⟩ := Call.kind_of_refusal hcall'
  -- Among the conditions alone, both are the first that is refused.
  have hconditions := h.kinds .condition
  rw [hfirst, hsecond, List.filter_append, List.filter_append,
    List.filter_cons_of_pos (by rfl), List.filter_cons_of_pos (by rfl)] at hconditions
  obtain ⟨hsame, he⟩ := split_unique (fun call => call.refusal? scenario.config ≠ none)
    hconditions
    (fun other ho hn => hn (hbefore other (List.mem_filter.1 ho).1)) (by simp [hcall])
    (fun other ho hn => hn (hbefore' other (List.mem_filter.1 ho).1)) (by simp [hcall'])
  rw [← he] at hcall' hsecond
  obtain rfl : failure = failure' := Option.some.inj (hcall.symm.trans hcall')
  have hunverified : ∀ call ∈ second, call.kind ≠ .verification :=
    fun call hc => h.unverified call (h.mem_iff.2 hc)
  exact ⟨principal, options, before', endsAt_refused h.unverified hfirst hbefore hcall world,
    endsAt_refused hunverified hsecond hbefore' hcall' world, hsame⟩

/-- Two lists with the same calls of each kind, in the same order, either end at the same principal,
which is refused before anything is invoked, or reach the same scenario, and a verification then
invokes the same steps on the same stores and states. -/
theorem alike_of_interleaved (h : Interleaved first second) (scenario : Scenario σ) (world : σ)
    (assertion : Step σ) :
    (∃ principal options failure before before',
        EndsAt scenario world first before principal options failure ∧
        EndsAt scenario world second before' principal options failure ∧
        (before.filter fun call => call.kind = .condition) =
          before'.filter fun call => call.kind = .condition) ∨
      GoesAlike scenario world first second assertion := by
  have hunverified : ∀ call ∈ second, call.kind ≠ .verification :=
    fun call hc => h.unverified call (h.mem_iff.2 hc)
  rcases Call.refused_or scenario.config first with
    haccepted | ⟨before, call, after, failure, hfirst, hbefore, hcall⟩
  · right
    have haccepted' : ∀ call ∈ second, call.refusal? scenario.config = none :=
      fun call hc => haccepted call (h.mem_iff.2 hc)
    obtain ⟨hplay, -⟩ := play_gathered h.unverified haccepted world
    obtain ⟨hplay', -⟩ := play_gathered hunverified haccepted' world
    have hgathered := gathered_interleaved h scenario
    have hactivated := activated_interleaved h world
    have hinvoked := invocations_gathered h.unverified haccepted world assertion
    have hinvoked' := invocations_gathered hunverified haccepted' world assertion
    obtain ⟨hresult, hworld⟩ := play_verify_gathered h.unverified haccepted world assertion
    obtain ⟨hresult', hworld'⟩ := play_verify_gathered hunverified haccepted' world assertion
    refine ⟨⟨hplay, hgathered ▸ hplay'⟩, ?_, hinvoked, ?_, ?_, ?_⟩
    · rw [hinvoked, hinvoked', hgathered, hactivated]
    · intro earlier invocation later ht
      rw [store_of_trail ht, Store.keepAll_append]
      rfl
    · rw [hresult, hresult', hgathered, hactivated]
    · rw [hworld, hworld', hgathered, hactivated]
  · left
    obtain ⟨principal, options, before', hends⟩ :=
      endsAt_of_interleaved h hfirst hbefore hcall world
    exact ⟨principal, options, failure, before, before', hends⟩

open Script in
/-- A condition that asks for a balance. -/
def inquiry : Call World :=
  .given none (.deferred (step (.described [⟨some "balance", [int32]⟩])
    [.read (.required int32) "balance"] ⟨"inquire", none, .nothing⟩))

open Script in
/-- An action that leaves a record. -/
def payment : Call World :=
  .act none (closure [] "pay" .nothing)

open Script in
/-- A balance, as a literal. -/
def deposit : Call World :=
  .given (some "balance") (.literal ⟨int32, .integer 10⟩)

open Script in
/-- The action runs behind the condition that was added after it, and the condition finds the literal
that was given after it. -/
theorem alike_payment_first :
    Interleaved [payment, inquiry, deposit] [deposit, inquiry, payment] ∧
      GoesAlike (fresh .default) .empty [payment, inquiry, deposit] [deposit, inquiry, payment]
        (closure [] "check" .nothing) ∧
      ((fresh .default).play World.empty
        [payment, inquiry, deposit, .verify (closure [] "check" .nothing)]).world.records =
          [.step "inquire" [.value ⟨int32, .integer 10⟩], .step "pay" [], .step "check" []] := by
  have h : Interleaved [payment, inquiry, deposit] [deposit, inquiry, payment] := by
    refine ⟨fun kind => ?_, ?_⟩
    · cases kind <;> rfl
    · simp [payment, inquiry, deposit, Call.kind]
  refine ⟨h, ?_, rfl⟩
  rcases alike_of_interleaved h (fresh .default) .empty (closure [] "check" .nothing) with
    ⟨_, _, _, _, _, hends, -⟩ | halike
  · cases hends.refused
  · exact halike

end Scenario

end Storytest
