import Storytest.Proofs.Origin
import Storytest.Script.Provider
import Storytest.Script.Step

/-!
# Guards and providers

Settings are checked before there is a configuration, and principals before they wait. `guarded`
tells what comes of it: principals are authenticated by the provider that was registered last under
the name in the settings, with the abilities that were demanded, in their order, and by a guard that
the settings know; and no provider is asked for anything else.
-/

namespace Storytest

variable {σ : Type}

/-! ## Looking up providers -/

/-- The provider was registered under the name, and no other one after it. -/
def LastUnder (registrations : List (String × Provider σ)) (name : String)
    (provider : Provider σ) : Prop :=
  ∃ earlier later, registrations = earlier ++ (name, provider) :: later ∧
    name ∉ later.map Prod.fst

namespace Providers

variable {registrations : List (String × Provider σ)} {name : String} {provider : Provider σ}

theorem get?_ofList_concat (registrations : List (String × Provider σ))
    (last : String × Provider σ) (name : String) :
    (ofList (registrations ++ [last])).get? name =
      if last.1 = name then some last.2 else (ofList registrations).get? name := by
  rw [ofList, List.foldl_append]
  exact get?_register _ _ _ _

theorem lastUnder_of_get? (h : (ofList registrations).get? name = some provider) :
    LastUnder registrations name provider := by
  induction registrations using List.reverseRecOn with
  | nil => cases h
  | append_singleton registrations last ih =>
    rw [get?_ofList_concat] at h
    split at h
    · next hname =>
      cases h
      exact ⟨registrations, [], by rw [← hname], by simp⟩
    · next hname =>
      obtain ⟨earlier, later, rfl, hlater⟩ := ih h
      exact ⟨earlier, later ++ [last], by simp, by simpa [hlater] using Ne.symm hname⟩

theorem get?_ofList_eq_none_iff :
    (ofList registrations).get? name = none ↔ name ∉ registrations.map Prod.fst := by
  induction registrations using List.reverseRecOn with
  | nil => exact ⟨fun _ => by simp, fun _ => rfl⟩
  | append_singleton registrations last ih =>
    rw [get?_ofList_concat]
    split
    · next hname => simp [hname]
    · next hname => simpa [ih] using fun _ => Ne.symm hname

theorem get?_eq_none_iff {providers : Providers σ} :
    providers.get? name = none ↔ name ∉ providers.names := by
  rw [← Option.not_isSome_iff_eq_none, get?, Assoc.get?_isSome_iff]
  rfl

theorem mem_names_ofList : name ∈ (ofList registrations).names ↔
    name ∈ registrations.map Prod.fst := by
  rw [← not_iff_not, ← get?_eq_none_iff, get?_ofList_eq_none_iff]

end Providers

/-! ## Demands -/

namespace ActingAs

theorem ofDemands_concat (demands : List Demand) (last : Demand) :
    ofDemands (demands ++ [last]) = (ofDemands demands).demand last := by
  rw [ofDemands, List.foldl_append]
  rfl

/-- The abilities are those demanded, in the order of the demands. -/
theorem abilities_ofDemands (demands : List Demand) :
    (ofDemands demands).abilities = demands.filterMap Demand.ability? := by
  induction demands using List.reverseRecOn with
  | nil => rfl
  | append_singleton demands last ih =>
    rw [ofDemands_concat, List.filterMap_append, ← ih]
    cases last <;> simp [demand, Demand.ability?]

/-- The guard is the one demanded last. -/
theorem guard_ofDemands (demands : List Demand) :
    (ofDemands demands).guard = (demands.filterMap Demand.guard?).getLast? := by
  induction demands using List.reverseRecOn with
  | nil => rfl
  | append_singleton demands last ih =>
    rw [ofDemands_concat, List.filterMap_append]
    cases last <;> simp [demand, Demand.guard?, ih]

/-- All that can be asked for can be demanded. -/
theorem exists_demands (options : ActingAs) : ∃ demands, options = ofDemands demands := by
  have habilities : ∀ (abilities : List String) (start : ActingAs),
      (abilities.map Demand.ability).foldl demand start =
        { start with abilities := start.abilities ++ abilities } := by
    intro abilities
    induction abilities with
    | nil => simp
    | cons ability abilities ih => simp [ih, demand]
  obtain ⟨key, abilities, guard⟩ := options
  refine ⟨(key.map Demand.key).toList ++ (guard.map Demand.guard).toList ++
    abilities.map Demand.ability, ?_⟩
  cases key <;> cases guard <;> simp [ofDemands, habilities, demand, plain]

end ActingAs

/-! ## Checking settings -/

namespace Suite

/-- The provider that the settings name, if any, was registered. -/
def Provided (suite : Suite) (registrations : List (String × Provider σ)) : Prop :=
  ∀ name, suite.authProvider = some name → name ∈ registrations.map Prod.fst

theorem toConfig_eq (suite : Suite) (providers : Providers σ) :
    suite.toConfig providers =
      match suite.provider? providers with
      | .error failure => .error failure
      | .ok auth =>
        if suite.authGuard.all (· ∈ suite.guards) then
          .ok ⟨auth, suite.authGuard, suite.guards, suite.responseKey, suite.userKey⟩
        else .error (.unknownGuard (suite.authGuard.getD "") suite.guards) := by
  unfold toConfig
  cases suite.provider? providers with
  | error failure => rfl
  | ok auth =>
    cases hg : suite.authGuard with
    | none => rfl
    | some guard =>
      by_cases hk : guard ∈ suite.guards
      · simp [ensureGuard, hk, Bind.bind, Except.bind, Pure.pure, Except.pure]
      · simp [ensureGuard, hk, Bind.bind, Except.bind]

/-- Settings are refused when their provider is missing, and else when their guard is not known. -/
theorem toConfig_error_iff {suite : Suite} {providers : Providers σ} {failure : Failure} :
    suite.toConfig providers = .error failure ↔
      (∃ name, suite.authProvider = some name ∧ name ∉ providers.names ∧
        failure = .unsupportedProvider name) ∨
      (∀ name, suite.authProvider = some name → name ∈ providers.names) ∧
        ∃ guard, suite.authGuard = some guard ∧ guard ∉ suite.guards ∧
          failure = .unknownGuard guard suite.guards := by
  have hguard : ∀ auth : Option (String × Provider σ),
      (if suite.authGuard.all (· ∈ suite.guards) then
          Except.ok (⟨auth, suite.authGuard, suite.guards, suite.responseKey, suite.userKey⟩ :
            Config σ)
        else .error (.unknownGuard (suite.authGuard.getD "") suite.guards)) = .error failure ↔
      ∃ guard, suite.authGuard = some guard ∧ guard ∉ suite.guards ∧
        failure = .unknownGuard guard suite.guards := by
    intro auth
    cases suite.authGuard with
    | none => simp
    | some guard => by_cases hk : guard ∈ suite.guards <;> simp [hk, eq_comm]
  rw [toConfig_eq]
  unfold provider?
  cases suite.authProvider with
  | none => simpa using hguard none
  | some name =>
    cases hp : providers.get? name with
    | none =>
      have hmissing := Providers.get?_eq_none_iff.1 hp
      simp only [hp, Except.error.injEq, Option.some.injEq, forall_eq', exists_eq_left', hmissing,
        not_false_eq_true, true_and, false_and, or_false]
      exact eq_comm
    | some provider =>
      have hthere : name ∈ providers.names := by
        by_contra hmissing
        rw [Providers.get?_eq_none_iff.2 hmissing] at hp
        cases hp
      simpa [hp, hthere] using hguard (some (name, provider))

/-- What checking settings comes to. -/
structure Checked (suite : Suite) (registrations : List (String × Provider σ)) : Prop where
  /-- A provider that was not registered is refused, whatever the guard. -/
  provider : ∀ name, suite.authProvider = some name → name ∉ registrations.map Prod.fst →
    suite.toConfig (.ofList registrations) = .error (.unsupportedProvider name)
  /-- A guard that is not known is refused. -/
  guard : suite.Provided registrations → ∀ guard, suite.authGuard = some guard →
    guard ∉ suite.guards →
    suite.toConfig (.ofList registrations) = .error (.unknownGuard guard suite.guards)
  /-- All else is accepted. -/
  accepted : suite.Provided registrations → suite.authGuard.all (· ∈ suite.guards) = true →
    ∃ config, suite.toConfig (.ofList registrations) = .ok config

theorem checked_ofList (suite : Suite) (registrations : List (String × Provider σ)) :
    suite.Checked registrations where
  provider name hn hmissing :=
    toConfig_error_iff.2 (.inl ⟨name, hn, fun hm => hmissing (Providers.mem_names_ofList.1 hm), rfl⟩)
  guard hprovided guard hg hunknown :=
    toConfig_error_iff.2 (.inr ⟨fun name hn => Providers.mem_names_ofList.2 (hprovided name hn),
      guard, hg, hunknown, rfl⟩)
  accepted hprovided hknown := by
    cases h : suite.toConfig (.ofList registrations) with
    | ok config => exact ⟨config, rfl⟩
    | error failure =>
      rcases toConfig_error_iff.1 h with ⟨name, hn, hmissing, -⟩ | ⟨-, guard, hg, hunknown, -⟩
      · exact absurd (Providers.mem_names_ofList.2 (hprovided name hn)) hmissing
      · simp [hg, hunknown] at hknown

theorem auth_of_provider? {suite : Suite} {registrations : List (String × Provider σ)}
    {auth : Option (String × Provider σ)}
    (h : suite.provider? (.ofList registrations) = .ok auth) :
    auth.map Prod.fst = suite.authProvider ∧
      ∀ name provider, auth = some (name, provider) → LastUnder registrations name provider := by
  unfold provider? at h
  cases hn : suite.authProvider with
  | none =>
    rw [hn] at h
    cases h
    exact ⟨rfl, by simp⟩
  | some name =>
    cases hp : (Providers.ofList registrations).get? name with
    | none =>
      simp only [hn, hp] at h
      cases h
    | some provider =>
      simp only [hn, hp] at h
      cases h
      refine ⟨rfl, ?_⟩
      rintro _ _ ⟨rfl, rfl⟩
      exact Providers.lastUnder_of_get? hp

/-- What a configuration takes over from settings. -/
structure Becomes (suite : Suite) (registrations : List (String × Provider σ))
    (config : Config σ) : Prop where
  auth : config.auth.map Prod.fst = suite.authProvider
  last : ∀ name provider, config.auth = some (name, provider) →
    LastUnder registrations name provider
  guard : config.guard = suite.authGuard
  guards : config.guards = suite.guards
  known : ∀ guard, suite.authGuard = some guard → guard ∈ suite.guards

theorem Becomes.exists_auth {suite : Suite} {registrations : List (String × Provider σ)}
    {config : Config σ} (h : suite.Becomes registrations config) (hsome : suite.authProvider ≠ none) :
    ∃ named, config.auth = some named := by
  rw [← h.auth, ne_eq, Option.map_eq_none_iff] at hsome
  exact Option.ne_none_iff_exists'.1 hsome

theorem becomes_of_toConfig {suite : Suite} {registrations : List (String × Provider σ)}
    {config : Config σ} (h : suite.toConfig (.ofList registrations) = .ok config) :
    suite.Becomes registrations config := by
  rw [toConfig_eq] at h
  cases hp : suite.provider? (.ofList registrations) with
  | error failure =>
    rw [hp] at h
    cases h
  | ok auth =>
    by_cases hknown : suite.authGuard.all (· ∈ suite.guards) = true
    · simp only [hp, hknown, if_true] at h
      cases h
      obtain ⟨hname, hlast⟩ := auth_of_provider? hp
      exact ⟨hname, hlast, rfl, rfl, fun guard hg => by simpa [hg] using hknown⟩
    · simp only [hp, hknown] at h
      cases h

end Suite

/-! ## What providers are asked -/

/-- The guard for a principal: the one demanded last, or else that of the settings. -/
def Suite.guardFor (suite : Suite) (demands : List ActingAs.Demand) : Option String :=
  (demands.filterMap ActingAs.Demand.guard?).getLast?.or suite.authGuard

/-- A principal is vetted: this is the provider that is to authenticate it, and the guard is known. -/
structure Vetted (suite : Suite) (registrations : List (String × Provider σ))
    (provider : Provider σ) (demands : List ActingAs.Demand) : Prop where
  last : ∃ name, suite.authProvider = some name ∧ LastUnder registrations name provider
  known : ∀ guard, suite.guardFor demands = some guard → guard ∈ suite.guards

/-- The invocation asks a provider to authenticate a principal, with these abilities and by this
guard, and comes to what the provider answers. -/
def Invocation.Asks (invocation : Invocation σ) (provider : Provider σ) (principal : Value)
    (abilities : List String) (guard : Option String) : Prop :=
  invocation.outcome =
    match provider principal abilities guard invocation.world with
    | (.ok value, after) => (.ok (some value), after)
    | (.error cause, after) => (.error (.failed (.step cause)), after)

variable {suite : Suite} {registrations : List (String × Provider σ)} {config : Config σ}

/-- The step that a principal brings along asks the vetted provider. -/
theorem Call.Brings.vetted (hs : suite.Becomes registrations config) {principal : Value}
    {demands : List ActingAs.Demand} {entry : Entry σ}
    (h : (Call.actingAs principal (.ofDemands demands)).Brings config entry) :
    ∃ provider, Vetted suite registrations provider demands ∧
      entry.step = Scenario.authenticate provider principal
        (demands.filterMap ActingAs.Demand.ability?) (suite.guardFor demands) := by
  cases h with
  | asserted h => cases h
  | registered h =>
    obtain ⟨name, provider, hauth, hguard, hreg⟩ :=
      Call.registration_of_accepted (Call.refusal_of_registration h)
    rw [h] at hreg
    cases hreg
    have hfor : Scenario.guardFor config (.ofDemands demands) = suite.guardFor demands := by
      rw [Scenario.guardFor, Suite.guardFor, ActingAs.guard_ofDemands, hs.guard]
      cases (demands.filterMap ActingAs.Demand.guard?).getLast? <;> rfl
    refine ⟨provider, ⟨⟨name, ?_, hs.last name provider hauth⟩, ?_⟩, ?_⟩
    · rw [← hs.auth, hauth]
      rfl
    · -- A guard that was demanded is checked with the call, the other one with the settings.
      rw [ActingAs.guard_ofDemands] at hguard
      unfold Suite.guardFor
      cases hlast : (demands.filterMap ActingAs.Demand.guard?).getLast? with
      | none => exact fun guard hg => hs.known guard hg
      | some asked =>
        rintro _ ⟨rfl⟩
        rw [hlast, hs.guards] at hguard
        simpa using hguard
    · rw [hfor, ActingAs.abilities_ofDemands]

theorem asks_of_authenticate {invocation : Invocation σ} {provider : Provider σ}
    {principal : Value} {abilities : List String} {guard : Option String}
    (h : invocation.entry.step = Scenario.authenticate provider principal abilities guard) :
    invocation.Asks provider principal abilities guard := by
  unfold Invocation.Asks Invocation.outcome
  rw [h]
  rfl

namespace Scenario

/-- The calls end with the one behind these, which reports a failure. It changes nothing and invokes
nothing. -/
structure StopsBehind (config : Config σ) (world : σ) (calls before : List (Call σ))
    (failure : Failure) : Prop where
  result : ((fresh config).play world calls).result = .error (.failed failure)
  state : ((fresh config).play world calls).world = ((fresh config).play world before).world
  silent : (fresh config).invocations world calls = (fresh config).invocations world before

/-- What calls ask of providers. -/
structure Guarded (suite : Suite) (registrations : List (String × Provider σ))
    (config : Config σ) (world : σ) (calls : List (Call σ)) : Prop where
  /-- Whatever is invoked, one of the calls brought it along. -/
  brought : ∀ invocation ∈ (fresh config).invocations world calls, ∃ call ∈ calls,
    call.Brings config invocation.entry
  /-- Where that is the condition of a principal, a vetted provider is asked to authenticate it, with
  the abilities in the order of the demands. -/
  asks : ∀ invocation ∈ (fresh config).invocations world calls, ∀ principal demands,
    (Call.actingAs principal (.ofDemands demands)).Brings config invocation.entry →
    ∃ provider, Vetted suite registrations provider demands ∧
      invocation.Asks provider principal (demands.filterMap ActingAs.Demand.ability?)
        (suite.guardFor demands)
  /-- Nothing else is asked of any provider: what holds of the shared state goes on to hold if the
  steps and facades of the other calls keep it, and vetted providers do when they are asked for the
  principals of the calls. -/
  confined : ∀ holds : σ → Prop,
    (∀ call ∈ calls, (∀ principal options, call ≠ .actingAs principal options) →
      call.Keeps holds config) →
    (∀ provider principal demands, .actingAs principal (.ofDemands demands) ∈ calls →
      Vetted suite registrations provider demands → ∀ world, holds world →
        holds (provider principal (demands.filterMap ActingAs.Demand.ability?)
          (suite.guardFor demands) world).2) →
    holds world → holds ((fresh config).play world calls).world
  /-- A principal is added when there is a provider and the guard demanded, if any, is known. -/
  accepted : ∀ before principal demands reached,
    ((fresh config).play world before).result = .ok reached → suite.authProvider ≠ none →
    (demands.filterMap ActingAs.Demand.guard?).getLast?.all (· ∈ suite.guards) = true →
    ∃ next, ((fresh config).play world
      (before ++ [.actingAs principal (.ofDemands demands)])).result = .ok next
  /-- A principal is refused when there is no provider, whatever its guard. -/
  missing : ∀ before principal options after reached,
    calls = before ++ .actingAs principal options :: after →
    ((fresh config).play world before).result = .ok reached → suite.authProvider = none →
    StopsBehind config world calls before .providerMissing
  /-- A principal is refused when the guard that was demanded is not known. -/
  unknown : ∀ before principal demands after reached guard,
    calls = before ++ .actingAs principal (.ofDemands demands) :: after →
    ((fresh config).play world before).result = .ok reached → suite.authProvider ≠ none →
    (demands.filterMap ActingAs.Demand.guard?).getLast? = some guard → guard ∉ suite.guards →
    StopsBehind config world calls before (.unknownGuard guard suite.guards)

theorem config_of_play {world : σ} {calls : List (Call σ)} {reached : Scenario σ}
    (h : ((fresh config).play world calls).result = .ok reached) : reached.config = config := by
  obtain ⟨waiting, hreached⟩ := exists_reached config world calls
  obtain ⟨noted, -, hf⟩ := hreached.follows h
  exact hf.config

/-- Calls end with one that is refused, behind calls that returned. -/
theorem stopsBehind_of_refusal {world : σ} {before after : List (Call σ)} {call : Call σ}
    {reached : Scenario σ} {failure : Failure}
    (hp : ((fresh config).play world before).result = .ok reached)
    (hr : call.refusal? config = some failure) :
    StopsBehind config world (before ++ call :: after) before failure := by
  rw [← config_of_play hp] at hr
  have hcall := call_refused hr ((fresh config).play world before).world
  obtain ⟨principal, options, rfl⟩ := Call.kind_of_refusal hr
  have hplay := play_append (.actingAs principal options :: after) hp
  rw [play_cons_error (by rw [hcall]), hcall] at hplay
  refine ⟨by rw [hplay]; rfl, by rw [hplay]; rfl, ?_⟩
  have hsilent : reached.invocations ((fresh config).play world before).world
      (.actingAs principal options :: after) = [] := by
    simp [invocations, chronicle, callChapters, hcall]
  rw [invocations_append _ hp, hsilent, List.append_nil]

/-- Of settings that became a configuration, no call asks a provider for more than this. -/
theorem guarded_of_becomes (hs : suite.Becomes registrations config) (world : σ)
    (calls : List (Call σ)) : Guarded suite registrations config world calls where
  brought := invoked_brought config world calls
  asks invocation _ principal demands hb := by
    obtain ⟨provider, hv, hstep⟩ := hb.vetted hs
    exact ⟨provider, hv, asks_of_authenticate hstep⟩
  confined holds hothers hproviders h := by
    refine play_keeps (fun call hc => ?_) h
    by_cases hp : ∃ principal options, call = .actingAs principal options
    · obtain ⟨principal, options, rfl⟩ := hp
      obtain ⟨demands, rfl⟩ := ActingAs.exists_demands options
      refine ⟨fun entry hb => ?_, fun facade hf => by cases hf⟩
      obtain ⟨provider, hv, hstep⟩ := hb.vetted hs
      rw [hstep]
      intro arguments world h
      have hanswer := hproviders provider principal demands hc hv world h
      simp only [authenticate, Step.undescribed]
      split <;> rename_i heq <;> rw [heq] at hanswer <;> exact hanswer
    · exact hothers call hc fun principal options he => hp ⟨principal, options, he⟩
  accepted before principal demands reached hp hsome hguard := by
    obtain ⟨named, hauth⟩ := hs.exists_auth hsome
    have hr : (Call.actingAs principal (.ofDemands demands)).refusal? reached.config = none := by
      simp only [config_of_play hp, Call.refusal?, hauth, ActingAs.guard_ofDemands, hs.guards,
        hguard, if_true]
    rw [play_append _ hp, play_single, Scenario.call, actingAs_gathered hr]
    exact ⟨_, rfl⟩
  missing before principal options after reached hcalls hp hnone := by
    have hauth : config.auth = none := by simpa [hnone] using hs.auth
    rw [hcalls]
    exact stopsBehind_of_refusal hp (by simp [Call.refusal?, hauth])
  unknown before principal demands after reached guard hcalls hp hsome hguard hunknown := by
    obtain ⟨named, hauth⟩ := hs.exists_auth hsome
    rw [hcalls]
    refine stopsBehind_of_refusal hp ?_
    simp [Call.refusal?, hauth, ActingAs.guard_ofDemands, hguard, hs.guards, hunknown]

/-- Settings become a configuration exactly when the provider that they name, if any, was registered
and the guard that they name, if any, is one that they list. Whatever calls are made then, a
principal is refused where the settings name no provider or do not list the guard demanded. Else the
provider registered last under the name is asked to authenticate it, by its guard and with the
abilities demanded, and no provider is asked for anything more. -/
theorem guarded (suite : Suite) (registrations : List (String × Provider σ)) :
    suite.Checked registrations ∧
      ∀ config, suite.toConfig (.ofList registrations) = .ok config →
        ∀ world calls, Guarded suite registrations config world calls :=
  ⟨suite.checked_ofList registrations, fun _ h => guarded_of_becomes (Suite.becomes_of_toConfig h)⟩

/-- Settings that name a provider and one of two guards. -/
def sessionSuite : Suite :=
  ⟨some "session", some "web", ["web", "api"], "response", "user"⟩

open Script in
/-- Two providers of that name. -/
def sessionProviders : List (String × Provider World) :=
  [("session", provider "first" .deny), ("session", provider "second" .pass)]

open Script in
/-- A principal with two abilities and the other guard, and a verification. -/
def loggedIn : List (Call World) :=
  [.actingAs ⟨string, .text "ada"⟩ (.ofDemands [.ability "read", .guard "api", .ability "write"]),
    .verify (closure [] "check" .nothing)]

open Script in
/-- The last provider of the name is asked, with the abilities in their order and by the guard that
was demanded. -/
theorem guarded_session :
    ∃ config, sessionSuite.toConfig (.ofList sessionProviders) = .ok config ∧
      Guarded sessionSuite sessionProviders config .empty loggedIn ∧
      ((fresh config).play .empty loggedIn).world.records =
        [.provider "second" ⟨string, .text "ada"⟩ ["read", "write"] (some "api"),
          .step "check" []] := by
  obtain ⟨-, hguarded⟩ := guarded sessionSuite sessionProviders
  exact ⟨_, rfl, hguarded _ rfl _ _, rfl⟩

end Scenario

end Storytest
