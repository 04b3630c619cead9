import StellAIverse.Oracle.Breaker

/-!
# What a completed call does to records and limits

A call writes the record of at most one provider, and the limits and the subscription of at most one
caller. After an accepted price the record is written twice, the second time from a copy that
was read before the first: the counts come out right, since both raise them from the same
numbers, and the rating goes back to what it was.
-/

namespace Oracle

open Soroban

variable {s s' : State} {a : Action} {env : Ledger} {provider caller : Address} {feedId : String}
  {price : ℤ} {old : OracleProvider}

/-- The record after an update that is only tried. -/
def OracleProvider.tried (p : OracleProvider) : OracleProvider :=
  { p with totalUpdates := p.totalUpdates + 1 }

/-- The record after an accepted update. -/
def OracleProvider.succeeded (p : OracleProvider) : OracleProvider :=
  { p with
    totalUpdates := p.totalUpdates + 1
    successfulUpdates := p.successfulUpdates + 1
    reputationScore := min 100 (p.reputationScore + 1) }

/-- The call does this to the record of the provider, and nothing to the others. -/
def Changes (provider : Address) (f : OracleProvider → OracleProvider) (s s' : State) : Prop :=
  ∀ other, s'.provider.get? other =
    if other = provider then (s.provider.get? provider).map f else s.provider.get? other

/-- The record after an accepted price: the rating is the one that was read. -/
def OracleProvider.copied (p : OracleProvider) : OracleProvider :=
  { p.succeeded with reputationScore := p.reputationScore }

/-- The provider of the custom data that a call submits. -/
def Op.dataFrom? : Op → Option Address
  | .submitCustomData provider _ _ => some provider
  | _ => none

/-- Who asks for one feed, and for which. -/
def Op.query? : Op → Option (Address × String)
  | .getAggregatedPrice caller feedId => some (caller, feedId)
  | .getHistoricalPrices caller feedId _ => some (caller, feedId)
  | .getCustomData caller feedId => some (caller, feedId)
  | .getTwap caller feedId _ => some (caller, feedId)
  | _ => none

/-- Who asks for several feeds at once. -/
def Op.batch? : Op → Option Address
  | .getLatestPricesBatch caller _ => some caller
  | _ => none

instance (feedId : String) (s : State) (a : Action) : Decidable (Trips feedId s a) :=
  decidable_of_iff (After (fun s' => ∃ cbState ∈ s'.circuitBreaker.get? feedId,
    cbState.triggered = true) (next a s)) ⟨fun h => by
      obtain ⟨s', hs', cbState, hfound, hon⟩ := h.exists_ok
      exact ⟨s', cbState, hs', hfound, hon⟩, fun ⟨s', cbState, hs', hfound, hon⟩ => by
      rw [hs']
      exact ⟨cbState, hfound, hon⟩⟩

/-- What a completed call writes of providers and of the limits of callers. -/
inductive Account (s : State) : Action → State → Prop
  | office (a : Action) (s' : State) (noPrice : a.op.submitted? = none)
      (noData : a.op.dataFrom? = none) (noQuery : a.op.query? = none) (noBatch : a.op.batch? = none)
      (provider : s'.provider = s.provider) (rateLimit : s'.rateLimit = s.rateLimit) :
      Account s a s'
  | registered (env : Ledger) (admin providerAddress : Address) (kind : OracleProviderType)
      (isPrimary : Bool) (stake minStake : ℤ) (s' : State) (new : OracleProvider)
      (fresh : s.provider.get? providerAddress = none) (rating : new.reputationScore = 50)
      (unused : new.totalUpdates = 0 ∧ new.successfulUpdates = 0)
      (provider : s'.provider = s.provider.set providerAddress new)
      (rateLimit : s'.rateLimit = s.rateLimit) :
      Account s ⟨env, .registerProvider admin providerAddress kind isPrimary stake minStake⟩ s'
  | priced (env : Ledger) (provider : Address) (feedId : String) (price : ℤ) (s' : State)
      (listed : (s.provider.get? provider).isSome = true)
      (changes : Changes provider
        (if Trips feedId s ⟨env, .submitPrice provider feedId price⟩ then .tried else .copied) s s')
      (rateLimit : s'.rateLimit = s.rateLimit) :
      Account s ⟨env, .submitPrice provider feedId price⟩ s'
  | data (env : Ledger) (provider : Address) (feedId data : String) (s' : State)
      (changes : Changes provider .succeeded s s') (rateLimit : s'.rateLimit = s.rateLimit) :
      Account s ⟨env, .submitCustomData provider feedId data⟩ s'
  | queried (a : Action) (caller : Address) (feedId : String) (s₁ s' : State)
      (query : a.op.query? = some (caller, feedId))
      (consumed : RateLimiter.consumeQuery a.env caller feedId 3600 1000 s = .ok s₁)
      (provider : s'.provider = s.provider) (rateLimit : s'.rateLimit = s₁.rateLimit) :
      Account s a s'
  | batched (env : Ledger) (caller : Address) (feedIds : List String) (s' : State)
      (consumed : RateLimiter.consumeBatchQuery env caller s = .ok s')
      (provider : s'.provider = s.provider) :
      Account s ⟨env, .getLatestPricesBatch caller feedIds⟩ s'

/-- Where there is no record, there is nothing to change. -/
theorem Changes.of_none (hnone : s.provider.get? provider = none)
    {f : OracleProvider → OracleProvider} (h : s'.provider = s.provider) :
    Changes provider f s s' := by
  intro other
  rw [h, hnone, Option.map_none]
  split
  · rename_i hsame
    rw [hsame, hnone]
  · rfl

theorem Changes.of_set (hfound : s.provider.get? provider = some old)
    {f : OracleProvider → OracleProvider} (h : s'.provider = s.provider.set provider (f old)) :
    Changes provider f s s' := by
  intro other
  rw [h, Store.get?_set, hfound, Option.map_some]

theorem raise_eq (score limit : ℕ) :
    IncentiveManager.raise score limit = min limit (score + 1) := min_comm _ _

theorem recordSuccessfulUpdate_changes
    (h : IncentiveManager.recordSuccessfulUpdate env provider s = .ok s') :
    Changes provider .succeeded s s' := by
  unfold IncentiveManager.recordSuccessfulUpdate at h
  dsimp only at h
  split at h
  · rename_i hnone
    cases h
    exact .of_none hnone rfl
  · rename_i old hfound
    simp only [U64.add_bind] at h
    cases h.2.2
    refine .of_set hfound ?_
    simp only [OracleProvider.succeeded, raise_eq]

theorem recordFailedUpdate_changes (h : IncentiveManager.recordFailedUpdate provider s = .ok s') :
    Changes provider .tried s s' := by
  unfold IncentiveManager.recordFailedUpdate at h
  simp only [U32.add_bind] at h
  obtain ⟨-, h⟩ := h
  split at h
  · rename_i hnone
    cases h
    exact .of_none hnone rfl
  · rename_i old hfound
    rw [U64.add_bind] at h
    cases h.2
    exact .of_set hfound rfl

/-- The second write of an accepted price decides. -/
theorem rewardUpdate_changes (hfound : s.provider.get? provider = some old)
    (h : rewardUpdate env provider old s = .ok s') : Changes provider .copied s s' := by
  unfold rewardUpdate IncentiveManager.distributeUpdateReward at h
  obtain ⟨s₁, hrecord, h⟩ := bind_ok.mp h
  have hfirst := recordSuccessfulUpdate_changes hrecord
  simp only [U64.add_bind] at h
  obtain ⟨-, -, h⟩ := h
  obtain ⟨r, hr, h⟩ := bind_ok.mp h
  obtain ⟨reward, -, hr⟩ := bind_ok.mp hr
  simp only [I128.add_bind, U64.add_bind] at hr
  cases hr.2.2
  cases h
  intro other
  rw [Store.get?_set, hfound]
  split
  · rfl
  · rename_i hne
    rw [hfirst other, if_neg hne]

theorem trigger_ok {newPrice previous : ℤ} {changeBps cooldown : ℕ}
    (h : CircuitBreaker.trigger env feedId newPrice previous changeBps cooldown s = .ok s') :
    ∃ cbState : CircuitBreakerState, cbState.triggered = true ∧
      s' = { s with circuitBreaker := s.circuitBreaker.set feedId cbState } := by
  unfold CircuitBreaker.trigger at h
  rw [U64.add_bind] at h
  cases h.2
  exact ⟨_, rfl, rfl⟩

/-- A completed submission comes from a registered provider. Its price is only tried if it trips
the breaker, and else copied. -/
theorem submitPrice_changes (h : submitPrice env provider feedId price s = .ok s') :
    (s.provider.get? provider).isSome = true ∧
      Changes provider
        (if Trips feedId s ⟨env, .submitPrice provider feedId price⟩ then .tried else .copied)
        s s' ∧ s'.rateLimit = s.rateLimit := by
  have hnext : next ⟨env, .submitPrice provider feedId price⟩ s = .ok s' := h
  unfold submitPrice at h
  simp only [requireAuth_bind, failIf_bind, okOr_bind] at h
  obtain ⟨-, -, config, -, -, -, old, hfound, -, h⟩ := h
  obtain ⟨-, -, h⟩ := bind_ok.mp h
  rcases hlook : CircuitBreaker.isTriggered env feedId s with ⟨triggered, s₁⟩
  rw [hlook] at h
  dsimp only at h
  rw [failIf_bind] at h
  obtain ⟨htriggered, h⟩ := h
  rw [Bool.not_eq_true] at htriggered
  subst htriggered
  obtain ⟨-, -, -, hoff, hprovider⟩ := isTriggered_passed hlook
  have hlimit : s₁.rateLimit = s.rateLimit := by
    obtain ⟨_, rfl⟩ := isTriggered_frame hlook
    rfl
  unfold settlePrice at h
  obtain ⟨⟨shouldTrigger, changeBps⟩, -, h⟩ := bind_ok.mp h
  dsimp only at h
  refine ⟨by rw [hfound]; rfl, ?_⟩
  split at h
  · obtain ⟨s₂, hs₂, h⟩ := bind_ok.mp h
    obtain ⟨cbState, hon, rfl⟩ := trigger_ok hs₂
    have hchanges := recordFailedUpdate_changes h
    obtain ⟨_, _, hs'⟩ := recordFailedUpdate_ok h
    have htrips : Trips feedId s ⟨env, .submitPrice provider feedId price⟩ := by
      refine ⟨s', cbState, hnext, ?_, hon⟩
      rw [hs', Store.get?_set, if_pos rfl]
    have hkept : s'.rateLimit = s₁.rateLimit := by
      rw [hs']
      rfl
    refine ⟨fun other => ?_, hkept.trans hlimit⟩
    rw [if_pos htrips, hchanges other, ← hprovider]
    rfl
  · have hchanges : Changes provider .copied (storePrice feedId _ s₁) s' :=
      rewardUpdate_changes (by rw [← hfound, ← hprovider]; rfl) h
    obtain ⟨-, hbreaker, hkept⟩ := rewardUpdate_ok h
    have hquiet : ¬ Trips feedId s ⟨env, .submitPrice provider feedId price⟩ := by
      rintro ⟨s'', cbState, hs'', hcb, hon⟩
      cases hnext.symm.trans hs''
      rw [hbreaker] at hcb
      rw [hoff cbState hcb] at hon
      cases hon
    refine ⟨fun other => ?_, hkept.trans hlimit⟩
    rw [if_neg hquiet, hchanges other, ← hprovider]
    rfl

theorem consumeQuery_provider {window maximum : ℕ}
    (h : RateLimiter.consumeQuery env caller feedId window maximum s = .ok s') :
    s'.provider = s.provider := by
  obtain ⟨_, _, rfl⟩ := consumeQuery_ok h
  rfl

/-- An aggregation is a query, and touches no limit after that. -/
theorem getAggregatedPrice_consumes {r : AggregatedPrice × State}
    (h : getAggregatedPrice env caller feedId s = .ok r) :
    ∃ s₁, RateLimiter.consumeQuery env caller feedId 3600 1000 s = .ok s₁ ∧
      r.2.provider = s.provider ∧ r.2.rateLimit = s₁.rateLimit := by
  unfold getAggregatedPrice at h
  obtain ⟨s₁, hquery, h⟩ := bind_ok.mp h
  simp only [okOr_bind, failIf_bind] at h
  obtain ⟨feed, -, -, h⟩ := h
  rcases hlook : CircuitBreaker.isTriggered env feedId s₁ with ⟨triggered, s₂⟩
  rw [hlook] at h
  obtain ⟨htriggered, h⟩ := h
  rw [Bool.not_eq_true] at htriggered
  subst htriggered
  obtain ⟨-, -, -, -, hprovider⟩ := isTriggered_passed hlook
  have hlimit : s₂.rateLimit = s₁.rateLimit := by
    obtain ⟨_, rfl⟩ := isTriggered_frame hlook
    rfl
  obtain ⟨⟨⟨prices, usingFallback⟩, s₃⟩, hgather, h⟩ := bind_ok.mp h
  obtain ⟨fallbackConfig, hs₃⟩ := gatherPrices_ok hgather
  dsimp only at hs₃
  subst hs₃
  obtain ⟨filtered, -, h⟩ := bind_ok.mp h
  obtain ⟨aggregated, -, h⟩ := bind_ok.mp h
  rw [failIf_bind] at h
  cases h.2
  exact ⟨s₁, hquery, hprovider.trans (consumeQuery_provider hquery), hlimit⟩

/-- Every completed call has its account. -/
theorem next_account (h : next a s = .ok s') : Account s a s' := by
  obtain ⟨env, op⟩ := a
  cases op with
  | initializeContract admin treasury =>
    unfold next initializeContract at h
    simp only [failIf_bind, requireAuth_bind] at h
    cases h.2.2
    exact .office _ _ rfl rfl rfl rfl rfl rfl
  | registerProvider admin providerAddress kind isPrimary stake minStake =>
    obtain ⟨-, -, h⟩ := bind_ok.mp h
    obtain ⟨-, -, h⟩ := bind_ok.mp h
    simp only [failIf_bind, U64.add_bind] at h
    obtain ⟨-, hfresh, -, h⟩ := h
    cases h
    rw [Option.not_isSome_iff_eq_none] at hfresh
    exact .registered env admin providerAddress kind isPrimary stake minStake _ _ hfresh rfl
      ⟨rfl, rfl⟩ rfl rfl
  | createPriceFeed admin args =>
    unfold next createPriceFeed at h
    obtain ⟨-, -, h⟩ := bind_ok.mp h
    obtain ⟨-, -, h⟩ := bind_ok.mp h
    simp only [failIf_bind, U64.add_bind] at h
    cases h.2.2.2
    split <;> exact .office _ _ rfl rfl rfl rfl rfl rfl
  | submitPrice provider feedId price =>
    obtain ⟨hlisted, hchanges, hlimit⟩ := submitPrice_changes h
    exact .priced env provider feedId price s' hlisted hchanges hlimit
  | getAggregatedPrice caller feedId =>
    obtain ⟨r, hr, rfl⟩ := map_ok.mp h
    obtain ⟨s₁, hquery, hprovider, hlimit⟩ := getAggregatedPrice_consumes hr
    exact .queried _ caller feedId s₁ _ rfl hquery hprovider hlimit
  | getHistoricalPrices caller feedId limit =>
    obtain ⟨r, hr, rfl⟩ := map_ok.mp h
    obtain ⟨s₁, hquery, hr⟩ := bind_ok.mp hr
    rw [failIf_bind] at hr
    cases hr.2
    exact .queried _ caller feedId s₁ _ rfl hquery (consumeQuery_provider hquery) rfl
  | createCustomFeed admin feedId description dataType maxStaleness providers =>
    obtain ⟨-, -, h⟩ := bind_ok.mp h
    obtain ⟨-, -, h⟩ := bind_ok.mp h
    rw [failIf_bind] at h
    cases h.2
    exact .office _ _ rfl rfl rfl rfl rfl rfl
  | submitCustomData provider feedId data =>
    unfold next submitCustomData at h
    simp only [requireAuth_bind, okOr_bind, failIf_bind] at h
    obtain ⟨-, feed, -, -, h⟩ := h
    have hchanges := recordSuccessfulUpdate_changes h
    obtain ⟨_, _, rfl⟩ := recordSuccessfulUpdate_ok h
    exact .data env provider feedId data _ hchanges rfl
  | getCustomData caller feedId =>
    obtain ⟨r, hr, rfl⟩ := map_ok.mp h
    obtain ⟨s₁, hquery, hr⟩ := bind_ok.mp hr
    simp only [okOr_bind, failIf_bind, U64.sub_bind] at hr
    obtain ⟨feed, -, -, -, -, hr⟩ := hr
    cases hr
    exact .queried _ caller feedId s₁ _ rfl hquery (consumeQuery_provider hquery) rfl
  | withdrawIncentives provider =>
    obtain ⟨r, hr, rfl⟩ := map_ok.mp h
    unfold IncentiveManager.withdrawIncentives at hr
    simp only [requireAuth_bind, failIf_bind] at hr
    cases hr.2.2
    exact .office _ _ rfl rfl rfl rfl rfl rfl
  | resetCircuitBreaker admin feedId =>
    obtain ⟨-, -, h⟩ := bind_ok.mp h
    obtain ⟨-, -, h⟩ := bind_ok.mp h
    cases h
    exact .office _ _ rfl rfl rfl rfl rfl rfl
  | addFallbackProvider admin feedId provider =>
    obtain ⟨-, -, h⟩ := bind_ok.mp h
    obtain ⟨-, -, h⟩ := bind_ok.mp h
    dsimp only at h
    split at h <;> cases h <;> exact .office _ _ rfl rfl rfl rfl rfl rfl
  | grantSubscription admin user feedId tier duration =>
    obtain ⟨-, -, h⟩ := bind_ok.mp h
    obtain ⟨-, -, h⟩ := bind_ok.mp h
    simp only [failIf_bind, U64.add_bind] at h
    cases h.2.2
    exact .office _ _ rfl rfl rfl rfl rfl rfl
  | getLatestPricesBatch caller feedIds =>
    obtain ⟨r, hr, rfl⟩ := map_ok.mp h
    obtain ⟨s₁, hquery, hr⟩ := bind_ok.mp hr
    have hprovider : s₁.provider = s.provider := by
      obtain ⟨_, rfl⟩ := checkGlobalRateLimit_ok hquery
      rfl
    cases hr
    exact .batched env caller feedIds s₁ hquery hprovider
  | getTwap caller feedId windowSeconds =>
    obtain ⟨r, hr, rfl⟩ := map_ok.mp h
    obtain ⟨s₁, hquery, hr⟩ := bind_ok.mp hr
    rw [failIf_bind] at hr
    obtain ⟨average, -, hr⟩ := bind_ok.mp hr.2
    obtain ⟨twap, -, hr⟩ := okOr_bind.mp hr
    cases hr
    exact .queried _ caller feedId s₁ _ rfl hquery (consumeQuery_provider hquery) rfl

end Oracle
