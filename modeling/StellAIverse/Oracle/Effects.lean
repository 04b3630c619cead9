import StellAIverse.Soroban.History
import StellAIverse.Oracle.Contract

/-!
# What a completed call does to prices and breakers

Most calls leave both alone. A feed is created once, an aggregation and a submission look at
the breaker, and a submission stores its price whether or not it trips the breaker.
-/

namespace Oracle

open Soroban

variable {s s' : State} {a : Action}

/-- The feed that a call submits a price to, and who submits it. -/
def Op.submitted? : Op → Option (String × Address)
  | .submitPrice provider feedId _ => some (feedId, provider)
  | _ => none

/-- Feeds and prices are as they were. -/
structure PricesKept (s s' : State) : Prop where
  priceFeed : s'.priceFeed = s.priceFeed
  latestPrice : s'.latestPrice = s.latestPrice
  providerPrice : s'.providerPrice = s.providerPrice
  priceHistory : s'.priceHistory = s.priceHistory

/-- The breakers of the other feeds are as they were. -/
def OthersKept (feedId : String) (s s' : State) : Prop :=
  ∀ other, other ≠ feedId → s'.circuitBreaker.get? other = s.circuitBreaker.get? other

/-- A price of a provider, as it is stored at this ledger. -/
def entryAt (env : Ledger) (provider : Address) (providerType : OracleProviderType) (price : ℤ) :
    PriceEntry where
  price := price
  timestamp := env.timestamp
  provider := provider
  providerType := providerType
  blockNumber := env.sequence

/-- The breaker of the feed lets a call at this time pass. -/
def Passes (env : Ledger) (feedId : String) (s : State) : Prop :=
  (CircuitBreaker.isTriggered env feedId s).1 = false

inductive Effect (s : State) : Action → State → Prop
  | aside (a : Action) (s' : State) (other : a.op.submitted? = none) (kept : PricesKept s s')
      (breaker : s'.circuitBreaker = s.circuitBreaker) : Effect s a s'
  | created (env : Ledger) (admin : Address) (args : FeedArgs) (s' : State) (config : PriceFeed)
      (fresh : s.priceFeed.get? args.feedId = none)
      (priceFeed : s'.priceFeed = s.priceFeed.set args.feedId config)
      (latestPrice : s'.latestPrice = s.latestPrice)
      (providerPrice : s'.providerPrice = s.providerPrice)
      (priceHistory : s'.priceHistory = s.priceHistory.set args.feedId [])
      (others : OthersKept args.feedId s s') : Effect s ⟨env, .createPriceFeed admin args⟩ s'
  | reset (env : Ledger) (admin : Address) (feedId : String) :
      Effect s ⟨env, .resetCircuitBreaker admin feedId⟩ (CircuitBreaker.reset feedId s)
  | aggregated (env : Ledger) (caller : Address) (feedId : String) (s' : State)
      (passes : Passes env feedId s) (kept : PricesKept s s') (others : OthersKept feedId s s') :
      Effect s ⟨env, .getAggregatedPrice caller feedId⟩ s'
  | submitted (env : Ledger) (provider : Address) (feedId : String) (price : ℤ) (s' : State)
      (config : PriceFeed) (providerData : OracleProvider)
      (found : s.priceFeed.get? feedId = some config) (passes : Passes env feedId s)
      (stored : PricesKept
        (storePrice feedId (entryAt env provider providerData.providerType price) s) s')
      (others : OthersKept feedId s s')
      (tripped : ∀ cbState, s'.circuitBreaker.get? feedId = some cbState →
        cbState.triggered = true → cbState.canResumeAt = some (env.timestamp + 3600)) :
      Effect s ⟨env, .submitPrice provider feedId price⟩ s'

theorem PricesKept.refl (s : State) : PricesKept s s := ⟨rfl, rfl, rfl, rfl⟩

theorem OthersKept.trans {feedId : String} {s'' : State} (h : OthersKept feedId s s')
    (h' : OthersKept feedId s' s'') : OthersKept feedId s s'' := fun other hne =>
  (h' other hne).trans (h other hne)

theorem OthersKept.of_eq {feedId : String} (h : s'.circuitBreaker = s.circuitBreaker) :
    OthersKept feedId s s' := fun _ _ => by rw [h]

theorem othersKept_set {feedId : String} {cbState : CircuitBreakerState}
    (h : s'.circuitBreaker = s.circuitBreaker.set feedId cbState) : OthersKept feedId s s' := by
  intro other hne
  rw [h, Store.get?_set, if_neg hne]

/-- Whether a breaker is triggered is read from the breakers. -/
theorem isTriggered_congr {env : Ledger} {feedId : String}
    (h : s'.circuitBreaker = s.circuitBreaker) :
    (CircuitBreaker.isTriggered env feedId s').1 = (CircuitBreaker.isTriggered env feedId s).1 := by
  unfold CircuitBreaker.isTriggered
  rw [h]
  split
  · rfl
  · split
    · split
      · split <;> rfl
      · rfl
    · rfl

/-- A look at a breaker writes to breakers only. -/
theorem isTriggered_frame {env : Ledger} {feedId : String} {triggered : Bool} {s₁ : State}
    (h : CircuitBreaker.isTriggered env feedId s = (triggered, s₁)) :
    ∃ circuitBreaker, s₁ = { s with circuitBreaker } := by
  unfold CircuitBreaker.isTriggered at h
  split at h
  · cases h
    exact ⟨_, rfl⟩
  · split at h
    · split at h
      · split at h <;> cases h <;> exact ⟨_, rfl⟩
      · cases h
        exact ⟨_, rfl⟩
    · cases h
      exact ⟨_, rfl⟩

/-- A look at a breaker that lets the caller pass leaves it untriggered. -/
theorem isTriggered_passed {env : Ledger} {feedId : String} {s₁ : State}
    (h : CircuitBreaker.isTriggered env feedId s = (false, s₁)) :
    Passes env feedId s ∧ PricesKept s s₁ ∧ OthersKept feedId s s₁ ∧
      (∀ cbState, s₁.circuitBreaker.get? feedId = some cbState → cbState.triggered = false) ∧
      s₁.provider = s.provider := by
  refine ⟨congrArg Prod.fst h, ?_⟩
  have hsame : (∀ cbState, s.circuitBreaker.get? feedId = some cbState →
      cbState.triggered = false) → PricesKept s s ∧ OthersKept feedId s s ∧
      (∀ cbState, s.circuitBreaker.get? feedId = some cbState → cbState.triggered = false) ∧
      s.provider = s.provider := fun hoff => ⟨.refl s, .of_eq rfl, hoff, rfl⟩
  unfold CircuitBreaker.isTriggered at h
  split at h
  · rename_i hnone
    cases h
    exact hsame fun cbState hfound => by rw [hnone] at hfound; cases hfound
  · rename_i cbState hfound
    split at h
    · split at h
      · split at h
        · cases h
        · cases h
          refine ⟨⟨rfl, rfl, rfl, rfl⟩, othersKept_set rfl, fun cbState' hfound' => ?_, rfl⟩
          rw [CircuitBreaker.reset, Store.get?_set, if_pos rfl] at hfound'
          cases hfound'
          rfl
      · cases h
    · rename_i hoff
      cases h
      refine hsame fun cbState' hfound' => ?_
      cases hfound.symm.trans hfound'
      exact eq_false_of_ne_true hoff

theorem checkGlobalRateLimit_ok {env : Ledger} {user : Address} {windowSeconds maxQueries : ℕ}
    (h : RateLimiter.checkGlobalRateLimit env user windowSeconds maxQueries s = .ok s') :
    ∃ rateLimit, s' = { s with rateLimit } := by
  unfold RateLimiter.checkGlobalRateLimit at h
  simp only [U64.sub_bind, failIf_bind, U32.add_bind] at h
  obtain ⟨-, -, -, h⟩ := h
  cases h
  exact ⟨_, rfl⟩

/-- A query writes to subscriptions and limits only. -/
theorem consumeQuery_ok {env : Ledger} {user : Address} {feedId : String} {window maximum : ℕ}
    (h : RateLimiter.consumeQuery env user feedId window maximum s = .ok s') :
    ∃ subscription rateLimit, s' = { s with subscription, rateLimit } := by
  unfold RateLimiter.consumeQuery at h
  split at h
  · obtain ⟨rateLimit, rfl⟩ := checkGlobalRateLimit_ok h
    exact ⟨s.subscription, rateLimit, rfl⟩
  · simp only [failIf_bind] at h
    obtain ⟨-, -, h⟩ := h
    obtain ⟨rateLimit, rfl⟩ := checkGlobalRateLimit_ok h
    split
    · exact ⟨s.subscription, rateLimit, rfl⟩
    · exact ⟨_, rateLimit, rfl⟩

theorem recordSuccessfulUpdate_ok {env : Ledger} {provider : Address}
    (h : IncentiveManager.recordSuccessfulUpdate env provider s = .ok s') :
    ∃ provider providerHealth, s' = { s with provider, providerHealth } := by
  unfold IncentiveManager.recordSuccessfulUpdate at h
  dsimp only at h
  split at h
  · cases h
    exact ⟨_, _, rfl⟩
  · simp only [U64.add_bind] at h
    obtain ⟨-, -, h⟩ := h
    cases h
    exact ⟨_, _, rfl⟩

theorem recordFailedUpdate_ok {provider : Address}
    (h : IncentiveManager.recordFailedUpdate provider s = .ok s') :
    ∃ provider providerHealth, s' = { s with provider, providerHealth } := by
  unfold IncentiveManager.recordFailedUpdate at h
  simp only [U32.add_bind] at h
  obtain ⟨-, h⟩ := h
  split at h
  · cases h
    exact ⟨_, _, rfl⟩
  · rw [U64.add_bind] at h
    cases h.2
    exact ⟨_, _, rfl⟩

theorem rewardUpdate_ok {env : Ledger} {provider : Address} {providerData : OracleProvider}
    (h : rewardUpdate env provider providerData s = .ok s') :
    PricesKept s s' ∧ s'.circuitBreaker = s.circuitBreaker ∧ s'.rateLimit = s.rateLimit := by
  unfold rewardUpdate IncentiveManager.distributeUpdateReward at h
  obtain ⟨s₁, hrecord, h⟩ := bind_ok.mp h
  obtain ⟨_, _, rfl⟩ := recordSuccessfulUpdate_ok hrecord
  simp only [U64.add_bind] at h
  obtain ⟨-, -, h⟩ := h
  obtain ⟨r, hr, h⟩ := bind_ok.mp h
  obtain ⟨reward, -, hr⟩ := bind_ok.mp hr
  simp only [I128.add_bind, U64.add_bind] at hr
  obtain ⟨-, -, hr⟩ := hr
  cases hr
  cases h
  exact ⟨⟨rfl, rfl, rfl, rfl⟩, rfl, rfl⟩

/-- What follows the storing of a price leaves prices alone, and may trip the breaker. -/
theorem settlePrice_ok {env : Ledger} {feed : PriceFeed} {feedId : String} {provider : Address}
    {providerData : OracleProvider} {price previous : ℤ}
    (h : settlePrice env feed feedId provider providerData price previous s = .ok s') :
    PricesKept s s' ∧ (s'.circuitBreaker = s.circuitBreaker ∨ ∃ cbState,
      cbState.canResumeAt = some (env.timestamp + 3600) ∧
        s'.circuitBreaker = s.circuitBreaker.set feedId cbState) := by
  unfold settlePrice at h
  obtain ⟨⟨shouldTrigger, changeBps⟩, -, h⟩ := bind_ok.mp h
  dsimp only at h
  split at h
  · unfold CircuitBreaker.trigger at h
    obtain ⟨s₁, hs₁, h⟩ := bind_ok.mp h
    rw [U64.add_bind] at hs₁
    cases hs₁.2
    obtain ⟨_, _, rfl⟩ := recordFailedUpdate_ok h
    exact ⟨⟨rfl, rfl, rfl, rfl⟩, .inr ⟨_, rfl, rfl⟩⟩
  · obtain ⟨hkept, hbreaker, -⟩ := rewardUpdate_ok h
    exact ⟨hkept, .inl hbreaker⟩

theorem submitPrice_effect {env : Ledger} {provider : Address} {feedId : String} {price : ℤ}
    (h : submitPrice env provider feedId price s = .ok s') :
    Effect s ⟨env, .submitPrice provider feedId price⟩ s' := by
  unfold submitPrice at h
  simp only [requireAuth_bind, failIf_bind, okOr_bind] at h
  obtain ⟨-, -, config, hfound, -, -, providerData, -, -, h⟩ := h
  obtain ⟨-, -, h⟩ := bind_ok.mp h
  rcases hlook : CircuitBreaker.isTriggered env feedId s with ⟨triggered, s₁⟩
  rw [hlook] at h
  dsimp only at h
  rw [failIf_bind] at h
  obtain ⟨htriggered, h⟩ := h
  rw [Bool.not_eq_true] at htriggered
  subst htriggered
  obtain ⟨hpasses, hkept, hothers, hoff, -⟩ := isTriggered_passed hlook
  obtain ⟨hstored, hbreaker⟩ := settlePrice_ok h
  refine .submitted env provider feedId price s' config providerData hfound hpasses ?_ ?_ ?_
  · refine ⟨hstored.priceFeed.trans hkept.priceFeed, hstored.latestPrice.trans ?_,
      hstored.providerPrice.trans ?_, hstored.priceHistory.trans ?_⟩
    · simp only [storePrice, entryAt, hkept.latestPrice]
    · simp only [storePrice, entryAt, hkept.providerPrice]
    · simp only [storePrice, entryAt, hkept.priceHistory]
  · rcases hbreaker with hbreaker | ⟨cbState, -, hbreaker⟩
    · exact hothers.trans (.of_eq hbreaker)
    · exact hothers.trans (othersKept_set hbreaker)
  · intro cbState hcb hon
    rcases hbreaker with hbreaker | ⟨cbState', hresume, hbreaker⟩ <;> rw [hbreaker] at hcb
    · rw [hoff cbState hcb] at hon
      cases hon
    · rw [Store.get?_set, if_pos rfl] at hcb
      cases hcb
      exact hresume

theorem createPriceFeed_effect {env : Ledger} {admin : Address} {args : FeedArgs}
    (h : createPriceFeed env admin args s = .ok s') :
    Effect s ⟨env, .createPriceFeed admin args⟩ s' := by
  unfold createPriceFeed at h
  obtain ⟨-, -, h⟩ := bind_ok.mp h
  obtain ⟨-, -, h⟩ := bind_ok.mp h
  simp only [failIf_bind, U64.add_bind] at h
  obtain ⟨hfresh, -, -, h⟩ := h
  have hfresh : s.priceFeed.get? args.feedId = none := by simpa using hfresh
  cases h
  split
  · exact .created env admin args _ _ hfresh rfl rfl rfl rfl (othersKept_set rfl)
  · exact .created env admin args _ _ hfresh rfl rfl rfl rfl (.of_eq rfl)

theorem gatherPrices_ok {feed : PriceFeed} {feedId : String}
    {r : (List PriceEntry × Bool) × State} (h : gatherPrices feed feedId s = .ok r) :
    ∃ fallbackConfig, r.2 = { s with fallbackConfig } := by
  unfold gatherPrices at h
  dsimp only at h
  split at h
  · rw [U32.add_bind] at h
    cases h.2
    exact ⟨_, rfl⟩
  · cases h
    exact ⟨_, rfl⟩

theorem getAggregatedPrice_ok {env : Ledger} {caller : Address} {feedId : String}
    {r : AggregatedPrice × State} (h : getAggregatedPrice env caller feedId s = .ok r) :
    Passes env feedId s ∧ PricesKept s r.2 ∧ OthersKept feedId s r.2 := by
  unfold getAggregatedPrice at h
  obtain ⟨s₁, hquery, h⟩ := bind_ok.mp h
  obtain ⟨_, _, rfl⟩ := consumeQuery_ok hquery
  simp only [okOr_bind, failIf_bind] at h
  obtain ⟨feed, -, -, h⟩ := h
  rcases hlook : CircuitBreaker.isTriggered env feedId
    { s with subscription := _, rateLimit := _ } with ⟨triggered, s₂⟩
  rw [hlook] at h
  obtain ⟨htriggered, h⟩ := h
  rw [Bool.not_eq_true] at htriggered
  subst htriggered
  obtain ⟨hpasses, hkept, hothers, -, -⟩ := isTriggered_passed hlook
  obtain ⟨gathered, hgather, h⟩ := bind_ok.mp h
  obtain ⟨fallbackConfig, hs₃⟩ := gatherPrices_ok hgather
  obtain ⟨⟨prices, usingFallback⟩, s₃⟩ := gathered
  dsimp only at hs₃
  subst hs₃
  obtain ⟨filtered, -, h⟩ := bind_ok.mp h
  obtain ⟨aggregated, -, h⟩ := bind_ok.mp h
  rw [failIf_bind] at h
  cases h.2
  have hsame : Passes env feedId s := by
    rw [Passes, ← hpasses]
    refine (isTriggered_congr ?_).symm
    rfl
  exact ⟨hsame, ⟨hkept.priceFeed, hkept.latestPrice, hkept.providerPrice, hkept.priceHistory⟩,
    hothers⟩

/-- Every completed call has its effect. -/
theorem next_effect (h : next a s = .ok s') : Effect s a s' := by
  obtain ⟨env, op⟩ := a
  cases op with
  | initializeContract admin treasury =>
    unfold next initializeContract at h
    simp only [failIf_bind, requireAuth_bind] at h
    cases h.2.2
    exact .aside _ _ rfl ⟨rfl, rfl, rfl, rfl⟩ rfl
  | registerProvider admin provider kind isPrimary stake minStake =>
    obtain ⟨-, -, h⟩ := bind_ok.mp h
    obtain ⟨-, -, h⟩ := bind_ok.mp h
    simp only [failIf_bind, U64.add_bind] at h
    cases h.2.2.2
    exact .aside _ _ rfl ⟨rfl, rfl, rfl, rfl⟩ rfl
  | createPriceFeed admin args => exact createPriceFeed_effect h
  | submitPrice provider feedId price => exact submitPrice_effect h
  | getAggregatedPrice caller feedId =>
    obtain ⟨r, hr, rfl⟩ := map_ok.mp h
    obtain ⟨hpasses, hkept, hothers⟩ := getAggregatedPrice_ok hr
    exact .aggregated env caller feedId _ hpasses hkept hothers
  | getHistoricalPrices caller feedId limit =>
    obtain ⟨r, hr, rfl⟩ := map_ok.mp h
    obtain ⟨s₁, hquery, hr⟩ := bind_ok.mp hr
    obtain ⟨_, _, rfl⟩ := consumeQuery_ok hquery
    rw [failIf_bind] at hr
    cases hr.2
    exact .aside _ _ rfl ⟨rfl, rfl, rfl, rfl⟩ rfl
  | createCustomFeed admin feedId description dataType maxStaleness providers =>
    obtain ⟨-, -, h⟩ := bind_ok.mp h
    obtain ⟨-, -, h⟩ := bind_ok.mp h
    rw [failIf_bind] at h
    cases h.2
    exact .aside _ _ rfl ⟨rfl, rfl, rfl, rfl⟩ rfl
  | submitCustomData provider feedId data =>
    unfold next submitCustomData at h
    simp only [requireAuth_bind, okOr_bind, failIf_bind] at h
    obtain ⟨-, feed, -, -, h⟩ := h
    obtain ⟨_, _, rfl⟩ := recordSuccessfulUpdate_ok h
    exact .aside _ _ rfl ⟨rfl, rfl, rfl, rfl⟩ rfl
  | getCustomData caller feedId =>
    obtain ⟨r, hr, rfl⟩ := map_ok.mp h
    obtain ⟨s₁, hquery, hr⟩ := bind_ok.mp hr
    obtain ⟨_, _, rfl⟩ := consumeQuery_ok hquery
    simp only [okOr_bind, failIf_bind, U64.sub_bind] at hr
    obtain ⟨feed, -, -, -, -, hr⟩ := hr
    cases hr
    exact .aside _ _ rfl ⟨rfl, rfl, rfl, rfl⟩ rfl
  | withdrawIncentives provider =>
    obtain ⟨r, hr, rfl⟩ := map_ok.mp h
    unfold IncentiveManager.withdrawIncentives at hr
    simp only [requireAuth_bind, failIf_bind] at hr
    cases hr.2.2
    exact .aside _ _ rfl ⟨rfl, rfl, rfl, rfl⟩ rfl
  | resetCircuitBreaker admin feedId =>
    obtain ⟨-, -, h⟩ := bind_ok.mp h
    obtain ⟨-, -, h⟩ := bind_ok.mp h
    cases h
    exact .reset env admin feedId
  | addFallbackProvider admin feedId provider =>
    obtain ⟨-, -, h⟩ := bind_ok.mp h
    obtain ⟨-, -, h⟩ := bind_ok.mp h
    dsimp only at h
    split at h <;> cases h <;> exact .aside _ _ rfl ⟨rfl, rfl, rfl, rfl⟩ rfl
  | grantSubscription admin user feedId tier duration =>
    obtain ⟨-, -, h⟩ := bind_ok.mp h
    obtain ⟨-, -, h⟩ := bind_ok.mp h
    simp only [failIf_bind, U64.add_bind] at h
    cases h.2.2
    exact .aside _ _ rfl ⟨rfl, rfl, rfl, rfl⟩ rfl
  | getLatestPricesBatch caller feedIds =>
    obtain ⟨r, hr, rfl⟩ := map_ok.mp h
    obtain ⟨s₁, hquery, hr⟩ := bind_ok.mp hr
    obtain ⟨_, rfl⟩ := checkGlobalRateLimit_ok hquery
    cases hr
    exact .aside _ _ rfl ⟨rfl, rfl, rfl, rfl⟩ rfl
  | getTwap caller feedId windowSeconds =>
    obtain ⟨r, hr, rfl⟩ := map_ok.mp h
    obtain ⟨s₁, hquery, hr⟩ := bind_ok.mp hr
    obtain ⟨_, _, rfl⟩ := consumeQuery_ok hquery
    rw [failIf_bind] at hr
    obtain ⟨average, -, hr⟩ := bind_ok.mp hr.2
    obtain ⟨twap, -, hr⟩ := okOr_bind.mp hr
    cases hr
    exact .aside _ _ rfl ⟨rfl, rfl, rfl, rfl⟩ rfl

end Oracle
