import StellAIverse.Soroban.Median
import StellAIverse.Oracle.Breaker

/-!
# When a feed is served

The aggregation leaves stale prices out of the median, and is then refused because of them: one
provider that has gone quiet stops a feed that has enough fresh prices without it. With no
stale price left, what is served is the median, whatever the order of the providers.
-/

namespace Oracle

open Soroban PriceAggregator

variable {s s' s₁ : State} {log : List (State × Action)} {feedId : String} {env : Ledger}
  {caller : Address} {feed : PriceFeed} {aggregated : AggregatedPrice}
  {entries entries' filtered : List PriceEntry} {maxStaleness minSources : ℕ} {usesFallback : Bool}

/-- The entry is not older than the feed allows. -/
def IsFresh (env : Ledger) (maxStaleness : ℕ) (entry : PriceEntry) : Prop :=
  env.timestamp - entry.timestamp ≤ maxStaleness

instance (env : Ledger) (maxStaleness : ℕ) (entry : PriceEntry) :
    Decidable (IsFresh env maxStaleness entry) := inferInstanceAs (Decidable (_ ≤ _))

def freshPrices (env : Ledger) (maxStaleness : ℕ) (entries : List PriceEntry) : List ℤ :=
  (entries.filter (IsFresh env maxStaleness)).map (·.price)

/-- The mean of two middle prices does not overflow on the way. -/
def MiddleFits (prices : List ℤ) : Prop :=
  prices.length % 2 = 0 → I128.InRange (middleSum prices)

def configOf (s : State) (feedId : String) : FallbackConfig :=
  (s.fallbackConfig.get? feedId).getD (noFallback false)

/-- Fewer than two of the feed's own providers have a price, and there may be others. -/
def FallsBack (feed : PriceFeed) (feedId : String) (s : State) : Prop :=
  (collectPrices s feedId feed.providers).length < 2 ∧ (configOf s feedId).enabled = true

instance (feed : PriceFeed) (feedId : String) (s : State) : Decidable (FallsBack feed feedId s) :=
  inferInstanceAs (Decidable (_ ∧ _))

/-- The entries that are aggregated. -/
def gathered (feed : PriceFeed) (feedId : String) (s : State) : List PriceEntry :=
  if FallsBack feed feedId s then
    collectPrices s feedId feed.providers ++
      collectPrices s feedId (configOf s feedId).fallbackProviders
  else collectPrices s feedId feed.providers

def requiredSources (feed : PriceFeed) (feedId : String) (s : State) : ℕ :=
  if FallsBack feed feedId s then 1 else 2

/-- On fallback, the count of failures can be raised. -/
def CounterFits (feed : PriceFeed) (feedId : String) (s : State) : Prop :=
  FallsBack feed feedId s → (configOf s feedId).currentFailures + 1 < 2 ^ 32

instance (feed : PriceFeed) (feedId : String) (s : State) : Decidable (CounterFits feed feedId s) :=
  inferInstanceAs (Decidable (_ → _))

/-- The caller gets this price. -/
def Serves (env : Ledger) (caller : Address) (feedId : String) (s : State)
    (aggregated : AggregatedPrice) : Prop :=
  ∃ s', getAggregatedPrice env caller feedId s = .ok (aggregated, s')

/-- The price is the median of these prices, between the smallest and the largest. -/
structure IsMedian (aggregated : AggregatedPrice) (prices : List ℤ) : Prop where
  price : aggregated.price = median prices
  smallest : aggregated.minPrice ∈ prices ∧ ∀ price ∈ prices, aggregated.minPrice ≤ price
  largest : aggregated.maxPrice ∈ prices ∧ ∀ price ∈ prices, price ≤ aggregated.maxPrice
  between : aggregated.minPrice ≤ aggregated.price ∧ aggregated.price ≤ aggregated.maxPrice

/-- The providers of the feed in another order. -/
def reordered (feedId : String) (feed : PriceFeed) (providers : List Address) (s : State) :
    State :=
  { s with priceFeed := s.priceFeed.set feedId { feed with providers } }

theorem index_of_lt {values : List ℤ} {i : ℕ} (h : i < values.length) :
    index values i = .ok (values.getD i 0) := by
  unfold index
  rw [List.getElem?_eq_getElem h, List.getD_eq_getElem _ _ h]
  rfl

theorem validPrices_eq (hpast : ∀ entry ∈ entries, entry.timestamp ≤ env.timestamp) :
    validPrices env maxStaleness entries = .ok (freshPrices env maxStaleness entries,
      decide (∀ entry ∈ entries, IsFresh env maxStaleness entry)) := by
  induction entries with
  | nil => rfl
  | cons entry rest ih =>
    have hrest := ih fun later hmem => hpast later (List.mem_cons_of_mem _ hmem)
    have hentry : isStale env maxStaleness entry =
        .ok (decide (¬ IsFresh env maxStaleness entry)) := by
      unfold isStale IsFresh
      rw [U64.sub_bind]
      exact ⟨hpast entry List.mem_cons_self, by simp only [gt_iff_lt, not_le]⟩
    unfold validPrices
    rw [hentry, hrest, ok_bind, ok_bind]
    by_cases hfresh : IsFresh env maxStaleness entry
    · simp [freshPrices, hfresh]
    · simp [freshPrices, hfresh]

theorem medianOf_ok_iff {prices : List ℤ} {price : ℤ} (hne : prices ≠ []) :
    medianOf (sorted prices) = .ok price ↔ MiddleFits prices ∧ median prices = price := by
  have hpos : 0 < prices.length := List.length_pos_iff.mpr hne
  have hlength : (sorted prices).length = prices.length := length_inOrder
  have hupper : index (sorted prices) (prices.length / 2) =
      .ok ((inOrder prices).getD (prices.length / 2) 0) := index_of_lt (by omega)
  have hlower : index (sorted prices) (prices.length / 2 - 1) =
      .ok ((inOrder prices).getD (prices.length / 2 - 1) 0) := index_of_lt (by omega)
  unfold medianOf MiddleFits median middleSum
  rw [hlength]
  dsimp only
  rw [hupper, hlower, ok_bind, ok_bind]
  split
  · rename_i heven
    rw [I128.add_bind, I128.div_ok]
    constructor
    · rintro ⟨hsum, -, -, rfl⟩
      exact ⟨fun _ => hsum, rfl⟩
    · rintro ⟨hsum, rfl⟩
      exact ⟨hsum heven, two_ne_zero, I128.inRange_tdiv (hsum heven) two_pos, rfl⟩
  · rename_i hodd
    rw [Except.ok.injEq]
    exact ⟨fun h => ⟨fun heven => (hodd heven).elim, h⟩, And.right⟩

/-- What is made of the entries. -/
def aggregateOf (env : Ledger) (maxStaleness : ℕ) (entries : List PriceEntry) :
    AggregatedPrice :=
  let prices := freshPrices env maxStaleness entries
  { price := median prices
    timestamp := entries.foldl (fun latest entry => max latest entry.timestamp) 0
    sourcesUsed := prices.length
    minPrice := (inOrder prices).getD 0 0
    maxPrice := (inOrder prices).getD (prices.length - 1) 0
    medianPrice := median prices
    isFresh := decide (∀ entry ∈ entries, IsFresh env maxStaleness entry) }

theorem aggregatePrices_ok_iff (hpast : ∀ entry ∈ entries, entry.timestamp ≤ env.timestamp)
    (hsources : 0 < minSources)
    (henough : minSources ≤ (freshPrices env maxStaleness entries).length) :
    aggregatePrices env entries minSources maxStaleness = .ok aggregated ↔
      MiddleFits (freshPrices env maxStaleness entries) ∧
        aggregateOf env maxStaleness entries = aggregated := by
  have hpos := hsources.trans_le henough
  have hlength : (sorted (freshPrices env maxStaleness entries)).length =
    (freshPrices env maxStaleness entries).length := length_inOrder
  have hfewer : (freshPrices env maxStaleness entries).length ≤ entries.length := by
    unfold freshPrices
    rw [List.length_map]
    exact List.length_filter_le _ _
  unfold aggregatePrices
  rw [failIf_bind, validPrices_eq hpast, ok_bind]
  dsimp only
  rw [failIf_bind, hlength, index_of_lt (by omega), ok_bind, index_of_lt (by omega), ok_bind,
    bind_ok]
  constructor
  · rintro ⟨-, -, price, hprice, h⟩
    obtain ⟨hfits, rfl⟩ := (medianOf_ok_iff (List.length_pos_iff.mp hpos)).mp hprice
    exact ⟨hfits, Except.ok.inj h⟩
  · rintro ⟨hfits, rfl⟩
    exact ⟨by omega, by omega, _,
      (medianOf_ok_iff (List.length_pos_iff.mp hpos)).mpr ⟨hfits, rfl⟩, rfl⟩

theorem aggregateOf_isMedian (hne : freshPrices env maxStaleness entries ≠ []) :
    IsMedian (aggregateOf env maxStaleness entries) (freshPrices env maxStaleness entries) := by
  have hpos : 0 < (freshPrices env maxStaleness entries).length := List.length_pos_iff.mpr hne
  have hbounds : ∀ price ∈ freshPrices env maxStaleness entries,
      (aggregateOf env maxStaleness entries).minPrice ≤ price ∧
        price ≤ (aggregateOf env maxStaleness entries).maxPrice := fun price hmem =>
    inOrder_bounds hmem
  exact ⟨rfl, ⟨inOrder_mem hpos, fun price hmem => (hbounds price hmem).1⟩,
    ⟨inOrder_mem (by omega), fun price hmem => (hbounds price hmem).2⟩,
    median_between hne hbounds⟩

theorem freshPrices_perm (h : entries'.Perm entries) :
    (freshPrices env maxStaleness entries').Perm (freshPrices env maxStaleness entries) :=
  (h.filter _).map _

theorem middleFits_perm {prices prices' : List ℤ} (h : prices'.Perm prices) :
    MiddleFits prices' ↔ MiddleFits prices := by
  unfold MiddleFits
  rw [middleSum_perm h, h.length_eq]

/-- What is made of the entries does not depend on their order. -/
theorem aggregateOf_perm (h : entries'.Perm entries) :
    aggregateOf env maxStaleness entries' = aggregateOf env maxStaleness entries := by
  have hprices : (freshPrices env maxStaleness entries').Perm
      (freshPrices env maxStaleness entries) := freshPrices_perm h
  have hlatest : entries'.foldl (fun latest entry => max latest entry.timestamp) 0 =
      entries.foldl (fun latest entry => max latest entry.timestamp) 0 := by
    refine h.foldl_eq' ?_ 0
    intro x _ y _ latest
    exact max_right_comm latest x.timestamp y.timestamp
  unfold aggregateOf
  simp only [median_perm hprices, inOrder_perm hprices, hprices.length_eq, hlatest, h.mem_iff]

/-- The bounds are those of the prices in order, so the same entries are left out. -/
theorem removeOutliers_perm (h : entries'.Perm entries)
    (hremoved : removeOutliers entries = .ok filtered) :
    ∃ filtered', removeOutliers entries' = .ok filtered' ∧ filtered'.Perm filtered := by
  have hsorted : sorted (entries'.map (·.price)) = sorted (entries.map (·.price)) :=
    inOrder_perm (h.map _)
  unfold removeOutliers at hremoved ⊢
  rw [h.length_eq, hsorted]
  split at hremoved
  · rename_i hfew
    cases hremoved
    rw [if_pos hfew]
    exact ⟨entries', rfl, h⟩
  · rename_i hmany
    rw [if_neg hmany]
    dsimp only at hremoved ⊢
    obtain ⟨q1, hq1, hremoved⟩ := bind_ok.mp hremoved
    obtain ⟨q3, hq3, hremoved⟩ := bind_ok.mp hremoved
    obtain ⟨iqr, hiqr, hremoved⟩ := bind_ok.mp hremoved
    obtain ⟨widened, hwidened, hremoved⟩ := bind_ok.mp hremoved
    obtain ⟨margin, hmargin, hremoved⟩ := bind_ok.mp hremoved
    obtain ⟨lowerBound, hlower, hremoved⟩ := bind_ok.mp hremoved
    obtain ⟨upperBound, hupper, hremoved⟩ := bind_ok.mp hremoved
    cases hremoved
    simp only [hq1, hq3, hiqr, hwidened, hmargin, hlower, hupper, ok_bind]
    exact ⟨_, rfl, h.filter _⟩

theorem gatherPrices_ok_iff :
    (∃ s', gatherPrices feed feedId s = .ok ((entries, usesFallback), s')) ↔
      CounterFits feed feedId s ∧ gathered feed feedId s = entries ∧
        decide (FallsBack feed feedId s) = usesFallback := by
  have hcond : FallsBack feed feedId s ↔ (collectPrices s feedId feed.providers).length < 2 ∧
      ((s.fallbackConfig.get? feedId).getD (noFallback false)).enabled = true := Iff.rfl
  unfold gatherPrices CounterFits gathered
  by_cases hback : FallsBack feed feedId s
  · rw [if_pos hback, decide_eq_true hback]
    dsimp only
    rw [if_pos (hcond.mp hback)]
    simp only [U32.add_bind]
    constructor
    · rintro ⟨s', hfits, h⟩
      cases h
      exact ⟨fun _ => hfits, rfl, rfl⟩
    · rintro ⟨hfits, rfl, rfl⟩
      exact ⟨_, hfits hback, rfl⟩
  · rw [if_neg hback, decide_eq_false hback]
    dsimp only
    rw [if_neg (hback ∘ hcond.mpr)]
    constructor
    · rintro ⟨s', h⟩
      cases h
      exact ⟨fun h => (hback h).elim, rfl, rfl⟩
    · rintro ⟨-, rfl, rfl⟩
      exact ⟨_, rfl⟩

/-- What is gathered depends on the prices and on the fallback only. -/
theorem gathered_congr (hprice : s'.providerPrice = s.providerPrice)
    (hconfig : s'.fallbackConfig = s.fallbackConfig) :
    gathered feed feedId s' = gathered feed feedId s ∧
      requiredSources feed feedId s' = requiredSources feed feedId s ∧
      (CounterFits feed feedId s' ↔ CounterFits feed feedId s) := by
  have hcollects : collectPrices s' feedId = collectPrices s feedId := by
    funext providers
    rw [collectPrices, collectPrices, hprice]
  have hconfig' : configOf s' feedId = configOf s feedId := by rw [configOf, configOf, hconfig]
  have hback : FallsBack feed feedId s' ↔ FallsBack feed feedId s := by
    rw [FallsBack, FallsBack, hcollects, hconfig']
  refine ⟨?_, ?_, ?_⟩
  · simp only [gathered, hback, hcollects, hconfig']
  · simp only [requiredSources, hback]
  · simp only [CounterFits, hback, hconfig']

/-- The caller may query, and the feed is open. -/
structure Open (env : Ledger) (caller : Address) (feedId : String) (feed : PriceFeed)
    (s : State) : Prop where
  query : ∃ s₁, RateLimiter.consumeQuery env caller feedId 3600 1000 s = .ok s₁
  found : s.priceFeed.get? feedId = some feed
  active : feed.isActive = true
  passes : Passes env feedId s

/-- An open feed is served if its entries can be aggregated and none is stale. -/
theorem serves_iff (h : Open env caller feedId feed s) :
    Serves env caller feedId s aggregated ↔ CounterFits feed feedId s ∧
      ∃ filtered, removeOutliers (gathered feed feedId s) = .ok filtered ∧
        aggregatePrices env filtered (requiredSources feed feedId s) feed.maxStaleness =
          .ok aggregated ∧ aggregated.isFresh = true := by
  obtain ⟨s₁, hquery⟩ := h.query
  have hpasses := h.passes
  obtain ⟨subscription, rateLimit, hs₁⟩ := consumeQuery_ok hquery
  rcases hlook : CircuitBreaker.isTriggered env feedId s₁ with ⟨triggered, s₂⟩
  obtain ⟨circuitBreaker, hs₂⟩ := isTriggered_frame hlook
  have hsame : triggered = false := by
    have hcongr : (CircuitBreaker.isTriggered env feedId s₁).1 =
        (CircuitBreaker.isTriggered env feedId s).1 := isTriggered_congr (by rw [hs₁])
    rw [hlook] at hcongr
    exact hcongr.trans hpasses
  have hfound : s₁.priceFeed.get? feedId = some feed := by
    rw [hs₁]
    exact h.found
  obtain ⟨hgathered, hrequired, hfits⟩ : gathered feed feedId s₂ = gathered feed feedId s ∧
      requiredSources feed feedId s₂ = requiredSources feed feedId s ∧
      (CounterFits feed feedId s₂ ↔ CounterFits feed feedId s) :=
    gathered_congr (by rw [hs₂, hs₁]) (by rw [hs₂, hs₁])
  have hback : (if decide (FallsBack feed feedId s₂) = true then 1 else 2) =
      requiredSources feed feedId s₂ := by
    rw [requiredSources]
    simp only [decide_eq_true_eq]
  subst hsame
  unfold Serves getAggregatedPrice
  rw [hquery]
  simp only [ok_bind, hfound, okOr, h.active, hlook, failIf, Bool.false_eq_true, Bool.true_eq_false,
    if_false]
  rw [← hfits, ← hgathered, ← hrequired]
  constructor
  · rintro ⟨s', hs'⟩
    obtain ⟨⟨⟨entries, usesFallback⟩, s₃⟩, hgather, hs'⟩ := bind_ok.mp hs'
    obtain ⟨hcounter, rfl, rfl⟩ := gatherPrices_ok_iff.mp ⟨s₃, hgather⟩
    obtain ⟨filtered, hremoved, hs'⟩ := bind_ok.mp hs'
    obtain ⟨aggregated', haggregated, hs'⟩ := bind_ok.mp hs'
    obtain ⟨hfresh, hs'⟩ := failIf_bind.mp hs'
    cases hs'
    dsimp only at haggregated
    rw [hback] at haggregated
    exact ⟨hcounter, filtered, hremoved, haggregated, eq_true_of_ne_false hfresh⟩
  · rintro ⟨hcounter, filtered, hremoved, haggregated, hfresh⟩
    obtain ⟨s₃, hgather⟩ := gatherPrices_ok_iff.mpr ⟨hcounter, rfl, rfl⟩
    refine ⟨s₃, ?_⟩
    rw [hgather, ok_bind]
    dsimp only
    rw [hremoved, ok_bind, hback, haggregated, ok_bind]
    exact failIf_bind.mpr ⟨ne_false_of_eq_true hfresh, rfl⟩

/-- No price of a provider comes from the future. -/
theorem providerPrice_past (h : Run log s) {key : String × Address} {entry : PriceEntry}
    (hentry : s.providerPrice.get? key = some entry) : entry.timestamp ≤ clock Action.time? log := by
  revert key entry
  refine h.preserves (P := fun log s => ∀ {key : String × Address} {entry : PriceEntry},
    s.providerPrice.get? key = some entry → entry.timestamp ≤ clock Action.time? log)
    (fun hentry => by cases hentry) ?_
  intro log s a s' hontime hdone hlog key entry hentry
  have hkept : s'.providerPrice = s.providerPrice → _ := fun hsame =>
    (hlog (hsame ▸ hentry)).trans (hontime.clock_le s)
  cases next_effect hdone with
  | aside _ _ _ kept => exact hkept kept.providerPrice
  | created _ _ _ _ _ _ _ _ providerPrice => exact hkept providerPrice
  | reset => exact hkept rfl
  | aggregated _ _ _ _ _ kept => exact hkept kept.providerPrice
  | submitted _ _ _ _ _ _ _ _ _ stored =>
    rw [stored.providerPrice, storePrice, Store.get?_set] at hentry
    split at hentry
    · cases hentry
      exact le_rfl
    · exact (hlog hentry).trans (hontime.clock_le s)

theorem gathered_past (h : Run log s) :
    ∀ entry ∈ gathered feed feedId s, entry.timestamp ≤ clock Action.time? log := by
  have hcollected : ∀ providers, ∀ entry ∈ collectPrices s feedId providers,
      entry.timestamp ≤ clock Action.time? log := by
    intro providers entry hentry
    obtain ⟨provider, -, hfound⟩ := List.mem_filterMap.mp hentry
    exact providerPrice_past h hfound
  intro entry hentry
  unfold gathered at hentry
  split at hentry
  · rcases List.mem_append.mp hentry with hown | hother
    · exact hcollected _ entry hown
    · exact hcollected _ entry hother
  · exact hcollected _ entry hentry

theorem removeOutliers_subset (h : removeOutliers entries = .ok filtered) :
    ∀ entry ∈ filtered, entry ∈ entries := by
  unfold removeOutliers at h
  split at h
  · cases h
    exact fun _ hentry => hentry
  · dsimp only at h
    obtain ⟨q1, -, h⟩ := bind_ok.mp h
    obtain ⟨q3, -, h⟩ := bind_ok.mp h
    simp only [I128.sub_bind, I128.mul_bind, I128.div_bind, I128.add_bind] at h
    obtain ⟨-, -, -, -, -, -, h⟩ := h
    cases h
    exact fun _ hentry => (List.mem_filter.mp hentry).1

theorem requiredSources_pos : 0 < requiredSources feed feedId s := by
  unfold requiredSources
  split <;> decide

/-- What an open feed with enough fresh prices serves. -/
theorem serves_iff_fresh (h : Open env caller feedId feed s)
    (hremoved : removeOutliers (gathered feed feedId s) = .ok filtered)
    (hpast : ∀ entry ∈ filtered, entry.timestamp ≤ env.timestamp)
    (henough : requiredSources feed feedId s ≤
      (freshPrices env feed.maxStaleness filtered).length) :
    Serves env caller feedId s aggregated ↔
      ((∀ entry ∈ filtered, IsFresh env feed.maxStaleness entry) ∧
        MiddleFits (freshPrices env feed.maxStaleness filtered) ∧ CounterFits feed feedId s) ∧
      aggregateOf env feed.maxStaleness filtered = aggregated := by
  rw [serves_iff h]
  constructor
  · rintro ⟨hcounter, filtered', hremoved', haggregated, hfresh⟩
    cases hremoved.symm.trans hremoved'
    obtain ⟨hfits, rfl⟩ :=
      (aggregatePrices_ok_iff hpast requiredSources_pos henough).mp haggregated
    exact ⟨⟨of_decide_eq_true hfresh, hfits, hcounter⟩, rfl⟩
  · rintro ⟨⟨hfresh, hfits, hcounter⟩, rfl⟩
    exact ⟨hcounter, filtered, hremoved,
      (aggregatePrices_ok_iff hpast requiredSources_pos henough).mpr ⟨hfits, rfl⟩,
      decide_eq_true hfresh⟩

theorem checkGlobalRateLimit_congr {windowSeconds maxQueries : ℕ}
    (hlimit : s'.rateLimit = s.rateLimit)
    (h : RateLimiter.checkGlobalRateLimit env caller windowSeconds maxQueries s = .ok s₁) :
    ∃ s₁', RateLimiter.checkGlobalRateLimit env caller windowSeconds maxQueries s' = .ok s₁' := by
  unfold RateLimiter.checkGlobalRateLimit at h ⊢
  rw [hlimit]
  simp only [U64.sub_bind, failIf_bind, U32.add_bind] at h ⊢
  obtain ⟨hclock, hroom, hcount, -⟩ := h
  exact ⟨_, hclock, hroom, hcount, rfl⟩

/-- Whether a query is let through depends on subscriptions and limits. -/
theorem consumeQuery_congr {windowSeconds maxQueries : ℕ}
    (hsubscription : s'.subscription = s.subscription) (hlimit : s'.rateLimit = s.rateLimit)
    (h : RateLimiter.consumeQuery env caller feedId windowSeconds maxQueries s = .ok s₁) :
    ∃ s₁', RateLimiter.consumeQuery env caller feedId windowSeconds maxQueries s' = .ok s₁' := by
  unfold RateLimiter.consumeQuery at h ⊢
  rw [hsubscription]
  split at h
  · exact checkGlobalRateLimit_congr hlimit h
  · rename_i subscription _
    simp only [failIf_bind] at h ⊢
    obtain ⟨hlive, hleft, h⟩ := h
    have hspent : (if subscription.tier = .unlimited then s'
        else RateLimiter.spendQuery caller feedId subscription s').rateLimit =
          (if subscription.tier = .unlimited then s
            else RateLimiter.spendQuery caller feedId subscription s).rateLimit := by
      split <;> exact hlimit
    obtain ⟨s₁', hs₁'⟩ := checkGlobalRateLimit_congr hspent h
    exact ⟨s₁', hlive, hleft, hs₁'⟩

section Reordered

variable {providers : List Address}

theorem Open.reorder (h : Open env caller feedId feed s) (providers : List Address) :
    Open env caller feedId { feed with providers } (reordered feedId feed providers s) := by
  have hlimits : (reordered feedId feed providers s).subscription = s.subscription ∧
      (reordered feedId feed providers s).rateLimit = s.rateLimit := ⟨rfl, rfl⟩
  have hbreaker : (CircuitBreaker.isTriggered env feedId (reordered feedId feed providers s)).1 =
      (CircuitBreaker.isTriggered env feedId s).1 := isTriggered_congr rfl
  obtain ⟨s₁, hquery⟩ := h.query
  exact ⟨consumeQuery_congr hlimits.1 hlimits.2 hquery, Store.get?_set_self _ _ _, h.active,
    hbreaker.trans h.passes⟩

variable (h : providers.Perm feed.providers)

include h

theorem collectPrices_reordered :
    (collectPrices (reordered feedId feed providers s) feedId providers).Perm
      (collectPrices s feedId feed.providers) := h.filterMap _

theorem fallsBack_reordered :
    FallsBack { feed with providers } feedId (reordered feedId feed providers s) ↔
      FallsBack feed feedId s := by
  unfold FallsBack
  rw [(collectPrices_reordered h).length_eq]
  exact Iff.rfl

theorem gathered_reordered :
    (gathered { feed with providers } feedId (reordered feedId feed providers s)).Perm
      (gathered feed feedId s) := by
  unfold gathered
  simp only [fallsBack_reordered h]
  split
  · exact (collectPrices_reordered h).append_right _
  · exact collectPrices_reordered h

theorem requiredSources_reordered :
    requiredSources { feed with providers } feedId (reordered feedId feed providers s) =
      requiredSources feed feedId s := by
  unfold requiredSources
  simp only [fallsBack_reordered h]

theorem counterFits_reordered :
    CounterFits { feed with providers } feedId (reordered feedId feed providers s) ↔
      CounterFits feed feedId s := by
  unfold CounterFits
  rw [fallsBack_reordered h]
  exact Iff.rfl

end Reordered

/-- In every run, an open feed that has enough fresh prices left after the removal of outliers is
served the median of them if and only if no other price that is left is stale; the mean of the
middle prices and the count of failures on fallback must fit. Another order of the providers
makes no difference. -/
theorem feed_served_iff (h : Run log s) (htime : clock Action.time? log ≤ env.timestamp)
    (hopen : Open env caller feedId feed s)
    (hremoved : removeOutliers (gathered feed feedId s) = .ok filtered)
    (henough : requiredSources feed feedId s ≤
      (freshPrices env feed.maxStaleness filtered).length) :
    ((∃ aggregated, Serves env caller feedId s aggregated ∧
        IsMedian aggregated (freshPrices env feed.maxStaleness filtered)) ↔
      (∀ entry ∈ filtered, IsFresh env feed.maxStaleness entry) ∧
        MiddleFits (freshPrices env feed.maxStaleness filtered) ∧ CounterFits feed feedId s) ∧
    ∀ providers : List Address, providers.Perm feed.providers → ∀ aggregated,
      Serves env caller feedId (reordered feedId feed providers s) aggregated ↔
        Serves env caller feedId s aggregated := by
  have hpast : ∀ entry ∈ filtered, entry.timestamp ≤ env.timestamp := fun entry hentry =>
    (gathered_past h entry (removeOutliers_subset hremoved entry hentry)).trans htime
  have hserves : ∀ aggregated, Serves env caller feedId s aggregated ↔ _ := fun _ =>
    serves_iff_fresh hopen hremoved hpast henough
  refine ⟨⟨?_, fun hcondition => ?_⟩, fun providers hperm aggregated => ?_⟩
  · rintro ⟨aggregated, hserved, -⟩
    exact ((hserves aggregated).mp hserved).1
  · have hne : freshPrices env feed.maxStaleness filtered ≠ [] :=
      List.length_pos_iff.mp (requiredSources_pos.trans_le henough)
    exact ⟨_, (hserves _).mpr ⟨hcondition, rfl⟩, aggregateOf_isMedian hne⟩
  · have hgathered : (gathered { feed with providers } feedId
        (reordered feedId feed providers s)).Perm (gathered feed feedId s) :=
      gathered_reordered hperm
    obtain ⟨filtered', hremoved', hfiltered⟩ := removeOutliers_perm hgathered hremoved
    have hprices : (freshPrices env feed.maxStaleness filtered').Perm
        (freshPrices env feed.maxStaleness filtered) := freshPrices_perm hfiltered
    have hpast' : ∀ entry ∈ filtered', entry.timestamp ≤ env.timestamp := fun entry hentry =>
      hpast entry (hfiltered.mem_iff.mp hentry)
    have henough' : requiredSources { feed with providers } feedId
        (reordered feedId feed providers s) ≤
          (freshPrices env feed.maxStaleness filtered').length := by
      rw [requiredSources_reordered hperm, hprices.length_eq]
      exact henough
    rw [serves_iff_fresh (hopen.reorder providers) hremoved' hpast' henough', hserves,
      aggregateOf_perm hfiltered, middleFits_perm hprices, counterFits_reordered hperm]
    simp only [hfiltered.mem_iff]

section Samples

/-- The feed opens to the reader, and enough of what is left is fresh. -/
def Ready (now : ℕ) (required : ℕ) (feed : PriceFeed) (s : State) : Prop :=
  After (fun _ => True) (RateLimiter.consumeQuery (at' now) reader "ETH" 3600 1000 s) ∧
    feed.isActive = true ∧ Passes (at' now) "ETH" s ∧ requiredSources feed "ETH" s = required

instance (now required : ℕ) (feed : PriceFeed) (s : State) : Decidable (Ready now required feed s) :=
  inferInstanceAs (Decidable (_ ∧ _ ∧ _ = false ∧ _))

theorem Ready.open {now required : ℕ} (h : Ready now required feed s)
    (hfound : s.priceFeed.get? "ETH" = some feed) : Open (at' now) reader "ETH" feed s := by
  obtain ⟨hquery, hactive, hpasses, -⟩ := h
  obtain ⟨s₁, hs₁, -⟩ := hquery.exists_ok
  exact ⟨⟨s₁, hs₁⟩, hfound, hactive, hpasses⟩

/-- Two fresh prices of two providers: the mean is rounded down. -/
theorem feed_served_iff_ether : ∃ log s aggregated, Run log s ∧
    Serves (at' 4) reader "ETH" s aggregated ∧ aggregated.price = 1002 := by
  have h : After (fun r => clock Action.time? r.1 ≤ 4 ∧
      ∃ feed ∈ r.2.priceFeed.get? "ETH", Ready 4 2 feed r.2 ∧ CounterFits feed "ETH" r.2 ∧
        After (fun filtered => (∀ entry ∈ filtered, IsFresh (at' 4) feed.maxStaleness entry) ∧
          freshPrices (at' 4) feed.maxStaleness filtered = [1000, 1005])
          (removeOutliers (gathered feed "ETH" r.2)))
      (record next (fun log _ a => OnTime Action.time? log a)
        (tripped ++ [⟨at' 3, .submitPrice bob "ETH" 1005⟩]) ([], deployed)) := by
    decide +kernel
  obtain ⟨⟨log, s⟩, hrec, htime, feed, hfound, hready, hcounter, h⟩ := h.exists_ok
  obtain ⟨filtered, hremoved, hfresh, hprices⟩ := h.exists_ok
  have hrun : Run log s := record_run hrec
  have hclock : clock Action.time? log ≤ (at' 4).timestamp := htime
  have henough : requiredSources feed "ETH" s ≤
      (freshPrices (at' 4) feed.maxStaleness filtered).length := by
    rw [hready.2.2.2, hprices]
    decide
  have hfits : MiddleFits (freshPrices (at' 4) feed.maxStaleness filtered) := by
    rw [hprices]
    exact fun _ => by decide
  obtain ⟨hserved, -⟩ := feed_served_iff hrun hclock (hready.open hfound) hremoved henough
  obtain ⟨aggregated, hserves, hmedian⟩ := hserved.mpr ⟨hfresh, hfits, hcounter⟩
  refine ⟨log, s, aggregated, hrun, hserves, hmedian.price.trans ?_⟩
  rw [hprices]
  decide

/-- A feed of three providers whose prices are good for 100 seconds. -/
def threeFeed : FeedArgs := { ethFeed with maxStaleness := 100, providers := [alice, bob, reader] }

/-- Alice goes quiet after her first price. -/
def quiet : List Action :=
  [⟨at' 0, .initializeContract governor governor⟩,
    ⟨at' 0, .registerProvider governor alice .custom true 10 1⟩,
    ⟨at' 0, .registerProvider governor bob .custom true 10 1⟩,
    ⟨at' 0, .registerProvider governor reader .custom true 10 1⟩,
    ⟨at' 0, .createPriceFeed governor threeFeed⟩,
    ⟨at' 1, .submitPrice alice "ETH" 1000⟩,
    ⟨at' 200, .submitPrice bob "ETH" 1000⟩,
    ⟨at' 201, .submitPrice reader "ETH" 1005⟩]

/-- Two fresh prices are enough, but Alice's old one stops the feed. -/
theorem quiet_provider_blocks : ∃ log s feed filtered, Run log s ∧
    clock Action.time? log ≤ (at' 210).timestamp ∧ Open (at' 210) reader "ETH" feed s ∧
    removeOutliers (gathered feed "ETH" s) = .ok filtered ∧
    requiredSources feed "ETH" s ≤
      (freshPrices (at' 210) feed.maxStaleness filtered).length ∧
    (getAggregatedPrice (at' 210) reader "ETH" s).map (·.1) = .error Error.stalePrice ∧
    ¬ ∃ aggregated, Serves (at' 210) reader "ETH" s aggregated := by
  have h : After (fun r => clock Action.time? r.1 ≤ 210 ∧
      ∃ feed ∈ r.2.priceFeed.get? "ETH", Ready 210 2 feed r.2 ∧
        After (fun filtered => freshPrices (at' 210) feed.maxStaleness filtered = [1000, 1005])
          (removeOutliers (gathered feed "ETH" r.2)) ∧
        (getAggregatedPrice (at' 210) reader "ETH" r.2).map (·.1) = .error Error.stalePrice)
      (record next (fun log _ a => OnTime Action.time? log a) quiet ([], deployed)) := by
    decide +kernel
  obtain ⟨⟨log, s⟩, hrec, htime, feed, hfound, hready, h, hstale⟩ := h.exists_ok
  obtain ⟨filtered, hremoved, hprices⟩ := h.exists_ok
  have hrun : Run log s := record_run hrec
  refine ⟨log, s, feed, filtered, hrun, htime, hready.open hfound, hremoved, ?_, hstale, ?_⟩
  · rw [hready.2.2.2, hprices]
    decide
  · rintro ⟨aggregated, s', hs'⟩
    dsimp only at hstale
    rw [hs'] at hstale
    cases hstale

end Samples

end Oracle
