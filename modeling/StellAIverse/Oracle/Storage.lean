import Mathlib.Data.List.Sort
import StellAIverse.Soroban.Store
import StellAIverse.Soroban.Token

/-!
# The parts of the oracle

Storage, and the managers the contract is put together from: circuit breaker, incentives,
price aggregation and query limits. Events are left out.
-/

namespace Oracle

open Soroban

/-- Prices also carry the sequence number of the ledger. -/
structure Ledger extends Env where
  sequence : ℕ

inductive Error where
  | alreadyInitialized | unauthorized | providerNotFound | providerAlreadyExists | feedNotFound
  | feedAlreadyExists | stalePrice | circuitBreakerTriggered | rateLimitExceeded
  | insufficientStake | invalidPrice | updateTooEarly | noActiveProviders | aggregationFailed
  | subscriptionExpired | invalidInput | notEnoughSources | providerInactive | feedInactive
  | cooldownActive | insufficientBalance

def Error.code : Error → ℕ
  | alreadyInitialized => 1
  | unauthorized => 2
  | providerNotFound => 3
  | providerAlreadyExists => 4
  | feedNotFound => 5
  | feedAlreadyExists => 6
  | stalePrice => 7
  | circuitBreakerTriggered => 8
  | rateLimitExceeded => 9
  | insufficientStake => 10
  | invalidPrice => 11
  | updateTooEarly => 12
  | noActiveProviders => 13
  | aggregationFailed => 14
  | subscriptionExpired => 15
  | invalidInput => 16
  | notEnoughSources => 17
  | providerInactive => 18
  | feedInactive => 19
  | cooldownActive => 20
  | insufficientBalance => 21

instance coeFault : Coe Error Fault := ⟨fun e => .contract e.code⟩

inductive OracleProviderType where
  | chainlink | pyth | band | custom
  deriving DecidableEq, Repr

structure OracleProvider where
  address : Address
  providerType : OracleProviderType
  isPrimary : Bool
  isActive : Bool
  reputationScore : ℕ
  totalUpdates : ℕ
  successfulUpdates : ℕ
  stakedAmount : ℤ
  createdAt : ℕ

structure PriceFeed where
  feedId : String
  assetSymbol : String
  description : String
  decimals : ℕ
  minUpdateInterval : ℕ
  maxStaleness : ℕ
  isActive : Bool
  circuitBreakerEnabled : Bool
  maxPriceChangeBps : ℕ
  providers : List Address
  createdAt : ℕ

structure PriceEntry where
  price : ℤ
  timestamp : ℕ
  provider : Address
  providerType : OracleProviderType
  blockNumber : ℕ
  deriving DecidableEq, Repr

structure HistoricalPrice where
  price : ℤ
  timestamp : ℕ
  blockNumber : ℕ
  aggregated : Bool
  deriving DecidableEq, Repr

structure AggregatedPrice where
  price : ℤ
  timestamp : ℕ
  sourcesUsed : ℕ
  minPrice : ℤ
  maxPrice : ℤ
  medianPrice : ℤ
  isFresh : Bool
  deriving DecidableEq, Repr

structure CircuitBreakerState where
  triggered : Bool
  triggeredAt : Option ℕ
  triggerPrice : Option ℤ
  previousPrice : Option ℤ
  priceChangeBps : Option ℕ
  cooldownPeriod : ℕ
  canResumeAt : Option ℕ

structure QueryRateLimit where
  windowSeconds : ℕ
  maxQueries : ℕ
  queriesUsed : ℕ
  windowStart : ℕ

inductive SubscriptionTier where
  | free | basic | premium | unlimited
  deriving DecidableEq, Repr

structure FeedSubscription where
  subscriber : Address
  feedId : String
  tier : SubscriptionTier
  expiresAt : ℕ
  queriesRemaining : ℕ
  autoRenew : Bool
  createdAt : ℕ

structure CustomDataFeed where
  feedId : String
  description : String
  dataType : String
  isActive : Bool
  authorizedProviders : List Address
  lastUpdate : ℕ
  maxStaleness : ℕ

structure CustomDataEntry where
  data : String
  timestamp : ℕ
  provider : Address
  blockNumber : ℕ

structure FallbackConfig where
  enabled : Bool
  fallbackProviders : List Address
  primaryFailureThreshold : ℕ
  currentFailures : ℕ
  usingFallback : Bool

structure ProviderHealth where
  provider : Address
  consecutiveFailures : ℕ
  lastSuccessfulUpdate : ℕ
  priceDeviationCount : ℕ
  availabilityScore : ℕ

structure State where
  admin : Option Address
  treasury : Option Address
  providerCount : Option ℕ
  feedCount : Option ℕ
  distributionCount : Option ℕ
  baseRewardRate : Option ℤ
  provider : Store Address OracleProvider
  priceFeed : Store String PriceFeed
  latestPrice : Store String PriceEntry
  providerPrice : Store (String × Address) PriceEntry
  priceHistory : Store String (List HistoricalPrice)
  circuitBreaker : Store String CircuitBreakerState
  fallbackConfig : Store String FallbackConfig
  providerHealth : Store Address ProviderHealth
  customFeed : Store String CustomDataFeed
  customData : Store String (List CustomDataEntry)
  subscription : Store (Address × String) FeedSubscription
  rateLimit : Store Address QueryRateLimit
  incentiveBalance : Store Address ℤ

/-- The contract before anything was called. -/
def deployed : State where
  admin := none
  treasury := none
  providerCount := none
  feedCount := none
  distributionCount := none
  baseRewardRate := none
  provider := .empty
  priceFeed := .empty
  latestPrice := .empty
  providerPrice := .empty
  priceHistory := .empty
  circuitBreaker := .empty
  fallbackConfig := .empty
  providerHealth := .empty
  customFeed := .empty
  customData := .empty
  subscription := .empty
  rateLimit := .empty
  incentiveBalance := .empty

namespace CircuitBreaker

/-- Whether the movement is too large, and how large it is. -/
def checkPriceMovement (feed : PriceFeed) (newPrice previousPrice : ℤ) : Result (Bool × ℕ) :=
  if feed.circuitBreakerEnabled = false ∨ previousPrice = 0 then .ok (false, 0)
  else do
    let priceDiff ←
      if newPrice > previousPrice then I128.sub newPrice previousPrice
      else I128.sub previousPrice newPrice
    let scaled ← I128.mul priceDiff 10000
    let changeBps ← I128.div scaled previousPrice
    .ok (decide (changeBps > feed.maxPriceChangeBps), U32.ofInt changeBps)

def trigger (env : Ledger) (feedId : String) (newPrice previousPrice : ℤ)
    (changeBps cooldownPeriod : ℕ) (s : State) : Result State := do
  let canResumeAt ← U64.add env.timestamp cooldownPeriod
  .ok { s with circuitBreaker := s.circuitBreaker.set feedId {
    triggered := true
    triggeredAt := some env.timestamp
    triggerPrice := some newPrice
    previousPrice := some previousPrice
    priceChangeBps := some changeBps
    cooldownPeriod
    canResumeAt := some canResumeAt } }

/-- A breaker that has not tripped. -/
def untriggered (cooldownPeriod : ℕ) : CircuitBreakerState where
  triggered := false
  triggeredAt := none
  triggerPrice := none
  previousPrice := none
  priceChangeBps := none
  cooldownPeriod := cooldownPeriod
  canResumeAt := none

def reset (feedId : String) (s : State) : State :=
  { s with circuitBreaker := s.circuitBreaker.set feedId (untriggered 3600) }

/-- A breaker whose cooldown is over is reset when somebody looks. -/
def isTriggered (env : Ledger) (feedId : String) (s : State) : Bool × State :=
  match s.circuitBreaker.get? feedId with
  | none => (false, s)
  | some cbState =>
    if cbState.triggered = true then
      match cbState.canResumeAt with
      | some canResumeAt =>
        if env.timestamp < canResumeAt then (true, s) else (false, reset feedId s)
      | none => (true, s)
    else (false, s)

/-- `CircuitBreaker::initialize`. -/
def setUp (feedId : String) (cooldownPeriod : ℕ) (s : State) : State :=
  { s with circuitBreaker := s.circuitBreaker.set feedId (untriggered cooldownPeriod) }

end CircuitBreaker

namespace IncentiveManager

/-- Health first, then the penalty for failures, then reputation. -/
def calculateReward (provider : Address) (baseReward : ℤ) (s : State) : Result ℤ := do
  let reward ←
    match s.providerHealth.get? provider with
    | none => .ok baseReward
    | some health => do
      let scaled ← I128.mul baseReward health.availabilityScore
      let reward ← I128.div scaled 1000
      if health.consecutiveFailures > 0 then do
        let penaltyBps : ℤ := min (health.consecutiveFailures : ℤ) 100 * 100
        let kept ← I128.mul reward (10000 - penaltyBps)
        I128.div kept 10000
      else .ok reward
  let reward ←
    match s.provider.get? provider with
    | none => .ok reward
    | some providerData => do
      let scaled ← I128.mul reward providerData.reputationScore
      I128.div scaled 50
  .ok (max reward 0)

def distributeUpdateReward (provider : Address) (baseReward : ℤ) (distributionCounter : ℕ)
    (s : State) : Result (ℕ × State) := do
  let reward ← calculateReward provider baseReward s
  let balance ← I128.add (s.incentiveBalance.amount provider) reward
  let distributionCounter ← U64.add distributionCounter 1
  .ok (distributionCounter,
    { s with incentiveBalance := s.incentiveBalance.set provider balance })

/-- `u32::saturating_add(1).min(limit)`, for limits below the largest `u32`. -/
def raise (score limit : ℕ) : ℕ := min (score + 1) limit

def recordSuccessfulUpdate (env : Ledger) (provider : Address) (s : State) : Result State := do
  let health := (s.providerHealth.get? provider).getD {
    provider, consecutiveFailures := 0, lastSuccessfulUpdate := env.timestamp
    priceDeviationCount := 0, availabilityScore := 1000 }
  let s := { s with providerHealth := s.providerHealth.set provider { health with
    consecutiveFailures := 0
    lastSuccessfulUpdate := env.timestamp
    availabilityScore := raise health.availabilityScore 1000 } }
  match s.provider.get? provider with
  | none => .ok s
  | some providerData => do
    let totalUpdates ← U64.add providerData.totalUpdates 1
    let successfulUpdates ← U64.add providerData.successfulUpdates 1
    .ok { s with provider := s.provider.set provider { providerData with
      totalUpdates, successfulUpdates
      reputationScore := raise providerData.reputationScore 100 } }

def recordFailedUpdate (provider : Address) (s : State) : Result State := do
  let health := (s.providerHealth.get? provider).getD {
    provider, consecutiveFailures := 1, lastSuccessfulUpdate := 0
    priceDeviationCount := 0, availabilityScore := 950 }
  let consecutiveFailures ← U32.add health.consecutiveFailures 1
  let s := { s with
    providerHealth := s.providerHealth.set provider { health with consecutiveFailures } }
  match s.provider.get? provider with
  | none => .ok s
  | some providerData => do
    let totalUpdates ← U64.add providerData.totalUpdates 1
    .ok { s with provider := s.provider.set provider { providerData with totalUpdates } }

def withdrawIncentives (env : Ledger) (provider : Address) (s : State) : Result (ℤ × State) := do
  requireAuth env.toEnv provider
  let currentBalance := s.incentiveBalance.amount provider
  failIf (currentBalance ≤ 0) Error.insufficientBalance
  .ok (currentBalance, { s with incentiveBalance := s.incentiveBalance.set provider 0 })

end IncentiveManager

namespace PriceAggregator

def index (values : List ℤ) (i : ℕ) : Result ℤ := expect values[i]? "index out of bounds"

def sorted (values : List ℤ) : List ℤ := values.insertionSort (· ≤ ·)

def isStale (env : Ledger) (maxStaleness : ℕ) (entry : PriceEntry) : Result Bool := do
  let age ← U64.sub env.timestamp entry.timestamp
  .ok (decide (age > maxStaleness))

/-- The prices that are not stale, and whether that is all of them. -/
def validPrices (env : Ledger) (maxStaleness : ℕ) : List PriceEntry → Result (List ℤ × Bool)
  | [] => .ok ([], true)
  | entry :: rest => do
    let stale ← isStale env maxStaleness entry
    let (prices, isFresh) ← validPrices env maxStaleness rest
    if stale = true then .ok (prices, false) else .ok (entry.price :: prices, isFresh)

def medianOf (sortedPrices : List ℤ) : Result ℤ := do
  let n := sortedPrices.length
  let upper ← index sortedPrices (n / 2)
  if n % 2 = 0 then do
    let lower ← index sortedPrices (n / 2 - 1)
    let sum ← I128.add lower upper
    I128.div sum 2
  else .ok upper

def aggregatePrices (env : Ledger) (prices : List PriceEntry) (minSources maxStaleness : ℕ) :
    Result AggregatedPrice := do
  failIf (prices.length < minSources) Error.notEnoughSources
  let (valid, isFresh) ← validPrices env maxStaleness prices
  failIf (valid.length < minSources) Error.notEnoughSources
  let sortedPrices := sorted valid
  let minPrice ← index sortedPrices 0
  let maxPrice ← index sortedPrices (sortedPrices.length - 1)
  let medianPrice ← medianOf sortedPrices
  let latest := prices.foldl (fun latest entry => max latest entry.timestamp) 0
  .ok {
    price := medianPrice
    timestamp := latest
    sourcesUsed := valid.length
    minPrice, maxPrice, medianPrice, isFresh }

/-- Prices further than one and a half quartile ranges outside the quartiles are left out. -/
def removeOutliers (prices : List PriceEntry) : Result (List PriceEntry) :=
  if prices.length < 4 then .ok prices
  else do
    let values := sorted (prices.map (·.price))
    let len := values.length
    let q1 ← index values (len / 4)
    let q3 ← index values (3 * len / 4)
    let iqr ← I128.sub q3 q1
    let widened ← I128.mul 150 iqr
    let margin ← I128.div widened 100
    let lowerBound ← I128.sub q1 margin
    let upperBound ← I128.add q3 margin
    .ok (prices.filter fun entry => lowerBound ≤ entry.price ∧ entry.price ≤ upperBound)

/-- The weighted sum of the samples and the sum of the weights; the last sample lasts until
`now`. -/
def weigh (now : ℕ) : List HistoricalPrice → ℤ → ℕ → Result (ℤ × ℕ)
  | [], weightedSum, totalWeight => .ok (weightedSum, totalWeight)
  | sample :: rest, weightedSum, totalWeight => do
    let tNext := (rest.head?.map (·.timestamp)).getD now
    let segment := tNext - sample.timestamp
    let part ← I128.mul sample.price segment
    let weightedSum ← I128.add weightedSum part
    let totalWeight ← U64.add totalWeight segment
    weigh now rest weightedSum totalWeight

/-- The samples of the trailing window. -/
def samplesIn (now windowSeconds : ℕ) (history : List HistoricalPrice) : List HistoricalPrice :=
  history.filter fun entry => now - windowSeconds ≤ entry.timestamp ∧ entry.timestamp ≤ now

def calculateTwap (env : Ledger) (history : List HistoricalPrice) (windowSeconds : ℕ) :
    Result (Option ℤ) :=
  let samples := samplesIn env.timestamp windowSeconds history
  match samples.getLast? with
  | none => .ok none
  | some last => do
    let (weightedSum, totalWeight) ← weigh env.timestamp samples 0 0
    if totalWeight = 0 then .ok (some last.price)
    else do
      let average ← I128.div weightedSum totalWeight
      .ok (some average)

end PriceAggregator

namespace RateLimiter

/-- A window and a maximum that were stored before count, not the ones asked for. -/
def checkGlobalRateLimit (env : Ledger) (user : Address) (windowSeconds maxQueries : ℕ)
    (s : State) : Result State := do
  let rateLimit := (s.rateLimit.get? user).getD {
    windowSeconds, maxQueries, queriesUsed := 0, windowStart := env.timestamp }
  let elapsed ← U64.sub env.timestamp rateLimit.windowStart
  let rateLimit :=
    if elapsed > rateLimit.windowSeconds then
      { rateLimit with windowStart := env.timestamp, queriesUsed := 0 }
    else rateLimit
  failIf (rateLimit.queriesUsed ≥ rateLimit.maxQueries) Error.rateLimitExceeded
  let queriesUsed ← U32.add rateLimit.queriesUsed 1
  .ok { s with rateLimit := s.rateLimit.set user { rateLimit with queriesUsed } }

/-- Guests get five queries a day. -/
def checkGuestRateLimit (env : Ledger) (user : Address) (s : State) : Result State :=
  checkGlobalRateLimit env user 86400 5 s

def spendQuery (user : Address) (feedId : String) (subscription : FeedSubscription) (s : State) :
    State :=
  { s with subscription := s.subscription.set (user, feedId) { subscription with
    queriesRemaining := subscription.queriesRemaining - 1 } }

def consumeQuery (env : Ledger) (user : Address) (feedId : String)
    (globalWindow globalMaxQueries : ℕ) (s : State) : Result State :=
  match s.subscription.get? (user, feedId) with
  | none => checkGuestRateLimit env user s
  | some subscription => do
    failIf (subscription.expiresAt < env.timestamp) Error.subscriptionExpired
    failIf (subscription.queriesRemaining = 0 ∧ subscription.tier ≠ .unlimited)
      Error.rateLimitExceeded
    checkGlobalRateLimit env user globalWindow globalMaxQueries
      (if subscription.tier = .unlimited then s else spendQuery user feedId subscription s)

def consumeBatchQuery (env : Ledger) (user : Address) (s : State) : Result State :=
  checkGlobalRateLimit env user 3600 1000 s

end RateLimiter

end Oracle
