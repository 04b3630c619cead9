import StellAIverse.Oracle.Storage

/-!
# The oracle contract

Every entry point that writes, in the order of the source, and what is read without a
signature.
-/

namespace Oracle

open Soroban

/-- `initialize`. -/
def initializeContract (env : Ledger) (admin treasury : Address) (s : State) : Result State := do
  failIf (s.admin.isSome = true) Error.alreadyInitialized
  requireAuth env.toEnv admin
  .ok { s with
    admin := some admin
    treasury := some treasury
    providerCount := some 0
    feedCount := some 0
    distributionCount := some 0
    baseRewardRate := some 100 }

def verifyAdmin (s : State) (caller : Address) : Result Unit := do
  let admin ← okOr s.admin Error.unauthorized
  failIf (caller ≠ admin) Error.unauthorized

def registerProvider (env : Ledger) (admin providerAddress : Address)
    (providerType : OracleProviderType) (isPrimary : Bool) (stakeAmount minStake : ℤ) (s : State) :
    Result State := do
  requireAuth env.toEnv admin
  verifyAdmin s admin
  failIf (stakeAmount < minStake) Error.insufficientStake
  failIf ((s.provider.get? providerAddress).isSome = true) Error.providerAlreadyExists
  let count ← U64.add (s.providerCount.getD 0) 1
  .ok { s with
    provider := s.provider.set providerAddress {
      address := providerAddress, providerType, isPrimary, isActive := true
      reputationScore := 50, totalUpdates := 0, successfulUpdates := 0
      stakedAmount := stakeAmount, createdAt := env.timestamp }
    providerCount := some count
    providerHealth := s.providerHealth.set providerAddress {
      provider := providerAddress, consecutiveFailures := 0, lastSuccessfulUpdate := 0
      priceDeviationCount := 0, availabilityScore := 1000 } }

/-- The arguments of `create_price_feed` after the administrator. -/
structure FeedArgs where
  feedId : String
  assetSymbol : String
  description : String
  decimals : ℕ
  minUpdateInterval : ℕ
  maxStaleness : ℕ
  maxPriceChangeBps : ℕ
  providers : List Address
  enableCircuitBreaker : Bool

/-- A fallback configuration with nobody to fall back to. -/
def noFallback (enabled : Bool) : FallbackConfig where
  enabled := enabled
  fallbackProviders := []
  primaryFailureThreshold := 3
  currentFailures := 0
  usingFallback := false

def createPriceFeed (env : Ledger) (admin : Address) (args : FeedArgs) (s : State) :
    Result State := do
  requireAuth env.toEnv admin
  verifyAdmin s admin
  failIf ((s.priceFeed.get? args.feedId).isSome = true) Error.feedAlreadyExists
  failIf (args.providers.length < 2) Error.invalidInput
  let s := { s with
    priceFeed := s.priceFeed.set args.feedId {
      feedId := args.feedId, assetSymbol := args.assetSymbol, description := args.description
      decimals := args.decimals, minUpdateInterval := args.minUpdateInterval
      maxStaleness := args.maxStaleness, isActive := true
      circuitBreakerEnabled := args.enableCircuitBreaker
      maxPriceChangeBps := args.maxPriceChangeBps, providers := args.providers
      createdAt := env.timestamp }
    priceHistory := s.priceHistory.set args.feedId [] }
  let s := if args.enableCircuitBreaker = true then CircuitBreaker.setUp args.feedId 3600 s else s
  let count ← U64.add (s.feedCount.getD 0) 1
  .ok { s with
    fallbackConfig := s.fallbackConfig.set args.feedId (noFallback true)
    feedCount := some count }

/-- A provider of the feed, or one to fall back to. -/
def isAuthorized (s : State) (feed : PriceFeed) (feedId : String) (provider : Address) : Bool :=
  provider ∈ feed.providers ∨
    ∃ config ∈ s.fallbackConfig.get? feedId, provider ∈ config.fallbackProviders

/-- What the next price is compared with. -/
def previousPrice (s : State) (feedId : String) : ℤ :=
  match s.latestPrice.get? feedId with
  | some lastPrice => lastPrice.price
  | none => 0

/-- The history keeps its latest 1000 entries. -/
def pushHistory (history : List HistoricalPrice) (entry : HistoricalPrice) :
    List HistoricalPrice :=
  (if history.length ≥ 1000 then history.drop 1 else history) ++ [entry]

/-- A price goes to the feed, to its provider and to the history before it is checked. -/
def storePrice (feedId : String) (entry : PriceEntry) (s : State) : State :=
  { s with
    latestPrice := s.latestPrice.set feedId entry
    providerPrice := s.providerPrice.set (feedId, entry.provider) entry
    priceHistory := s.priceHistory.set feedId
      (pushHistory ((s.priceHistory.get? feedId).getD []) {
        price := entry.price, timestamp := entry.timestamp, blockNumber := entry.blockNumber
        aggregated := false }) }

/-- An accepted price: the provider's record is written back as it was read, with its counts. -/
def rewardUpdate (env : Ledger) (provider : Address) (providerData : OracleProvider) (s : State) :
    Result State := do
  let s ← IncentiveManager.recordSuccessfulUpdate env provider s
  let successfulUpdates ← U64.add providerData.successfulUpdates 1
  let totalUpdates ← U64.add providerData.totalUpdates 1
  let s := { s with
    provider := s.provider.set provider { providerData with successfulUpdates, totalUpdates } }
  let baseReward := s.baseRewardRate.getD 100
  let (distCounter, s) ← IncentiveManager.distributeUpdateReward provider baseReward
    (s.distributionCount.getD 0) s
  .ok { s with distributionCount := some distCounter }

/-- A first price has nothing to be compared with. -/
def checkMovement (feed : PriceFeed) (price previous : ℤ) : Result (Bool × ℕ) :=
  if previous > 0 then CircuitBreaker.checkPriceMovement feed price previous else .ok (false, 0)

/-- A call that trips the breaker completes, with the price stored. -/
def settlePrice (env : Ledger) (feed : PriceFeed) (feedId : String) (provider : Address)
    (providerData : OracleProvider) (price previous : ℤ) (s : State) : Result State := do
  let (shouldTrigger, changeBps) ← checkMovement feed price previous
  if shouldTrigger = true then do
    let s ← CircuitBreaker.trigger env feedId price previous changeBps 3600 s
    IncentiveManager.recordFailedUpdate provider s
  else rewardUpdate env provider providerData s

def requireInterval (env : Ledger) (feed : PriceFeed) (lastEntry : Option PriceEntry) :
    Result Unit :=
  match lastEntry with
  | none => .ok ()
  | some lastEntry => do
    let elapsed ← U64.sub env.timestamp lastEntry.timestamp
    failIf (elapsed < feed.minUpdateInterval) Error.updateTooEarly

def submitPrice (env : Ledger) (provider : Address) (feedId : String) (price : ℤ) (s : State) :
    Result State := do
  requireAuth env.toEnv provider
  failIf (price ≤ 0) Error.invalidPrice
  let feed ← okOr (s.priceFeed.get? feedId) Error.feedNotFound
  failIf (feed.isActive = false) Error.feedInactive
  failIf (isAuthorized s feed feedId provider = false) Error.unauthorized
  let providerData ← okOr (s.provider.get? provider) Error.providerNotFound
  failIf (providerData.isActive = false) Error.providerInactive
  requireInterval env feed (s.latestPrice.get? feedId)
  let (triggered, s) := CircuitBreaker.isTriggered env feedId s
  failIf (triggered = true) Error.circuitBreakerTriggered
  let previous := previousPrice s feedId
  let entry : PriceEntry := {
    price, timestamp := env.timestamp, provider, providerType := providerData.providerType
    blockNumber := env.sequence }
  settlePrice env feed feedId provider providerData price previous (storePrice feedId entry s)

/-- What the providers of a list submitted last. -/
def collectPrices (s : State) (feedId : String) (providers : List Address) : List PriceEntry :=
  providers.filterMap fun provider => s.providerPrice.get? (feedId, provider)

/-- The prices to aggregate, and whether they come from fallback providers. -/
def gatherPrices (feed : PriceFeed) (feedId : String) (s : State) :
    Result ((List PriceEntry × Bool) × State) :=
  let prices := collectPrices s feedId feed.providers
  let config := (s.fallbackConfig.get? feedId).getD (noFallback false)
  if prices.length < 2 ∧ config.enabled = true then do
    let currentFailures ← U32.add config.currentFailures 1
    .ok ((prices ++ collectPrices s feedId config.fallbackProviders, true), { s with
      fallbackConfig := s.fallbackConfig.set feedId { config with
        usingFallback := true, currentFailures } })
  else
    .ok ((prices, false), { s with
      fallbackConfig := s.fallbackConfig.set feedId { config with
        usingFallback := false, currentFailures := 0 } })

def getAggregatedPrice (env : Ledger) (caller : Address) (feedId : String) (s : State) :
    Result (AggregatedPrice × State) := do
  let s ← RateLimiter.consumeQuery env caller feedId 3600 1000 s
  let feed ← okOr (s.priceFeed.get? feedId) Error.feedNotFound
  failIf (feed.isActive = false) Error.feedInactive
  let (triggered, s) := CircuitBreaker.isTriggered env feedId s
  failIf (triggered = true) Error.circuitBreakerTriggered
  let ((prices, usingFallback), s) ← gatherPrices feed feedId s
  let filtered ← PriceAggregator.removeOutliers prices
  let aggregated ← PriceAggregator.aggregatePrices env filtered
    (if usingFallback = true then 1 else 2) feed.maxStaleness
  failIf (aggregated.isFresh = false) Error.stalePrice
  .ok (aggregated, s)

def getHistoricalPrices (env : Ledger) (caller : Address) (feedId : String) (limit : ℕ)
    (s : State) : Result (List HistoricalPrice × State) := do
  let s ← RateLimiter.consumeQuery env caller feedId 3600 1000 s
  failIf (limit > 500) Error.invalidInput
  let history := (s.priceHistory.get? feedId).getD []
  .ok (history.drop (history.length - limit), s)

def createCustomFeed (env : Ledger) (admin : Address) (feedId description dataType : String)
    (maxStaleness : ℕ) (providers : List Address) (s : State) : Result State := do
  requireAuth env.toEnv admin
  verifyAdmin s admin
  failIf ((s.customFeed.get? feedId).isSome = true) Error.feedAlreadyExists
  .ok { s with
    customFeed := s.customFeed.set feedId {
      feedId, description, dataType, isActive := true, authorizedProviders := providers
      lastUpdate := 0, maxStaleness }
    customData := s.customData.set feedId [] }

def submitCustomData (env : Ledger) (provider : Address) (feedId data : String) (s : State) :
    Result State := do
  requireAuth env.toEnv provider
  let feed ← okOr (s.customFeed.get? feedId) Error.feedNotFound
  failIf (provider ∉ feed.authorizedProviders) Error.unauthorized
  let entry : CustomDataEntry := {
    data, timestamp := env.timestamp, provider, blockNumber := env.sequence }
  let history := (s.customData.get? feedId).getD [] ++ [entry]
  let history := if history.length > 500 then history.drop 1 else history
  IncentiveManager.recordSuccessfulUpdate env provider { s with
    customData := s.customData.set feedId history
    customFeed := s.customFeed.set feedId { feed with lastUpdate := env.timestamp } }

def getCustomData (env : Ledger) (caller : Address) (feedId : String) (s : State) :
    Result (Option CustomDataEntry × State) := do
  let s ← RateLimiter.consumeQuery env caller feedId 3600 1000 s
  let feed ← okOr (s.customFeed.get? feedId) Error.feedNotFound
  failIf (feed.isActive = false) Error.feedInactive
  let age ← U64.sub env.timestamp feed.lastUpdate
  failIf (age > feed.maxStaleness) Error.stalePrice
  .ok (((s.customData.get? feedId).getD []).getLast?, s)

def resetCircuitBreaker (env : Ledger) (admin : Address) (feedId : String) (s : State) :
    Result State := do
  requireAuth env.toEnv admin
  verifyAdmin s admin
  .ok (CircuitBreaker.reset feedId s)

def addFallbackProvider (env : Ledger) (admin : Address) (feedId : String) (provider : Address)
    (s : State) : Result State := do
  requireAuth env.toEnv admin
  verifyAdmin s admin
  let config := (s.fallbackConfig.get? feedId).getD (noFallback true)
  if provider ∈ config.fallbackProviders then .ok s
  else .ok { s with fallbackConfig := s.fallbackConfig.set feedId { config with
    fallbackProviders := config.fallbackProviders ++ [provider] } }

def SubscriptionTier.queries : SubscriptionTier → ℕ
  | free => 10
  | basic => 100
  | premium => 1000
  | unlimited => 2 ^ 32 - 1

def grantSubscription (env : Ledger) (admin user : Address) (feedId : String)
    (tier : SubscriptionTier) (durationSeconds : ℕ) (s : State) : Result State := do
  requireAuth env.toEnv admin
  verifyAdmin s admin
  failIf (durationSeconds = 0) Error.invalidInput
  let expiresAt ← U64.add env.timestamp durationSeconds
  .ok { s with subscription := s.subscription.set (user, feedId) {
    subscriber := user, feedId, tier, expiresAt, queriesRemaining := tier.queries
    autoRenew := false, createdAt := env.timestamp } }

def getLatestPrice (feedId : String) (s : State) : Option PriceEntry := s.latestPrice.get? feedId

def getLatestPricesBatch (env : Ledger) (caller : Address) (feedIds : List String) (s : State) :
    Result (List (Option PriceEntry) × State) := do
  let s ← RateLimiter.consumeBatchQuery env caller s
  .ok (feedIds.map fun feedId => s.latestPrice.get? feedId, s)

def getTwap (env : Ledger) (caller : Address) (feedId : String) (windowSeconds : ℕ) (s : State) :
    Result (ℤ × State) := do
  let s ← RateLimiter.consumeQuery env caller feedId 3600 1000 s
  failIf (¬ (60 ≤ windowSeconds ∧ windowSeconds ≤ 30 * 24 * 3600)) Error.invalidInput
  let history := (s.priceHistory.get? feedId).getD []
  let average ← PriceAggregator.calculateTwap env history windowSeconds
  let twap ← okOr average Error.notEnoughSources
  .ok (twap, s)

inductive Op where
  | initializeContract (admin treasury : Address)
  | registerProvider (admin providerAddress : Address) (providerType : OracleProviderType)
    (isPrimary : Bool) (stakeAmount minStake : ℤ)
  | createPriceFeed (admin : Address) (args : FeedArgs)
  | submitPrice (provider : Address) (feedId : String) (price : ℤ)
  | getAggregatedPrice (caller : Address) (feedId : String)
  | getHistoricalPrices (caller : Address) (feedId : String) (limit : ℕ)
  | createCustomFeed (admin : Address) (feedId description dataType : String) (maxStaleness : ℕ)
    (providers : List Address)
  | submitCustomData (provider : Address) (feedId data : String)
  | getCustomData (caller : Address) (feedId : String)
  | withdrawIncentives (provider : Address)
  | resetCircuitBreaker (admin : Address) (feedId : String)
  | addFallbackProvider (admin : Address) (feedId : String) (provider : Address)
  | grantSubscription (admin user : Address) (feedId : String) (tier : SubscriptionTier)
    (durationSeconds : ℕ)
  | getLatestPricesBatch (caller : Address) (feedIds : List String)
  | getTwap (caller : Address) (feedId : String) (windowSeconds : ℕ)

structure Action where
  env : Ledger
  op : Op

/-- The state an invocation leaves behind. -/
def next (a : Action) (s : State) : Result State :=
  match a.op with
  | .initializeContract admin treasury => initializeContract a.env admin treasury s
  | .registerProvider admin provider kind isPrimary stake minStake =>
    registerProvider a.env admin provider kind isPrimary stake minStake s
  | .createPriceFeed admin args => createPriceFeed a.env admin args s
  | .submitPrice provider feedId price => submitPrice a.env provider feedId price s
  | .getAggregatedPrice caller feedId => (getAggregatedPrice a.env caller feedId s).map (·.2)
  | .getHistoricalPrices caller feedId limit =>
    (getHistoricalPrices a.env caller feedId limit s).map (·.2)
  | .createCustomFeed admin feedId description dataType maxStaleness providers =>
    createCustomFeed a.env admin feedId description dataType maxStaleness providers s
  | .submitCustomData provider feedId data => submitCustomData a.env provider feedId data s
  | .getCustomData caller feedId => (getCustomData a.env caller feedId s).map (·.2)
  | .withdrawIncentives provider =>
    (IncentiveManager.withdrawIncentives a.env provider s).map (·.2)
  | .resetCircuitBreaker admin feedId => resetCircuitBreaker a.env admin feedId s
  | .addFallbackProvider admin feedId provider =>
    addFallbackProvider a.env admin feedId provider s
  | .grantSubscription admin user feedId tier duration =>
    grantSubscription a.env admin user feedId tier duration s
  | .getLatestPricesBatch caller feedIds =>
    (getLatestPricesBatch a.env caller feedIds s).map (·.2)
  | .getTwap caller feedId windowSeconds => (getTwap a.env caller feedId windowSeconds s).map (·.2)

end Oracle
