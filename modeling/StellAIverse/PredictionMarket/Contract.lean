import StellAIverse.PredictionMarket.Math

/-!
# The prediction market contract

Every entry point, in the order of the source: guards and messages first, then
the writes and the token transfer in the order the code performs them. Events
are not part of the state and are left out.
-/

namespace PredictionMarket

open Soroban

variable {τ : Type} (tok : Token τ) (self : Address)

def assertAdmin (s : State τ) (caller : Address) : Result Unit := do
  let admin ← expect s.admin "Admin not set"
  panicIf (caller ≠ admin) "Unauthorized"

def assertMarketActive (s : State τ) (marketId : ℕ) : Result Unit := do
  let market ← expect (getMarket s marketId) "Market not found"
  panicIf (market.status ≠ .active) "Market not active"

def assertTradingActive (s : State τ) (marketId : ℕ) : Result Unit := do
  panicIf (s.tradingPaused = true) "Trading is paused"
  assertMarketActive s marketId

/-- Average price of a position, zero for one that is not long. -/
def entryPrice (cost quantity : ℤ) : Result ℤ :=
  if quantity > 0 then do
    let scaled ← I128.mul cost decimalFactor
    I128.div scaled quantity
  else .ok 0

def updatePosition (env : Env) (marketId outcomeIndex : ℕ) (user : Address)
    (quantity collateralSpent : ℤ) (s : State τ) : Result (State τ) := do
  match getUserPosition s marketId outcomeIndex user with
  | some pos =>
    let scaled ← I128.mul pos.avgEntryPrice pos.quantity
    let held ← I128.div scaled decimalFactor
    let totalCost ← I128.add held collateralSpent
    let newQuantity ← I128.add pos.quantity quantity
    let avgEntryPrice ← entryPrice totalCost newQuantity
    .ok (setUserPosition s { pos with
      quantity := newQuantity, avgEntryPrice, updatedAt := env.timestamp })
  | none =>
    let avgEntryPrice ← entryPrice collateralSpent quantity
    .ok (setUserPosition s {
      marketId, outcomeIndex, owner := user, quantity, avgEntryPrice, realizedPnl := 0
      createdAt := env.timestamp, updatedAt := env.timestamp })

/-- The position after a sale; a seller without one goes short. -/
def soldPosition (env : Env) (marketId outcomeIndex : ℕ) (user : Address)
    (quantity collateralReceived entryPrice : ℤ) :
    Option UserOutcomePosition → Result UserOutcomePosition
  | some pos => do
    let scaled ← I128.mul entryPrice quantity
    let costBasis ← I128.div scaled decimalFactor
    let pnl ← I128.sub collateralReceived costBasis
    let realizedPnl ← I128.add pos.realizedPnl pnl
    let newQuantity ← I128.sub pos.quantity quantity
    .ok { pos with realizedPnl, quantity := newQuantity, updatedAt := env.timestamp }
  | none => do
    let negated ← I128.sub 0 quantity
    .ok {
      marketId, outcomeIndex, owner := user, quantity := negated, avgEntryPrice := 0
      realizedPnl := if quantity > 0 then collateralReceived else 0
      createdAt := env.timestamp, updatedAt := env.timestamp }

def updatePositionOnSell (env : Env) (marketId outcomeIndex : ℕ) (user : Address)
    (quantity collateralReceived entryPrice : ℤ) (s : State τ) : Result (State τ) := do
  let position ← soldPosition env marketId outcomeIndex user quantity collateralReceived entryPrice
    (getUserPosition s marketId outcomeIndex user)
  .ok (if position.quantity ≤ 0 ∧ position.realizedPnl = 0 then
      { s with userPosition := s.userPosition.remove (marketId, outcomeIndex, user) }
    else setUserPosition s position)

def initializeContract (env : Env) (admin oracle : Address) (s : State τ) : Result (State τ) := do
  panicIf (s.admin.isSome = true) "Already initialized"
  requireAuth env admin
  .ok { s with
    admin := some admin, defaultOracle := some oracle, marketCounter := 0, tradingPaused := false }

/-- The loop that seeds the pools `i, i + 1, ...` of a new market. -/
def seedPools (marketId : ℕ) (initialLiquidity : ℤ) : ℕ → ℕ → State τ → Result (State τ)
  | 0, _, s => .ok s
  | count + 1, i, s => do
    let product ← I128.mul initialLiquidity initialLiquidity
    let lpTotalSupply ← isqrt product
    let s := setOutcomePool s marketId i
      { collateralReserve := initialLiquidity, outcomeReserve := initialLiquidity, lpTotalSupply }
    let s := setTotalOutcomeSupply s marketId i 0
    seedPools marketId initialLiquidity count (i + 1) s

/-- The record `create_market` stores under a new id. -/
def newMarket (env : Env) (creator : Address) (params : CreateMarketParams)
    (marketId resolutionWindowEnd : ℕ) : Market where
  marketId := marketId
  question := params.question
  category := params.category
  creator := creator
  collateralToken := params.collateralToken
  oracleSource := params.oracleSource
  numOutcomes := params.numOutcomes
  outcomeNames := params.outcomeNames
  status := .active
  createdAt := env.timestamp
  resolutionWindowStart := env.timestamp
  resolutionWindowEnd := resolutionWindowEnd
  resolvedOutcome := none
  totalCollateral := 0
  maxOutcomeSupply := params.maxOutcomeSupply
  tradingFeeBps := params.tradingFeeBps

def createMarket (env : Env) (creator : Address) (params : CreateMarketParams) (s : State τ) :
    Result (ℕ × State τ) := do
  requireAuth env creator
  panicIf (params.numOutcomes < 2 ∨ params.numOutcomes > maxOutcomes)
    "Invalid number of outcomes (2-10)"
  panicIf (params.outcomeNames.length ≠ params.numOutcomes)
    "Outcome names count must match num_outcomes"
  panicIf (params.tradingFeeBps > maxTradingFeeBps) "Fee too high"
  panicIf (params.resolutionWindowDuration < minResolutionWindow ∨
    params.resolutionWindowDuration > maxResolutionWindow) "Invalid resolution window"
  panicIf (params.initialLiquidity ≤ 0) "Initial liquidity must be positive"
  panicIf (params.maxOutcomeSupply ≤ 0) "Invalid market cap"
  let marketId := s.marketCounter
  let resolutionWindowEnd ← U64.add env.timestamp params.resolutionWindowDuration
  let s := setMarket s (newMarket env creator params marketId resolutionWindowEnd)
  let nextId ← U64.add marketId 1
  let s := { s with marketCounter := nextId }
  let totalInitial ← I128.mul params.initialLiquidity params.numOutcomes
  let tokens ← tok.pay s.tokens params.collateralToken creator self totalInitial
  let s := { s with tokens }
  let s ← seedPools marketId params.initialLiquidity params.numOutcomes 0 s
  let s := setMarketCollateral s marketId totalInitial
  let product ← I128.mul params.initialLiquidity params.initialLiquidity
  let root ← isqrt product
  let lpTotal ← I128.mul root params.numOutcomes
  let s := setLpTotalSupply s marketId lpTotal
  .ok (marketId, s)

def resolveMarket (env : Env) (oracleCaller : Address) (marketId outcome : ℕ) (s : State τ) :
    Result (State τ) := do
  requireAuth env oracleCaller
  let market ← expect (getMarket s marketId) "Market not found"
  panicIf (oracleCaller ≠ market.oracleSource ∧ some oracleCaller ≠ s.defaultOracle)
    "Unauthorized oracle"
  panicIf (market.status = .resolved) "Market already resolved"
  panicIf (env.timestamp ≤ market.resolutionWindowEnd) "Resolution window not closed"
  panicIf (outcome ≥ market.numOutcomes) "Invalid outcome index"
  .ok (setMarket s { market with status := .resolved, resolvedOutcome := some outcome })

def closeMarketEarly (env : Env) (caller : Address) (marketId : ℕ) (s : State τ) :
    Result (State τ) := do
  requireAuth env caller
  let market ← expect (getMarket s marketId) "Market not found"
  panicIf (s.admin ≠ some caller ∧ caller ≠ market.creator) "Unauthorized"
  panicIf (market.status ≠ .active) "Market not active"
  .ok (setMarket s { market with status := .closed })

def buyOutcome (env : Env) (buyer : Address) (marketId outcomeIndex : ℕ)
    (collateralIn minOutcomeOut : ℤ) (s : State τ) : Result (ℤ × State τ) := do
  requireAuth env buyer
  assertTradingActive s marketId
  panicIf (collateralIn ≤ 0) "Invalid amount"
  let market ← unwrap (getMarket s marketId)
  panicIf (outcomeIndex ≥ market.numOutcomes) "Invalid outcome index"
  let pool ← expect (getOutcomePool s marketId outcomeIndex) "Outcome pool not found"
  let currentSupply := getTotalOutcomeSupply s marketId outcomeIndex
  let outcomeOut ← calculateBuyAmount collateralIn pool.collateralReserve pool.outcomeReserve
    market.tradingFeeBps
  panicIf (outcomeOut ≤ 0) "Output amount is zero"
  panicIf (outcomeOut < minOutcomeOut) "Slippage exceeded"
  let newSupply ← I128.add currentSupply outcomeOut
  panicIf (newSupply > market.maxOutcomeSupply) "Market cap exceeded"
  let tokens ← tok.pay s.tokens market.collateralToken buyer self collateralIn
  let s := { s with tokens }
  let feeFactor ← I128.sub 10000 market.tradingFeeBps
  let scaled ← I128.mul collateralIn feeFactor
  let netCollateral ← I128.div scaled 10000
  let collateralReserve ← I128.add pool.collateralReserve netCollateral
  let outcomeReserve ← I128.sub pool.outcomeReserve outcomeOut
  let s := setOutcomePool s marketId outcomeIndex { pool with collateralReserve, outcomeReserve }
  let newBalance ← I128.add (getOutcomeBalance s marketId outcomeIndex buyer) outcomeOut
  let s := setOutcomeBalance s marketId outcomeIndex buyer newBalance
  let s := setTotalOutcomeSupply s marketId outcomeIndex newSupply
  let s ← updatePosition env marketId outcomeIndex buyer outcomeOut collateralIn s
  let newCollateral ← I128.add (getMarketCollateral s marketId) collateralIn
  let s := setMarketCollateral s marketId newCollateral
  .ok (outcomeOut, s)

def sellOutcome (env : Env) (seller : Address) (marketId outcomeIndex : ℕ)
    (outcomeAmount minCollateralOut : ℤ) (s : State τ) : Result (ℤ × State τ) := do
  requireAuth env seller
  assertTradingActive s marketId
  panicIf (outcomeAmount ≤ 0) "Invalid amount"
  let market ← unwrap (getMarket s marketId)
  panicIf (outcomeIndex ≥ market.numOutcomes) "Invalid outcome index"
  let userBalance := getOutcomeBalance s marketId outcomeIndex seller
  panicIf (userBalance < outcomeAmount) "Insufficient balance"
  let pool ← expect (getOutcomePool s marketId outcomeIndex) "Outcome pool not found"
  let collateralOut ← calculateSellAmount outcomeAmount pool.collateralReserve
    pool.outcomeReserve market.tradingFeeBps
  panicIf (collateralOut ≤ 0) "Output amount is zero"
  panicIf (collateralOut < minCollateralOut) "Slippage exceeded"
  let collateralReserve ← I128.sub pool.collateralReserve collateralOut
  let outcomeReserve ← I128.add pool.outcomeReserve outcomeAmount
  let s := setOutcomePool s marketId outcomeIndex { pool with collateralReserve, outcomeReserve }
  let newBalance ← I128.sub userBalance outcomeAmount
  let s := setOutcomeBalance s marketId outcomeIndex seller newBalance
  let tokens ← tok.pay s.tokens market.collateralToken self seller collateralOut
  let s := { s with tokens }
  let entryPrice := if userBalance > 0 then
      ((getUserPosition s marketId outcomeIndex seller).map (·.avgEntryPrice)).getD 0
    else 0
  let s ← updatePositionOnSell env marketId outcomeIndex seller outcomeAmount collateralOut
    entryPrice s
  let newCollateral ← I128.sub (getMarketCollateral s marketId) collateralOut
  let s := setMarketCollateral s marketId newCollateral
  let newSupply ← I128.sub (getTotalOutcomeSupply s marketId outcomeIndex) outcomeAmount
  let s := setTotalOutcomeSupply s marketId outcomeIndex newSupply
  .ok (collateralOut, s)

def addLiquidity (env : Env) (provider : Address) (marketId outcomeIndex : ℕ)
    (collateralAmount outcomeAmount : ℤ) (s : State τ) : Result (ℤ × State τ) := do
  requireAuth env provider
  assertMarketActive s marketId
  panicIf (collateralAmount ≤ 0 ∨ outcomeAmount ≤ 0) "Amounts must be positive"
  let market ← unwrap (getMarket s marketId)
  panicIf (outcomeIndex ≥ market.numOutcomes) "Invalid outcome index"
  let pool ← expect (getOutcomePool s marketId outcomeIndex) "Outcome pool not found"
  let lpShares ← calculateLpSharesAdd collateralAmount outcomeAmount pool
  panicIf (lpShares ≤ 0) "Insufficient liquidity minted"
  let tokens ← tok.pay s.tokens market.collateralToken provider self collateralAmount
  let s := { s with tokens }
  -- The provider's outcome balance is neither checked nor debited.
  let collateralReserve ← I128.add pool.collateralReserve collateralAmount
  let outcomeReserve ← I128.add pool.outcomeReserve outcomeAmount
  let lpTotalSupply ← I128.add pool.lpTotalSupply lpShares
  let s := setOutcomePool s marketId outcomeIndex { collateralReserve, outcomeReserve, lpTotalSupply }
  let newShares ← I128.add (getLpShares s marketId provider) lpShares
  let s := setLpShares s marketId provider newShares
  let newTotal ← I128.add (getLpTotalSupply s marketId) lpShares
  let s := setLpTotalSupply s marketId newTotal
  let newCollateral ← I128.add (getMarketCollateral s marketId) collateralAmount
  let s := setMarketCollateral s marketId newCollateral
  .ok (lpShares, s)

def removeLiquidity (env : Env) (provider : Address) (marketId outcomeIndex : ℕ)
    (lpAmount : ℤ) (s : State τ) : Result ((ℤ × ℤ) × State τ) := do
  requireAuth env provider
  panicIf (lpAmount ≤ 0) "LP amount must be positive"
  let userShares := getLpShares s marketId provider
  panicIf (userShares < lpAmount) "Insufficient LP tokens"
  let pool ← expect (getOutcomePool s marketId outcomeIndex) "Outcome pool not found"
  panicIf (pool.lpTotalSupply ≤ 0) "No liquidity"
  -- Shares are per market: nothing bounds the burn by the supply of this pool.
  let (collateralOut, outcomeOut) ← calculateLpWithdraw lpAmount pool
  let market ← unwrap (getMarket s marketId)
  let tokens ← tok.pay s.tokens market.collateralToken self provider collateralOut
  let s := { s with tokens }
  let collateralReserve ← I128.sub pool.collateralReserve collateralOut
  let outcomeReserve ← I128.sub pool.outcomeReserve outcomeOut
  let lpTotalSupply ← I128.sub pool.lpTotalSupply lpAmount
  let s := setOutcomePool s marketId outcomeIndex { collateralReserve, outcomeReserve, lpTotalSupply }
  let newShares ← I128.sub userShares lpAmount
  let s := setLpShares s marketId provider newShares
  let newTotal ← I128.sub (getLpTotalSupply s marketId) lpAmount
  let s := setLpTotalSupply s marketId newTotal
  let newBalance ← I128.add (getOutcomeBalance s marketId outcomeIndex provider) outcomeOut
  let s := setOutcomeBalance s marketId outcomeIndex provider newBalance
  let newCollateral ← I128.sub (getMarketCollateral s marketId) collateralOut
  let s := setMarketCollateral s marketId newCollateral
  .ok ((collateralOut, outcomeOut), s)

/-- A buy order locks its cost; a sell order locks nothing. -/
def lockCollateral (s : State τ) (token owner : Address) (price quantity : ℤ) :
    OrderSide → Result τ
  | .buy => do
    let scaled ← I128.mul price quantity
    let cost ← I128.div scaled decimalFactor
    panicIf (tok.balance s.tokens token owner < cost) "Insufficient collateral for order"
    tok.pay s.tokens token owner self cost
  | .sell => .ok s.tokens

def placeOrder (env : Env) (owner : Address) (marketId outcomeIndex : ℕ) (side : OrderSide)
    (price quantity : ℤ) (s : State τ) : Result (ℕ × State τ) := do
  requireAuth env owner
  assertTradingActive s marketId
  panicIf (price ≤ 0 ∨ quantity ≤ 0) "Invalid price or quantity"
  let market ← unwrap (getMarket s marketId)
  panicIf (outcomeIndex ≥ market.numOutcomes) "Invalid outcome index"
  panicIf (side = .sell ∧ getOutcomeBalance s marketId outcomeIndex owner < quantity)
    "Insufficient balance for sell order"
  let tokens ← lockCollateral tok self s market.collateralToken owner price quantity side
  let s := { s with tokens }
  let orderId := getOrderCounter s marketId
  let s := setOrder s {
    orderId, marketId, owner, outcomeIndex, side, price, quantity, filledQuantity := 0
    status := .open, createdAt := env.timestamp, expiresAt := none }
  let nextId ← U64.add orderId 1
  let s := setOrderCounter s marketId nextId
  .ok (orderId, s)

def cancelOrder (env : Env) (owner : Address) (marketId orderId : ℕ) (s : State τ) :
    Result (State τ) := do
  requireAuth env owner
  let order ← expect (getOrder s marketId orderId) "Order not found"
  panicIf (order.owner ≠ owner) "Unauthorized"
  panicIf (order.status ≠ .open) "Order not open"
  let s := setOrder s { order with status := .cancelled }
  match order.side with
  | .sell => .ok s
  | .buy =>
    let remaining ← I128.sub order.quantity order.filledQuantity
    let scaled ← I128.mul order.price remaining
    let cost ← I128.div scaled decimalFactor
    if cost > 0 then
      let market ← unwrap (getMarket s marketId)
      let tokens ← tok.pay s.tokens market.collateralToken self owner cost
      .ok { s with tokens }
    else .ok s

/-- A buy order the scan does not skip. -/
def Matches (seller : Address) (sell buy : LimitOrder) : Prop :=
  buy.status = .open ∧ buy.side = .buy ∧ buy.outcomeIndex = sell.outcomeIndex ∧
    buy.owner ≠ seller ∧ sell.price ≤ buy.price

instance (seller : Address) (sell buy : LimitOrder) : Decidable (Matches seller sell buy) :=
  inferInstanceAs (Decidable (_ ∧ _ ∧ _ ∧ _ ∧ _))

/-- What the scan over the book carries. -/
structure Scan (τ : Type) where
  state : State τ
  remaining : ℤ
  received : ℤ

/-- Fill one buy order as far as the sell order reaches. -/
def fillOrder (marketId : ℕ) (sell buy : LimitOrder) (acc : Scan τ) : Result (Scan τ) := do
  let s := acc.state
  let buyRemaining ← I128.sub buy.quantity buy.filledQuantity
  let fillAmount := if acc.remaining < buyRemaining then acc.remaining else buyRemaining
  let scaled ← I128.mul buy.price fillAmount
  let collateral ← I128.div scaled decimalFactor
  let received ← I128.add acc.received collateral
  let filledQuantity ← I128.add buy.filledQuantity fillAmount
  let status := if filledQuantity ≥ buy.quantity then OrderStatus.filled else OrderStatus.open
  let s := setOrder s { buy with filledQuantity, status }
  let newBalance ← I128.add (getOutcomeBalance s marketId sell.outcomeIndex buy.owner) fillAmount
  let s := setOutcomeBalance s marketId sell.outcomeIndex buy.owner newBalance
  let remaining ← I128.sub acc.remaining fillAmount
  .ok { state := s, remaining, received }

/-- `for oid in 0..order_counter`, leaving early once nothing remains. -/
def scanOrders (marketId : ℕ) (seller : Address) (sell : LimitOrder) :
    List ℕ → Scan τ → Result (Scan τ)
  | [], acc => .ok acc
  | oid :: rest, acc =>
    if acc.remaining ≤ 0 then .ok acc else
    match getOrder acc.state marketId oid with
    | none => scanOrders marketId seller sell rest acc
    | some buy =>
      if Matches seller sell buy then do
        let acc ← fillOrder marketId sell buy acc
        scanOrders marketId seller sell rest acc
      else scanOrders marketId seller sell rest acc

def matchSellOrder (env : Env) (seller : Address) (marketId orderId : ℕ) (s : State τ) :
    Result (ℤ × State τ) := do
  requireAuth env seller
  let sell ← expect (getOrder s marketId orderId) "Order not found"
  panicIf (sell.owner ≠ seller) "Unauthorized"
  panicIf (sell.status ≠ .open) "Order not open"
  panicIf (sell.side ≠ .sell) "Not a sell order"
  let remaining ← I128.sub sell.quantity sell.filledQuantity
  let acc ← scanOrders marketId seller sell (List.range (getOrderCounter s marketId))
    { state := s, remaining, received := 0 }
  let s := acc.state
  let filledQuantity ← I128.sub sell.quantity acc.remaining
  let status := if acc.remaining = 0 then OrderStatus.filled else OrderStatus.open
  let s := setOrder s { sell with filledQuantity, status }
  -- The debit is everything ever filled, not what this call filled.
  let newBalance ← I128.sub (getOutcomeBalance s marketId sell.outcomeIndex seller) filledQuantity
  let s := setOutcomeBalance s marketId sell.outcomeIndex seller newBalance
  if acc.received > 0 then
    let market ← unwrap (getMarket s marketId)
    let tokens ← tok.pay s.tokens market.collateralToken self seller acc.received
    .ok (acc.received, { s with tokens })
  else .ok (acc.received, s)

def redeemWinningTokens (env : Env) (user : Address) (marketId : ℕ) (s : State τ) :
    Result (ℤ × State τ) := do
  requireAuth env user
  let market ← expect (getMarket s marketId) "Market not found"
  panicIf (market.status ≠ .resolved) "Market not resolved"
  let winningOutcome ← expect market.resolvedOutcome "No resolved outcome"
  let balance := getOutcomeBalance s marketId winningOutcome user
  panicIf (balance ≤ 0) "No winning tokens to redeem"
  let pool ← expect (getOutcomePool s marketId winningOutcome) "Pool not found"
  -- Partial redemption if the pool is depleted, 1:1 otherwise.
  let payout := if pool.collateralReserve < balance then pool.collateralReserve else balance
  let tokens ← tok.pay s.tokens market.collateralToken self user payout
  let s := { s with tokens }
  let s := setOutcomeBalance s marketId winningOutcome user 0
  let collateralReserve ← I128.sub pool.collateralReserve payout
  let s := setOutcomePool s marketId winningOutcome { pool with collateralReserve }
  let newCollateral ← I128.sub (getMarketCollateral s marketId) payout
  let s := setMarketCollateral s marketId newCollateral
  .ok (payout, s)

def openDispute (env : Env) (challenger : Address) (marketId claimedOutcome : ℕ)
    (evidence : String) (stakeAmount : ℤ) (s : State τ) : Result (ℕ × State τ) := do
  requireAuth env challenger
  let market ← expect (getMarket s marketId) "Market not found"
  panicIf (market.status ≠ .resolved) "Market must be resolved to dispute"
  panicIf (claimedOutcome ≥ market.numOutcomes) "Invalid outcome index"
  panicIf (stakeAmount ≤ 0) "Stake required"
  let tokens ← tok.pay s.tokens market.collateralToken challenger self stakeAmount
  let s := { s with tokens }
  let disputeId := getDisputeCounter s marketId
  let s := setDispute s {
    disputeId, marketId, challenger, claimedOutcome, evidence, stakeAmount, status := .open
    votesFor := 0, votesAgainst := 0, createdAt := env.timestamp, resolvedAt := none }
  let nextId ← U64.add disputeId 1
  let s := setDisputeCounter s marketId nextId
  let s := setMarket s { market with status := .disputed }
  .ok (disputeId, s)

/-- `for i in 0..num_outcomes { weight += balance }`. -/
def voteWeight (s : State τ) (marketId : ℕ) (voter : Address) : ℕ → Result ℤ
  | 0 => .ok 0
  | n + 1 => do
    let weight ← voteWeight s marketId voter n
    I128.add weight (getOutcomeBalance s marketId n voter)

def voteDispute (env : Env) (voter : Address) (marketId disputeId : ℕ)
    (supportChallenger : Bool) (s : State τ) : Result (State τ) := do
  requireAuth env voter
  let dispute ← expect (getDispute s marketId disputeId) "Dispute not found"
  panicIf (dispute.status ≠ .open ∧ dispute.status ≠ .voted) "Dispute not open"
  panicIf (hasVoted s marketId disputeId voter = true) "Already voted"
  let market ← unwrap (getMarket s marketId)
  let weight ← voteWeight s marketId voter market.numOutcomes
  panicIf (weight ≤ 0) "No tokens to vote with"
  let s := setVote s marketId disputeId voter weight
  if supportChallenger then
    let votesFor ← I128.add dispute.votesFor weight
    .ok (setDispute s { dispute with votesFor, status := .voted })
  else
    let votesAgainst ← I128.add dispute.votesAgainst weight
    .ok (setDispute s { dispute with votesAgainst, status := .voted })

/-- The stake of a rejected dispute goes to governance, if a collector is set. -/
def forfeitStake (s : State τ) (token : Address) (stakeAmount : ℤ) : Result τ :=
  match s.governanceCollector with
  | some collector => tok.pay s.tokens token self collector stakeAmount
  | none => .ok s.tokens

def resolveDispute (env : Env) (admin : Address) (marketId disputeId : ℕ) (s : State τ) :
    Result (State τ) := do
  requireAuth env admin
  assertAdmin s admin
  let dispute ← expect (getDispute s marketId disputeId) "Dispute not found"
  panicIf (dispute.status = .resolvedUpheld ∨ dispute.status = .resolvedRejected)
    "Dispute already resolved"
  let market ← unwrap (getMarket s marketId)
  if dispute.votesFor > dispute.votesAgainst then
    let s := setMarket s { market with
      resolvedOutcome := some dispute.claimedOutcome, status := .resolved }
    let tokens ← tok.pay s.tokens market.collateralToken self dispute.challenger
      dispute.stakeAmount
    let s := { s with tokens }
    .ok (setDispute s { dispute with
      status := .resolvedUpheld, resolvedAt := some env.timestamp })
  else
    let tokens ← forfeitStake tok self s market.collateralToken dispute.stakeAmount
    let s := { s with tokens }
    let s := setDispute s { dispute with
      status := .resolvedRejected, resolvedAt := some env.timestamp }
    .ok (setMarket s { market with status := .resolved })

def setPaused (env : Env) (admin : Address) (paused : Bool) (s : State τ) : Result (State τ) := do
  requireAuth env admin
  assertAdmin s admin
  .ok { s with tradingPaused := paused }

def adminPauseTrading (env : Env) (admin : Address) (s : State τ) : Result (State τ) :=
  setPaused env admin true s

def adminResumeTrading (env : Env) (admin : Address) (s : State τ) : Result (State τ) :=
  setPaused env admin false s

def adminSetAdmin (env : Env) (currentAdmin newAdmin : Address) (s : State τ) :
    Result (State τ) := do
  requireAuth env currentAdmin
  assertAdmin s currentAdmin
  .ok { s with admin := some newAdmin }

def adminSetFeeConfig (env : Env) (admin collector : Address) (feeShareBps : ℤ) (s : State τ) :
    Result (State τ) := do
  requireAuth env admin
  assertAdmin s admin
  panicIf (¬ (0 ≤ feeShareBps ∧ feeShareBps ≤ 5000)) "Invalid fee config"
  .ok { s with governanceCollector := some collector, feeShareBps }

def adminSetOracle (env : Env) (admin oracle : Address) (s : State τ) : Result (State τ) := do
  requireAuth env admin
  assertAdmin s admin
  .ok { s with defaultOracle := some oracle }

/-- The invocations that can change storage. -/
inductive Op where
  | initializeContract (admin oracle : Address)
  | createMarket (creator : Address) (params : CreateMarketParams)
  | resolveMarket (oracleCaller : Address) (marketId outcome : ℕ)
  | closeMarketEarly (caller : Address) (marketId : ℕ)
  | buyOutcome (buyer : Address) (marketId outcomeIndex : ℕ) (collateralIn minOutcomeOut : ℤ)
  | sellOutcome (seller : Address) (marketId outcomeIndex : ℕ)
      (outcomeAmount minCollateralOut : ℤ)
  | addLiquidity (provider : Address) (marketId outcomeIndex : ℕ)
      (collateralAmount outcomeAmount : ℤ)
  | removeLiquidity (provider : Address) (marketId outcomeIndex : ℕ) (lpAmount : ℤ)
  | placeOrder (owner : Address) (marketId outcomeIndex : ℕ) (side : OrderSide)
      (price quantity : ℤ)
  | cancelOrder (owner : Address) (marketId orderId : ℕ)
  | matchSellOrder (seller : Address) (marketId orderId : ℕ)
  | redeemWinningTokens (user : Address) (marketId : ℕ)
  | openDispute (challenger : Address) (marketId claimedOutcome : ℕ) (evidence : String)
      (stakeAmount : ℤ)
  | voteDispute (voter : Address) (marketId disputeId : ℕ) (supportChallenger : Bool)
  | resolveDispute (admin : Address) (marketId disputeId : ℕ)
  | adminPauseTrading (admin : Address)
  | adminResumeTrading (admin : Address)
  | adminSetAdmin (currentAdmin newAdmin : Address)
  | adminSetFeeConfig (admin collector : Address) (feeShareBps : ℤ)
  | adminSetOracle (admin oracle : Address)

/-- The state an invocation leaves behind. -/
def invoke (env : Env) (op : Op) (s : State τ) : Result (State τ) :=
  match op with
  | .initializeContract admin oracle => initializeContract env admin oracle s
  | .createMarket creator params => (createMarket tok self env creator params s).map (·.2)
  | .resolveMarket caller m o => resolveMarket env caller m o s
  | .closeMarketEarly caller m => closeMarketEarly env caller m s
  | .buyOutcome buyer m i c o => (buyOutcome tok self env buyer m i c o s).map (·.2)
  | .sellOutcome seller m i o c => (sellOutcome tok self env seller m i o c s).map (·.2)
  | .addLiquidity p m i c o => (addLiquidity tok self env p m i c o s).map (·.2)
  | .removeLiquidity p m i l => (removeLiquidity tok self env p m i l s).map (·.2)
  | .placeOrder owner m i side p q => (placeOrder tok self env owner m i side p q s).map (·.2)
  | .cancelOrder owner m o => cancelOrder tok self env owner m o s
  | .matchSellOrder seller m o => (matchSellOrder tok self env seller m o s).map (·.2)
  | .redeemWinningTokens user m => (redeemWinningTokens tok self env user m s).map (·.2)
  | .openDispute c m o e stake => (openDispute tok self env c m o e stake s).map (·.2)
  | .voteDispute voter m d support => voteDispute env voter m d support s
  | .resolveDispute admin m d => resolveDispute tok self env admin m d s
  | .adminPauseTrading admin => adminPauseTrading env admin s
  | .adminResumeTrading admin => adminResumeTrading env admin s
  | .adminSetAdmin current new => adminSetAdmin env current new s
  | .adminSetFeeConfig admin collector bps => adminSetFeeConfig env admin collector bps s
  | .adminSetOracle admin oracle => adminSetOracle env admin oracle s

/-- What happens on the ledger between two states of the contract: somebody
invokes it, or tokens move without it. -/
inductive Action (τ : Type) where
  | call (env : Env) (op : Op)
  | transfers (tokens : τ)

def next (a : Action τ) (s : State τ) : Result (State τ) :=
  match a with
  | .call env op => invoke tok self env op s
  | .transfers tokens => .ok { s with tokens }

end PredictionMarket
