import StellAIverse.Soroban.Newton
import StellAIverse.Soroban.Token

/-!
# The portfolio manager

Users deposit one token into a portfolio of weighted assets and hold shares of
it. What the assets are worth is reported to the contract; only deposits,
withdrawals and dividend claims move tokens. Storage and every entry point that
writes, in the order of the source; events and getters are left out.
-/

namespace PortfolioManager

open Soroban

abbrev Symbol := String

inductive PortfolioType where
  | conservative | balanced | aggressive | thematic | custom
  deriving DecidableEq, Repr

inductive WeightingStrategy where
  | equalWeight | customWeight | marketCapWeighted
  deriving DecidableEq, Repr

inductive RebalanceFrequency where
  | monthly | quarterly | semiAnnual | annual
  deriving DecidableEq, Repr

inductive PortfolioStatus where
  | active | paused | closed
  deriving DecidableEq, Repr

inductive RebalanceTrigger where
  | timeBased | driftTriggered | governanceForced
  deriving DecidableEq, Repr

structure AssetAllocation where
  token : Address
  weightBps : ℕ
  feedId : Option Symbol
  deriving DecidableEq, Repr

structure Portfolio where
  portfolioId : ℕ
  creator : Address
  name : Symbol
  portfolioType : PortfolioType
  weightingStrategy : WeightingStrategy
  status : PortfolioStatus
  targetWeights : List AssetAllocation
  depositToken : Address
  oracleAddress : Address
  totalAssets : ℤ
  totalSupply : ℤ
  accumulatedDividends : ℤ
  rebalanceFrequency : RebalanceFrequency
  driftToleranceBps : ℕ
  maxSlippageBps : ℕ
  lastRebalanceTime : ℕ
  lastDividendTime : ℕ
  rebalanceCount : ℕ
  governanceManaged : Bool
  createdAt : ℕ

structure AssetPosition where
  token : Address
  balance : ℤ
  targetWeightBps : ℕ
  currentWeightBps : ℕ
  lastPrice : ℤ
  lastPriceUpdate : ℕ

structure UserPosition where
  user : Address
  portfolioId : ℕ
  shares : ℤ
  totalDeposited : ℤ
  totalWithdrawn : ℤ
  pendingDividends : ℤ
  firstDepositAt : ℕ
  lastActivityAt : ℕ

structure SwapRecord where
  token : Address
  amountIn : ℤ
  amountOut : ℤ
  priceImpactBps : ℕ

structure RebalanceRecord where
  portfolioId : ℕ
  rebalanceId : ℕ
  timestamp : ℕ
  buys : List SwapRecord
  sells : List SwapRecord
  slippageBps : ℕ
  trigger : RebalanceTrigger
  navBefore : ℤ
  navAfter : ℤ

structure DividendRecord where
  portfolioId : ℕ
  recordId : ℕ
  timestamp : ℕ
  totalCollected : ℤ
  compounded : ℤ
  perShareAmount : ℤ

structure PerformanceSnapshot where
  portfolioId : ℕ
  snapshotId : ℕ
  timestamp : ℕ
  navPerShare : ℤ
  totalAssets : ℤ
  sharpeRatio : ℤ
  maxDrawdownBps : ℕ
  peakNav : ℤ
  twrBps : ℤ
  annualizedReturnBps : ℤ

structure PerformanceAccumulator where
  portfolioId : ℕ
  returnSum : ℤ
  returnSquaredSum : ℤ
  observationCount : ℕ
  previousNav : ℤ
  previousNavTime : ℕ
  peakNav : ℤ
  maxDrawdownBps : ℕ

/-- The positions of all portfolios, by portfolio and asset index. -/
abbrev Positions := Store (ℕ × ℕ) AssetPosition

/-- Contract storage together with the token state. -/
structure State (τ : Type) where
  admin : Option Address
  paused : Option Bool
  portfolioCounter : Option ℕ
  portfolio : Store ℕ Portfolio
  assetPosition : Positions
  userPosition : Store (Address × ℕ) UserPosition
  userPortfolioIds : Store Address (List ℕ)
  rebalanceCounter : Store ℕ ℕ
  rebalanceRecord : Store (ℕ × ℕ) RebalanceRecord
  dividendCounter : Store ℕ ℕ
  dividendRecord : Store (ℕ × ℕ) DividendRecord
  snapshotCounter : Store ℕ ℕ
  performanceSnapshot : Store (ℕ × ℕ) PerformanceSnapshot
  performanceAccumulator : Store ℕ PerformanceAccumulator
  totalDividendsCollected : Store ℕ ℤ
  reentrancyLock : Option Bool
  tokens : τ

variable {τ : Type}

def deployed (tokens : τ) : State τ where
  admin := none
  paused := none
  portfolioCounter := none
  portfolio := .empty
  assetPosition := .empty
  userPosition := .empty
  userPortfolioIds := .empty
  rebalanceCounter := .empty
  rebalanceRecord := .empty
  dividendCounter := .empty
  dividendRecord := .empty
  snapshotCounter := .empty
  performanceSnapshot := .empty
  performanceAccumulator := .empty
  totalDividendsCollected := .empty
  reentrancyLock := none
  tokens := tokens

def bpsDenominator : ℤ := 10000

/-- Prices and values per share carry eighteen decimals. -/
def precisionFactor : ℤ := 1000000000000000000

def maxAssets : ℕ := 50

def driftToleranceBps : ℕ := 200

def maxRebalanceSlippageBps : ℕ := 500

def secondsPerYear : ℕ := 31557600

def riskFreeRateBps : ℤ := 500

def rebalanceIntervalSeconds : RebalanceFrequency → ℕ
  | .monthly => 2592000
  | .quarterly => 7776000
  | .semiAnnual => 15552000
  | .annual => secondsPerYear

structure AllocationSlot where
  weightBps : ℕ
  feedId : Option Symbol

structure PortfolioTemplate where
  weightingStrategy : WeightingStrategy
  rebalanceFrequency : RebalanceFrequency
  driftToleranceBps : ℕ
  maxSlippageBps : ℕ
  allocationTemplate : List AllocationSlot

def conservativeTemplate : PortfolioTemplate where
  weightingStrategy := .customWeight
  rebalanceFrequency := .quarterly
  driftToleranceBps := 200
  maxSlippageBps := 300
  allocationTemplate := [
    ⟨2000, some "us_bonds"⟩, ⟨2000, some "corp_bonds"⟩, ⟨2000, some "intl_bonds"⟩,
    ⟨1500, some "us_large_cap"⟩, ⟨1000, some "us_small_cap"⟩, ⟨1000, some "intl_developed"⟩,
    ⟨500, some "emerging_markets"⟩]

def balancedTemplate : PortfolioTemplate where
  weightingStrategy := .customWeight
  rebalanceFrequency := .quarterly
  driftToleranceBps := 200
  maxSlippageBps := 400
  allocationTemplate := [
    ⟨2000, some "us_large_cap"⟩, ⟨1000, some "us_small_cap"⟩, ⟨1000, some "intl_developed"⟩,
    ⟨1000, some "emerging_markets"⟩, ⟨1500, some "us_bonds"⟩, ⟨1500, some "corp_bonds"⟩,
    ⟨1000, some "gold"⟩, ⟨1000, some "real_estate"⟩]

def aggressiveTemplate : PortfolioTemplate where
  weightingStrategy := .customWeight
  rebalanceFrequency := .monthly
  driftToleranceBps := 150
  maxSlippageBps := 500
  allocationTemplate := [
    ⟨3000, some "us_large_cap"⟩, ⟨2000, some "us_small_cap"⟩, ⟨1500, some "intl_developed"⟩,
    ⟨1500, some "emerging_markets"⟩, ⟨1000, some "gold"⟩, ⟨500, some "real_estate"⟩,
    ⟨500, some "crypto"⟩]

def thematicTemplate : PortfolioTemplate where
  weightingStrategy := .customWeight
  rebalanceFrequency := .monthly
  driftToleranceBps := 300
  maxSlippageBps := 800
  allocationTemplate := [
    ⟨3000, some "btc"⟩, ⟨2500, some "eth"⟩, ⟨1500, some "sol"⟩, ⟨1500, some "defi_index"⟩,
    ⟨1500, some "nft_index"⟩]

def getTemplate : PortfolioType → Result PortfolioTemplate
  | .conservative => .ok conservativeTemplate
  | .balanced => .ok balancedTemplate
  | .aggressive => .ok aggressiveTemplate
  | .thematic => .ok thematicTemplate
  | .custom => .error (.panic "Custom templates must be built manually")

/-- What the weights add up to. -/
def weightSum (allocations : List AssetAllocation) : ℤ :=
  (allocations.map fun allocation => (allocation.weightBps : ℤ)).sum

def validateWeights (allocations : List AssetAllocation) : Bool :=
  decide (weightSum allocations = bpsDenominator)

/-- The remainder of the division goes to the first tokens, one basis point each. -/
def equalWeightAllocations (tokens : List Address) : List AssetAllocation :=
  let count : ℤ := tokens.length
  let baseWeight := bpsDenominator.tdiv count
  let remainder := bpsDenominator - baseWeight * count
  tokens.zipIdx.map fun (token, i) =>
    { token
      weightBps := U32.ofInt (baseWeight + if (i : ℤ) < remainder then 1 else 0)
      feedId := none }

def templateToAllocations (template : PortfolioTemplate) (tokens : List Address) :
    Result (List AssetAllocation) := do
  panicIf (template.allocationTemplate.length ≠ tokens.length)
    "Token count must match template slot count"
  .ok (List.zipWith (fun slot token => ⟨token, slot.weightBps, slot.feedId⟩)
    template.allocationTemplate tokens)

def getAdmin (s : State τ) : Result Address := expect s.admin "Contract not initialized"

def assertAdmin (s : State τ) (caller : Address) : Result Unit := do
  let admin ← getAdmin s
  panicIf (caller ≠ admin) "Unauthorized"

def isPaused (s : State τ) : Bool := s.paused.getD false

def getPortfolio (s : State τ) (portfolioId : ℕ) : Result Portfolio :=
  expect (s.portfolio.get? portfolioId) "Portfolio not found"

def setPortfolio (s : State τ) (portfolio : Portfolio) : State τ :=
  { s with portfolio := s.portfolio.set portfolio.portfolioId portfolio }

def getAssetPosition (positions : Positions) (portfolioId assetIndex : ℕ) : Result AssetPosition :=
  expect (positions.get? (portfolioId, assetIndex)) "Asset position not found"

def getUserPosition (s : State τ) (user : Address) (portfolioId : ℕ) : Result UserPosition :=
  expect (s.userPosition.get? (user, portfolioId)) "User position not found"

/-- The next number of a counter kept for each portfolio. -/
def nextId (counter : Store ℕ ℕ) (portfolioId : ℕ) : Result ℕ :=
  U64.add ((counter.get? portfolioId).getD 0) 1

/-- `Vec::get_unchecked`, which traps outside of the vector. -/
def getUnchecked {α : Type} (items : List α) (i : ℕ) : Result α := okOr items[i]? .callFailed

/-- The value of a balance at a price. -/
def valueAt (balance price : ℤ) : Result ℤ := do
  let product ← I128.mul balance price
  I128.div product precisionFactor

/-- The share of a value in the total, in basis points. -/
def weightIn (value totalAssets : ℤ) : Result ℕ :=
  if totalAssets > 0 then do
    let product ← I128.mul value bpsDenominator
    let quotient ← I128.div product totalAssets
    .ok (U32.ofInt quotient)
  else .ok 0

/-- The value of one share; the first share is worth one. -/
def navPerShareOf (totalAssets totalSupply : ℤ) : Result ℤ :=
  if totalSupply > 0 then do
    let product ← I128.mul totalAssets precisionFactor
    I128.div product totalSupply
  else .ok precisionFactor

def calculateSharesForDeposit (amount totalAssets totalSupply : ℤ) : Result ℤ :=
  if totalSupply = 0 then .ok amount
  else do
    let product ← I128.mul amount totalSupply
    I128.div product totalAssets

def calculateAssetsForWithdrawal (shares totalAssets totalSupply : ℤ) : Result ℤ := do
  let product ← I128.mul shares totalAssets
  I128.div product totalSupply

def sumAmountsIn : List SwapRecord → ℤ → Result ℤ
  | [], total => .ok total
  | swap :: rest, total => do
    let total ← I128.checked (total + swap.amountIn) "Swap sum overflow"
    sumAmountsIn rest total

def sumSwapValues (buys sells : List SwapRecord) : Result ℤ := do
  let total ← sumAmountsIn buys 0
  sumAmountsIn sells total

def isqrt (n : ℤ) : Result ℤ :=
  if n < 0 then .ok 0
  else if n = 0 then .ok 0
  else do
    let sum ← I128.add n 1
    let y ← I128.div sum 2
    newtonLoop n n.toNat n y

def calculateSharpe (returnSum returnSquaredSum : ℤ) (count : ℕ) : Result ℤ :=
  if count < 2 then .ok 0
  else do
    let scaled ← I128.mul returnSum precisionFactor
    let perObservation ← I128.div scaled count
    let meanReturn ← I128.div perObservation precisionFactor
    let meanReturnSq ← I128.div returnSquaredSum count
    let square ← I128.mul meanReturn meanReturn
    let squared ← I128.div square precisionFactor
    let variance ← I128.sub meanReturnSq squared
    if variance ≤ 0 then .ok 0
    else do
      let radicand ← I128.mul variance precisionFactor
      let stdDev ← isqrt radicand
      if stdDev = 0 then .ok 0
      else do
        let scaledRate ← I128.mul riskFreeRateBps precisionFactor
        let riskFree ← I128.div scaledRate bpsDenominator
        let excessReturn ← I128.sub meanReturn riskFree
        let scaledExcess ← I128.mul excessReturn precisionFactor
        I128.div scaledExcess stdDev

def initializeContract (env : Env) (admin : Address) (s : State τ) : Result (State τ) := do
  panicIf (s.admin.isSome = true) "Already initialized"
  requireAuth env admin
  .ok { s with admin := some admin, paused := some false, reentrancyLock := some false }

/-- What a portfolio is created with. -/
structure Settings where
  creator : Address
  name : Symbol
  portfolioType : PortfolioType
  weightingStrategy : WeightingStrategy
  rebalanceFrequency : RebalanceFrequency
  driftToleranceBps : ℕ
  maxSlippageBps : ℕ
  depositToken : Address
  oracleAddress : Address
  allocations : List AssetAllocation

def newPortfolio (now portfolioId : ℕ) (settings : Settings) : Portfolio where
  portfolioId := portfolioId
  creator := settings.creator
  name := settings.name
  portfolioType := settings.portfolioType
  weightingStrategy := settings.weightingStrategy
  status := .active
  targetWeights := settings.allocations
  depositToken := settings.depositToken
  oracleAddress := settings.oracleAddress
  totalAssets := 0
  totalSupply := 0
  accumulatedDividends := 0
  rebalanceFrequency := settings.rebalanceFrequency
  driftToleranceBps := settings.driftToleranceBps
  maxSlippageBps := settings.maxSlippageBps
  lastRebalanceTime := now
  lastDividendTime := now
  rebalanceCount := 0
  governanceManaged := true
  createdAt := now

/-- Nothing is held of a new asset, and its price is one. -/
def newPosition (now : ℕ) (allocation : AssetAllocation) : AssetPosition where
  token := allocation.token
  balance := 0
  targetWeightBps := allocation.weightBps
  currentWeightBps := 0
  lastPrice := precisionFactor
  lastPriceUpdate := now

/-- The positions of a new portfolio, from an index on. -/
def initPositions (now portfolioId : ℕ) : List AssetAllocation → ℕ → Positions → Positions
  | [], _, positions => positions
  | allocation :: rest, i, positions =>
    initPositions now portfolioId rest (i + 1)
      (positions.set (portfolioId, i) (newPosition now allocation))

def newAccumulator (previousNavTime portfolioId : ℕ) : PerformanceAccumulator where
  portfolioId := portfolioId
  returnSum := 0
  returnSquaredSum := 0
  observationCount := 0
  previousNav := precisionFactor
  previousNavTime := previousNavTime
  peakNav := precisionFactor
  maxDrawdownBps := 0

def createPortfolioInner (env : Env) (settings : Settings) (s : State τ) :
    Result (ℕ × State τ) := do
  let portfolioId ← U64.add (s.portfolioCounter.getD 0) 1
  .ok (portfolioId, { s with
    portfolioCounter := some portfolioId
    portfolio := s.portfolio.set portfolioId (newPortfolio env.timestamp portfolioId settings)
    assetPosition := initPositions env.timestamp portfolioId settings.allocations 0 s.assetPosition
    performanceAccumulator :=
      s.performanceAccumulator.set portfolioId (newAccumulator env.timestamp portfolioId) })

def createFromTemplate (env : Env) (creator : Address) (name : Symbol)
    (templateType : PortfolioType) (depositToken oracleAddress : Address) (tokens : List Address)
    (s : State τ) : Result (ℕ × State τ) := do
  requireAuth env creator
  panicIf (isPaused s = true) "Contract is paused"
  panicIf (tokens.length > maxAssets) "Too many assets"
  let template ← getTemplate templateType
  let allocations ← templateToAllocations template tokens
  createPortfolioInner env {
    creator, name, depositToken, oracleAddress, allocations
    portfolioType := templateType
    weightingStrategy := template.weightingStrategy
    rebalanceFrequency := template.rebalanceFrequency
    driftToleranceBps := template.driftToleranceBps
    maxSlippageBps := template.maxSlippageBps } s

def createCustom (env : Env) (creator : Address) (name : Symbol)
    (depositToken oracleAddress : Address) (allocations : List AssetAllocation)
    (weightingStrategy : WeightingStrategy) (rebalanceFrequency : RebalanceFrequency)
    (driftTolerance maxSlippage : Option ℕ) (s : State τ) : Result (ℕ × State τ) := do
  requireAuth env creator
  panicIf (isPaused s = true) "Contract is paused"
  panicIf (allocations.length > maxAssets) "Too many assets"
  panicIf (validateWeights allocations = false) "Weights must sum to 10000 BPS"
  createPortfolioInner env {
    creator, name, depositToken, oracleAddress, allocations, weightingStrategy, rebalanceFrequency
    portfolioType := .custom
    driftToleranceBps := driftTolerance.getD driftToleranceBps
    maxSlippageBps := maxSlippage.getD maxRebalanceSlippageBps } s

def createEqualWeight (env : Env) (creator : Address) (name : Symbol)
    (depositToken oracleAddress : Address) (tokens : List Address)
    (rebalanceFrequency : RebalanceFrequency) (s : State τ) : Result (ℕ × State τ) := do
  requireAuth env creator
  panicIf (isPaused s = true) "Contract is paused"
  panicIf (tokens.length > maxAssets) "Too many assets"
  panicIf (tokens = []) "No tokens provided"
  createPortfolioInner env {
    creator, name, depositToken, oracleAddress, rebalanceFrequency
    allocations := equalWeightAllocations tokens
    portfolioType := .custom
    weightingStrategy := .equalWeight
    driftToleranceBps := driftToleranceBps
    maxSlippageBps := maxRebalanceSlippageBps } s

/-- The weights of a fork: those of the source, or others for the same tokens. -/
def forkAllocations (source : Portfolio) (customWeights : Option (List AssetAllocation)) :
    Result (List AssetAllocation) :=
  match customWeights with
  | none => .ok source.targetWeights
  | some weights => do
    panicIf (validateWeights weights = false) "Custom weights must sum to 10000 BPS"
    panicIf (source.targetWeights.length ≠ weights.length) "Fork must use same set of tokens"
    panicIf (source.targetWeights.map (·.token) ≠ weights.map (·.token))
      "Fork must use same set of tokens"
    .ok weights

/-- Forks are made while the contract is paused, too. -/
def forkPortfolio (env : Env) (creator : Address) (sourcePortfolioId : ℕ) (name : Symbol)
    (customWeights : Option (List AssetAllocation))
    (customRebalanceFrequency : Option RebalanceFrequency) (s : State τ) :
    Result (ℕ × State τ) := do
  requireAuth env creator
  let source ← getPortfolio s sourcePortfolioId
  panicIf (source.status = .closed) "Cannot fork closed portfolio"
  let allocations ← forkAllocations source customWeights
  createPortfolioInner env {
    creator, name, allocations
    portfolioType := .custom
    weightingStrategy := source.weightingStrategy
    rebalanceFrequency := customRebalanceFrequency.getD source.rebalanceFrequency
    driftToleranceBps := source.driftToleranceBps
    maxSlippageBps := source.maxSlippageBps
    depositToken := source.depositToken
    oracleAddress := source.oracleAddress } s

section Entries

variable (tok : Token τ) (self : Address)

/-- The position of a user after a deposit, and the portfolios the user has positions in. -/
def creditPosition (now : ℕ) (user : Address) (portfolioId : ℕ) (amount shares : ℤ) (s : State τ) :
    Result (State τ) :=
  match s.userPosition.get? (user, portfolioId) with
  | some pos => do
    let newShares ← I128.checked (pos.shares + shares) "Shares overflow"
    let totalDeposited ← I128.checked (pos.totalDeposited + amount) "Deposit overflow"
    .ok { s with
      userPosition := s.userPosition.set (user, portfolioId)
        { pos with shares := newShares, totalDeposited, lastActivityAt := now } }
  | none =>
    .ok { s with
      userPosition := s.userPosition.set (user, portfolioId) {
        user, portfolioId, shares
        totalDeposited := amount
        totalWithdrawn := 0
        pendingDividends := 0
        firstDepositAt := now
        lastActivityAt := now }
      userPortfolioIds :=
        s.userPortfolioIds.set user ((s.userPortfolioIds.get? user).getD [] ++ [portfolioId]) }

def deposit (env : Env) (user : Address) (portfolioId : ℕ) (amount : ℤ) (s : State τ) :
    Result (ℤ × State τ) := do
  requireAuth env user
  panicIf (amount ≤ 0) "Deposit amount must be positive"
  let portfolio ← getPortfolio s portfolioId
  panicIf (portfolio.status ≠ .active) "Portfolio is not active"
  let tokens ← tok.pay s.tokens portfolio.depositToken user self amount
  let shares ← calculateSharesForDeposit amount portfolio.totalAssets portfolio.totalSupply
  let totalAssets ← I128.checked (portfolio.totalAssets + amount) "Assets overflow"
  let totalSupply ← I128.checked (portfolio.totalSupply + shares) "Supply overflow"
  let s ← creditPosition env.timestamp user portfolioId amount shares
    (setPortfolio { s with tokens } { portfolio with totalAssets, totalSupply })
  .ok (shares, s)

def enterNonReentrant (s : State τ) : Result Unit :=
  panicIf (s.reentrancyLock.getD false = true) "Reentrant call blocked"

/-- A payment out of the contract, under the lock. -/
def payGuarded (token user : Address) (amount : ℤ) (s : State τ) : Result (State τ) := do
  enterNonReentrant s
  let tokens ← tok.pay s.tokens token self user amount
  .ok { s with tokens, reentrancyLock := some false }

def withdraw (env : Env) (user : Address) (portfolioId : ℕ) (shares : ℤ) (s : State τ) :
    Result (ℤ × State τ) := do
  requireAuth env user
  panicIf (shares ≤ 0) "Shares must be positive"
  let portfolio ← getPortfolio s portfolioId
  let pos ← getUserPosition s user portfolioId
  panicIf (pos.shares < shares) "Insufficient shares"
  panicIf (portfolio.totalSupply ≤ 0) "No assets in portfolio"
  let grossAssets ←
    calculateAssetsForWithdrawal shares portfolio.totalAssets portfolio.totalSupply
  let totalAssets ← I128.checked (portfolio.totalAssets - grossAssets) "Assets underflow"
  let totalSupply ← I128.checked (portfolio.totalSupply - shares) "Supply underflow"
  let _ ← navPerShareOf totalAssets totalSupply
  let newShares ← I128.checked (pos.shares - shares) "Shares underflow"
  let totalWithdrawn ← I128.checked (pos.totalWithdrawn + grossAssets) "Withdraw overflow"
  let s := setPortfolio s { portfolio with totalAssets, totalSupply }
  let s ← payGuarded tok self portfolio.depositToken user grossAssets { s with
    userPosition := s.userPosition.set (user, portfolioId)
      { pos with shares := newShares, totalWithdrawn, lastActivityAt := env.timestamp } }
  .ok (grossAssets, s)

/-- Book the submitted balances from an index on, and add up what they are worth at the prices
last known. -/
def rebalancePositions (portfolioId : ℕ) (totalAssets : ℤ) :
    List ℤ → ℕ → Positions → ℤ → Result (Positions × ℤ)
  | [], _, positions, totalNewValue => .ok (positions, totalNewValue)
  | newBalance :: rest, i, positions, totalNewValue => do
    let pos ← getAssetPosition positions portfolioId i
    let newValue ← valueAt newBalance pos.lastPrice
    let currentWeightBps ← weightIn newValue totalAssets
    let totalNewValue ← I128.checked (totalNewValue + newValue) "Value overflow"
    rebalancePositions portfolioId totalAssets rest (i + 1)
      (positions.set (portfolioId, i) { pos with balance := newBalance, currentWeightBps })
      totalNewValue

/-- The caller may rebalance: enough time has passed, or it is the administrator. -/
def checkRebalanceTiming (s : State τ) (caller : Address) (now due : ℕ) : Result Unit :=
  if now < due then do
    let admin ← getAdmin s
    panicIf (caller ≠ admin) "Rebalance too frequent"
  else .ok ()

def slippageOf (totalSwapped navBefore : ℤ) : Result ℕ := weightIn totalSwapped navBefore

def rebalance (env : Env) (caller : Address) (portfolioId : ℕ) (buys sells : List SwapRecord)
    (newAssetBalances : List ℤ) (s : State τ) : Result (RebalanceRecord × State τ) := do
  requireAuth env caller
  let portfolio ← getPortfolio s portfolioId
  panicIf (portfolio.status ≠ .active) "Portfolio is not active"
  panicIf (isPaused s = true) "Contract is paused"
  let due ← U64.add portfolio.lastRebalanceTime
    (rebalanceIntervalSeconds portfolio.rebalanceFrequency)
  checkRebalanceTiming s caller env.timestamp due
  panicIf (newAssetBalances.length ≠ portfolio.targetWeights.length)
    "Balance count must match asset count"
  let totalSwapped ← sumSwapValues buys sells
  let slippageBps ← slippageOf totalSwapped portfolio.totalAssets
  panicIf (slippageBps > portfolio.maxSlippageBps) "Slippage exceeded maximum"
  let (assetPosition, totalAssets) ←
    rebalancePositions portfolioId portfolio.totalAssets newAssetBalances 0 s.assetPosition 0
  let rebalanceCount ← U32.checked (portfolio.rebalanceCount + 1) "Count overflow"
  let rebalanceId ← nextId s.rebalanceCounter portfolioId
  let record : RebalanceRecord := {
    portfolioId, rebalanceId, buys, sells, slippageBps
    timestamp := env.timestamp
    trigger := if env.timestamp < due then .governanceForced else .timeBased
    navBefore := portfolio.totalAssets
    navAfter := totalAssets }
  .ok (record, { s with
    assetPosition
    portfolio := s.portfolio.set portfolio.portfolioId { portfolio with
      totalAssets, rebalanceCount
      lastRebalanceTime := env.timestamp }
    rebalanceCounter := s.rebalanceCounter.set portfolioId rebalanceId
    rebalanceRecord := s.rebalanceRecord.set (portfolioId, rebalanceId) record })

/-- What the submitted balances are worth, asset by asset. -/
def sumValues (positions : Positions) (portfolioId : ℕ) (newBalances : List ℤ) :
    List AssetAllocation → ℕ → ℤ → Result ℤ
  | [], _, totalValue => .ok totalValue
  | _ :: rest, i, totalValue => do
    let pos ← getAssetPosition positions portfolioId i
    let balance ← getUnchecked newBalances i
    let value ← valueAt balance pos.lastPrice
    let totalValue ← I128.checked (totalValue + value) "Value overflow"
    sumValues positions portfolioId newBalances rest (i + 1) totalValue

def largestDrift (positions : Positions) (portfolioId : ℕ) (newBalances : List ℤ)
    (totalValue : ℤ) : List AssetAllocation → ℕ → ℕ → Result ℕ
  | [], _, maxDrift => .ok maxDrift
  | _ :: rest, i, maxDrift => do
    let pos ← getAssetPosition positions portfolioId i
    let balance ← getUnchecked newBalances i
    let value ← valueAt balance pos.lastPrice
    let product ← I128.mul value bpsDenominator
    let quotient ← I128.div product totalValue
    let difference ← I32.sub (I32.ofInt pos.targetWeightBps) (I32.ofInt quotient)
    let drift := difference.natAbs
    largestDrift positions portfolioId newBalances totalValue rest (i + 1)
      (if drift > maxDrift then drift else maxDrift)

def maxDrift (s : State τ) (portfolioId : ℕ) (newBalances : List ℤ) : Result ℕ := do
  let portfolio ← getPortfolio s portfolioId
  let totalValue ← sumValues s.assetPosition portfolioId newBalances portfolio.targetWeights 0 0
  if totalValue ≤ 0 then .ok 0
  else largestDrift s.assetPosition portfolioId newBalances totalValue portfolio.targetWeights 0 0

/-- Whether one of the triggers of a rebalance fires: the time, or else the drift. -/
def rebalanceDue (env : Env) (portfolioId : ℕ) (newAssetBalances : List ℤ) (s : State τ) :
    Result Bool := do
  let portfolio ← getPortfolio s portfolioId
  let due ← U64.add portfolio.lastRebalanceTime
    (rebalanceIntervalSeconds portfolio.rebalanceFrequency)
  if env.timestamp ≥ due then .ok true
  else do
    let drift ← maxDrift s portfolioId newAssetBalances
    .ok (decide (drift > portfolio.driftToleranceBps))

/-- The caller is asked for its authorisation in the rebalance only. -/
def checkAndRebalance (env : Env) (caller : Address) (portfolioId : ℕ)
    (newAssetBalances : List ℤ) (buys sells : List SwapRecord) (s : State τ) :
    Result (Option RebalanceRecord × State τ) := do
  let triggered ← rebalanceDue env portfolioId newAssetBalances s
  if triggered = true then do
    let (record, s) ← rebalance env caller portfolioId buys sells newAssetBalances s
    .ok (some record, s)
  else .ok (none, s)

def updateAssetPosition (env : Env) (caller : Address) (portfolioId assetIndex : ℕ)
    (newBalance price : ℤ) (s : State τ) : Result (State τ) := do
  requireAuth env caller
  assertAdmin s caller
  let portfolio ← getPortfolio s portfolioId
  let pos ← getAssetPosition s.assetPosition portfolioId assetIndex
  let newValue ← valueAt newBalance price
  let oldValue ← valueAt pos.balance pos.lastPrice
  let valueDiff ← I128.sub newValue oldValue
  let currentWeightBps ← weightIn newValue portfolio.totalAssets
  let totalAssets ← I128.checked (portfolio.totalAssets + valueDiff) "NAV overflow"
  .ok (setPortfolio { s with
    assetPosition := s.assetPosition.set (portfolioId, assetIndex) { pos with
      currentWeightBps
      balance := newBalance
      lastPrice := price
      lastPriceUpdate := env.timestamp } } { portfolio with totalAssets })

/-- Add a dividend to the first position of its token, from an index on; it counts only if there
is one. -/
def addDividend (portfolioId : ℕ) (token : Address) (amount : ℤ) :
    List AssetAllocation → ℕ → Positions → ℤ → Result (Positions × ℤ)
  | [], _, positions, totalDividend => .ok (positions, totalDividend)
  | _ :: rest, j, positions, totalDividend => do
    let pos ← getAssetPosition positions portfolioId j
    if pos.token = token then do
      let balance ← I128.checked (pos.balance + amount) "Balance overflow"
      let totalDividend ← I128.checked (totalDividend + amount) "Dividend overflow"
      .ok (positions.set (portfolioId, j) { pos with balance }, totalDividend)
    else addDividend portfolioId token amount rest (j + 1) positions totalDividend

def addDividends (portfolioId : ℕ) (targetWeights : List AssetAllocation) :
    List (Address × ℤ) → Positions → ℤ → Result (Positions × ℤ)
  | [], positions, totalDividend => .ok (positions, totalDividend)
  | (token, amount) :: rest, positions, totalDividend => do
    let (positions, totalDividend) ←
      addDividend portfolioId token amount targetWeights 0 positions totalDividend
    addDividends portfolioId targetWeights rest positions totalDividend

def perShareOf (totalDividend totalSupply : ℤ) : Result ℤ :=
  if totalSupply > 0 then do
    let product ← I128.mul totalDividend precisionFactor
    I128.div product totalSupply
  else .ok 0

def collectDividends (env : Env) (caller : Address) (portfolioId : ℕ)
    (dividendAmounts : List (Address × ℤ)) (s : State τ) :
    Result (DividendRecord × State τ) := do
  requireAuth env caller
  assertAdmin s caller
  let portfolio ← getPortfolio s portfolioId
  panicIf (portfolio.status ≠ .active) "Portfolio is not active"
  let (assetPosition, totalDividend) ←
    addDividends portfolioId portfolio.targetWeights dividendAmounts s.assetPosition 0
  let totalAssets ← I128.checked (portfolio.totalAssets + totalDividend) "Assets overflow"
  let accumulatedDividends ←
    I128.checked (portfolio.accumulatedDividends + totalDividend) "Accum overflow"
  let totalDivs ←
    I128.checked (s.totalDividendsCollected.amount portfolioId + totalDividend) "Total div overflow"
  let perShareAmount ← perShareOf totalDividend portfolio.totalSupply
  let recordId ← nextId s.dividendCounter portfolioId
  let record : DividendRecord := {
    portfolioId, recordId, perShareAmount
    timestamp := env.timestamp
    totalCollected := totalDividend
    compounded := totalDividend }
  .ok (record, { s with
    assetPosition
    portfolio := s.portfolio.set portfolio.portfolioId { portfolio with
      totalAssets, accumulatedDividends
      lastDividendTime := env.timestamp }
    totalDividendsCollected := s.totalDividendsCollected.set portfolioId totalDivs
    dividendCounter := s.dividendCounter.set portfolioId recordId
    dividendRecord := s.dividendRecord.set (portfolioId, recordId) record })

def claimDividends (env : Env) (user : Address) (portfolioId : ℕ) (s : State τ) :
    Result (ℤ × State τ) := do
  requireAuth env user
  let pos ← getUserPosition s user portfolioId
  panicIf (pos.pendingDividends ≤ 0) "No dividends to claim"
  let portfolio ← getPortfolio s portfolioId
  let s ← payGuarded tok self portfolio.depositToken user pos.pendingDividends { s with
    userPosition := s.userPosition.set (user, portfolioId)
      { pos with pendingDividends := 0, lastActivityAt := env.timestamp } }
  .ok (pos.pendingDividends, s)

def getPerformanceAccumulator (s : State τ) (portfolioId : ℕ) : PerformanceAccumulator :=
  (s.performanceAccumulator.get? portfolioId).getD (newAccumulator 0 portfolioId)

/-- The return since the last snapshot. -/
def periodicReturnOf (navPerShare previousNav : ℤ) : Result ℤ :=
  if previousNav > 0 then do
    let change ← I128.sub navPerShare previousNav
    let product ← I128.mul change precisionFactor
    I128.div product previousNav
  else .ok 0

def drawdownOf (peakNav navPerShare : ℤ) : Result ℕ :=
  if peakNav > 0 then do
    let fall ← I128.sub peakNav navPerShare
    let product ← I128.mul fall bpsDenominator
    let quotient ← I128.div product peakNav
    .ok (U32.ofInt quotient)
  else .ok 0

/-- The return since the first share, which was worth one. -/
def twrOf (navPerShare : ℤ) : Result ℤ := do
  let change ← I128.sub navPerShare precisionFactor
  let product ← I128.mul change bpsDenominator
  let quotient ← I128.div product precisionFactor
  .ok (I32.ofInt quotient)

def annualizedReturnOf (twrBps : ℤ) (now createdAt : ℕ) : Result ℤ :=
  if now > createdAt then do
    let product ← I128.mul twrBps secondsPerYear
    let quotient ← I128.div product ((now - createdAt : ℕ) : ℤ)
    .ok (I32.ofInt quotient)
  else .ok 0

def recordPerformanceSnapshot (env : Env) (caller : Address) (portfolioId : ℕ) (s : State τ) :
    Result (PerformanceSnapshot × State τ) := do
  requireAuth env caller
  let portfolio ← getPortfolio s portfolioId
  let navPerShare ← navPerShareOf portfolio.totalAssets portfolio.totalSupply
  let acc := getPerformanceAccumulator s portfolioId
  let periodicReturn ← periodicReturnOf navPerShare acc.previousNav
  let returnSum ← I128.checked (acc.returnSum + periodicReturn) "Return sum overflow"
  let square ← I128.mul periodicReturn periodicReturn
  let squared ← I128.div square precisionFactor
  let returnSquaredSum ← I128.checked (acc.returnSquaredSum + squared) "Return sq overflow"
  let observationCount ← U32.checked (acc.observationCount + 1) "Count overflow"
  let peakNav := if navPerShare > acc.peakNav then navPerShare else acc.peakNav
  let drawdown ← drawdownOf peakNav navPerShare
  let maxDrawdownBps := if drawdown > acc.maxDrawdownBps then drawdown else acc.maxDrawdownBps
  let sharpeRatio ← calculateSharpe returnSum returnSquaredSum observationCount
  let twrBps ← twrOf navPerShare
  let annualizedReturnBps ← annualizedReturnOf twrBps env.timestamp portfolio.createdAt
  let snapshotId ← nextId s.snapshotCounter portfolioId
  let snapshot : PerformanceSnapshot := {
    portfolioId, snapshotId, navPerShare, sharpeRatio, maxDrawdownBps, peakNav, twrBps
    annualizedReturnBps
    timestamp := env.timestamp
    totalAssets := portfolio.totalAssets }
  .ok (snapshot, { s with
    snapshotCounter := s.snapshotCounter.set portfolioId snapshotId
    performanceSnapshot := s.performanceSnapshot.set (portfolioId, snapshotId) snapshot
    performanceAccumulator := s.performanceAccumulator.set acc.portfolioId { acc with
      returnSum, returnSquaredSum, observationCount, peakNav, maxDrawdownBps
      previousNav := navPerShare
      previousNavTime := env.timestamp } })

/-- An administrator changes one portfolio, where `change` allows it. -/
def govern (env : Env) (admin : Address) (portfolioId : ℕ) (change : Portfolio → Result Portfolio)
    (s : State τ) : Result (State τ) := do
  requireAuth env admin
  assertAdmin s admin
  let portfolio ← getPortfolio s portfolioId
  let portfolio ← change portfolio
  .ok (setPortfolio s portfolio)

def setDriftTolerance (env : Env) (admin : Address) (portfolioId newToleranceBps : ℕ)
    (s : State τ) : Result (State τ) :=
  govern env admin portfolioId
    (fun portfolio => .ok { portfolio with driftToleranceBps := newToleranceBps }) s

def setRebalanceFrequency (env : Env) (admin : Address) (portfolioId : ℕ)
    (frequency : RebalanceFrequency) (s : State τ) : Result (State τ) :=
  govern env admin portfolioId
    (fun portfolio => .ok { portfolio with rebalanceFrequency := frequency }) s

def setMaxSlippage (env : Env) (admin : Address) (portfolioId maxSlippageBps : ℕ) (s : State τ) :
    Result (State τ) :=
  govern env admin portfolioId (fun portfolio => .ok { portfolio with maxSlippageBps }) s

/-- The weight an asset has now; where the portfolio has no assets it is left as it is. -/
def reweigh (pos : AssetPosition) (totalAssets : ℤ) : Result ℕ :=
  if totalAssets > 0 then do
    let assetValue ← valueAt pos.balance pos.lastPrice
    weightIn assetValue totalAssets
  else .ok pos.currentWeightBps

/-- Write the new targets from an index on. -/
def retargetPositions (portfolioId : ℕ) (totalAssets : ℤ) :
    List AssetAllocation → ℕ → Positions → Result Positions
  | [], _, positions => .ok positions
  | newWeight :: rest, i, positions => do
    let pos ← getAssetPosition positions portfolioId i
    let currentWeightBps ← reweigh pos totalAssets
    retargetPositions portfolioId totalAssets rest (i + 1)
      (positions.set (portfolioId, i)
        { pos with targetWeightBps := newWeight.weightBps, currentWeightBps })

def setTargetWeights (env : Env) (admin : Address) (portfolioId : ℕ)
    (newWeights : List AssetAllocation) (s : State τ) : Result (State τ) := do
  requireAuth env admin
  assertAdmin s admin
  panicIf (validateWeights newWeights = false) "Weights must sum to 10000 BPS"
  let portfolio ← getPortfolio s portfolioId
  panicIf (newWeights.length ≠ portfolio.targetWeights.length) "Cannot change number of assets"
  panicIf (portfolio.targetWeights.map (·.token) ≠ newWeights.map (·.token))
    "Cannot change token addresses"
  let assetPosition ←
    retargetPositions portfolioId portfolio.totalAssets newWeights 0 s.assetPosition
  .ok (setPortfolio { s with assetPosition } { portfolio with targetWeights := newWeights })

def pausePortfolio (env : Env) (admin : Address) (portfolioId : ℕ) (s : State τ) :
    Result (State τ) :=
  govern env admin portfolioId (fun portfolio => do
    panicIf (portfolio.status ≠ .active) "Portfolio is not active"
    .ok { portfolio with status := .paused }) s

def unpausePortfolio (env : Env) (admin : Address) (portfolioId : ℕ) (s : State τ) :
    Result (State τ) :=
  govern env admin portfolioId (fun portfolio => do
    panicIf (portfolio.status ≠ .paused) "Portfolio is not paused"
    .ok { portfolio with status := .active }) s

/-- A closed portfolio stays closed. -/
def closePortfolio (env : Env) (admin : Address) (portfolioId : ℕ) (s : State τ) :
    Result (State τ) :=
  govern env admin portfolioId (fun portfolio => do
    panicIf (portfolio.status = .closed) "Portfolio already closed"
    .ok { portfolio with status := .closed }) s

def setPaused (paused : Bool) (env : Env) (admin : Address) (s : State τ) : Result (State τ) := do
  requireAuth env admin
  assertAdmin s admin
  .ok { s with paused := some paused }

def pause (env : Env) (admin : Address) (s : State τ) : Result (State τ) :=
  setPaused true env admin s

def unpause (env : Env) (admin : Address) (s : State τ) : Result (State τ) :=
  setPaused false env admin s

inductive Op where
  | initializeContract (admin : Address)
  | createFromTemplate (creator : Address) (name : Symbol) (templateType : PortfolioType)
      (depositToken oracleAddress : Address) (tokens : List Address)
  | createCustom (creator : Address) (name : Symbol) (depositToken oracleAddress : Address)
      (allocations : List AssetAllocation) (weightingStrategy : WeightingStrategy)
      (rebalanceFrequency : RebalanceFrequency) (driftTolerance maxSlippage : Option ℕ)
  | createEqualWeight (creator : Address) (name : Symbol) (depositToken oracleAddress : Address)
      (tokens : List Address) (rebalanceFrequency : RebalanceFrequency)
  | deposit (user : Address) (portfolioId : ℕ) (amount : ℤ)
  | withdraw (user : Address) (portfolioId : ℕ) (shares : ℤ)
  | rebalance (caller : Address) (portfolioId : ℕ) (buys sells : List SwapRecord)
      (newAssetBalances : List ℤ)
  | checkAndRebalance (caller : Address) (portfolioId : ℕ) (newAssetBalances : List ℤ)
      (buys sells : List SwapRecord)
  | updateAssetPosition (caller : Address) (portfolioId assetIndex : ℕ) (newBalance price : ℤ)
  | collectDividends (caller : Address) (portfolioId : ℕ) (dividendAmounts : List (Address × ℤ))
  | claimDividends (user : Address) (portfolioId : ℕ)
  | recordPerformanceSnapshot (caller : Address) (portfolioId : ℕ)
  | forkPortfolio (creator : Address) (sourcePortfolioId : ℕ) (name : Symbol)
      (customWeights : Option (List AssetAllocation))
      (customRebalanceFrequency : Option RebalanceFrequency)
  | setDriftTolerance (admin : Address) (portfolioId newToleranceBps : ℕ)
  | setRebalanceFrequency (admin : Address) (portfolioId : ℕ) (frequency : RebalanceFrequency)
  | setMaxSlippage (admin : Address) (portfolioId maxSlippageBps : ℕ)
  | setTargetWeights (admin : Address) (portfolioId : ℕ) (newWeights : List AssetAllocation)
  | pausePortfolio (admin : Address) (portfolioId : ℕ)
  | unpausePortfolio (admin : Address) (portfolioId : ℕ)
  | closePortfolio (admin : Address) (portfolioId : ℕ)
  | pause (admin : Address)
  | unpause (admin : Address)

def invoke (env : Env) (op : Op) (s : State τ) : Result (State τ) :=
  match op with
  | .initializeContract admin => initializeContract env admin s
  | .createFromTemplate creator name templateType depositToken oracleAddress tokens =>
    (createFromTemplate env creator name templateType depositToken oracleAddress tokens s).map
      Prod.snd
  | .createCustom creator name depositToken oracleAddress allocations weightingStrategy
      rebalanceFrequency driftTolerance maxSlippage =>
    (createCustom env creator name depositToken oracleAddress allocations weightingStrategy
      rebalanceFrequency driftTolerance maxSlippage s).map Prod.snd
  | .createEqualWeight creator name depositToken oracleAddress tokens rebalanceFrequency =>
    (createEqualWeight env creator name depositToken oracleAddress tokens rebalanceFrequency s).map
      Prod.snd
  | .deposit user portfolioId amount =>
    (deposit tok self env user portfolioId amount s).map Prod.snd
  | .withdraw user portfolioId shares =>
    (withdraw tok self env user portfolioId shares s).map Prod.snd
  | .rebalance caller portfolioId buys sells newAssetBalances =>
    (rebalance env caller portfolioId buys sells newAssetBalances s).map Prod.snd
  | .checkAndRebalance caller portfolioId newAssetBalances buys sells =>
    (checkAndRebalance env caller portfolioId newAssetBalances buys sells s).map Prod.snd
  | .updateAssetPosition caller portfolioId assetIndex newBalance price =>
    updateAssetPosition env caller portfolioId assetIndex newBalance price s
  | .collectDividends caller portfolioId dividendAmounts =>
    (collectDividends env caller portfolioId dividendAmounts s).map Prod.snd
  | .claimDividends user portfolioId =>
    (claimDividends tok self env user portfolioId s).map Prod.snd
  | .recordPerformanceSnapshot caller portfolioId =>
    (recordPerformanceSnapshot env caller portfolioId s).map Prod.snd
  | .forkPortfolio creator sourcePortfolioId name customWeights customRebalanceFrequency =>
    (forkPortfolio env creator sourcePortfolioId name customWeights customRebalanceFrequency s).map
      Prod.snd
  | .setDriftTolerance admin portfolioId newToleranceBps =>
    setDriftTolerance env admin portfolioId newToleranceBps s
  | .setRebalanceFrequency admin portfolioId frequency =>
    setRebalanceFrequency env admin portfolioId frequency s
  | .setMaxSlippage admin portfolioId maxSlippageBps =>
    setMaxSlippage env admin portfolioId maxSlippageBps s
  | .setTargetWeights admin portfolioId newWeights =>
    setTargetWeights env admin portfolioId newWeights s
  | .pausePortfolio admin portfolioId => pausePortfolio env admin portfolioId s
  | .unpausePortfolio admin portfolioId => unpausePortfolio env admin portfolioId s
  | .closePortfolio admin portfolioId => closePortfolio env admin portfolioId s
  | .pause admin => pause env admin s
  | .unpause admin => unpause env admin s

/-- A call of the contract, or transfers elsewhere on the ledger. -/
inductive Action (τ : Type) where
  | call (env : Env) (op : Op)
  | transfers (tokens : τ)

def next (a : Action τ) (s : State τ) : Result (State τ) :=
  match a with
  | .call env op => invoke tok self env op s
  | .transfers tokens => .ok { s with tokens }

end Entries

end PortfolioManager
