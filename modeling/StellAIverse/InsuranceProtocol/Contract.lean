import StellAIverse.Soroban.Token

/-!
# The insurance protocol

Underwriters put funds into pools, buyers pay a premium to a pool for coverage,
and claims on a policy are paid out of the pool it was bought from. Storage and
every entry point that writes, in the order of the source; events and getters
are left out.
-/

namespace InsuranceProtocol

open Soroban

abbrev Symbol := String

inductive CoverageType where
  | smartContractRisk | oracleFailure | liquidationFailure
  deriving DecidableEq, Repr

/-- Tiers differ in deductibles and payout limits. -/
inductive CoverageTier where
  | basic | standard | premium
  deriving DecidableEq, Repr

inductive ClaimStatus where
  | pending | underReview | approved | denied | paid
  deriving DecidableEq, Repr

structure Underwriter where
  address : Address
  shares : ℤ
  totalDeposited : ℤ
  totalWithdrawn : ℤ
  depositTimestamp : ℕ
  lastWithdrawalTimestamp : ℕ

structure InsurancePool where
  poolId : Symbol
  coverageType : CoverageType
  totalAssets : ℤ
  totalShares : ℤ
  reserveRatioBps : ℕ
  reserveAmount : ℤ
  activePolicies : ℕ
  totalPremiumsCollected : ℤ
  totalClaimsPaid : ℤ
  isActive : Bool
  createdAt : ℕ

structure CoveragePolicy where
  policyId : ℕ
  poolId : Symbol
  holder : Address
  coverageType : CoverageType
  tier : CoverageTier
  coverageLimit : ℤ
  deductible : ℤ
  premiumPaid : ℤ
  isActive : Bool
  purchasedAt : ℕ
  expiresAt : ℕ

structure Claim where
  claimId : ℕ
  policyId : ℕ
  poolId : Symbol
  claimant : Address
  amount : ℤ
  evidence : String
  status : ClaimStatus
  submittedAt : ℕ
  votingDeadline : ℕ
  votesFor : ℕ
  votesAgainst : ℕ
  totalVoters : ℕ
  requiresVoting : Bool

structure PayoutQueueItem where
  claimId : ℕ
  poolId : Symbol
  amount : ℤ
  priority : ℕ
  queuedAt : ℕ
  processed : Bool

structure RiskParameters where
  coverageType : CoverageType
  baseRateBps : ℕ
  riskMultiplier : ℕ
  maxCoverageLimit : ℤ
  minCoverageLimit : ℤ
  defaultDeductibleBps : ℕ
  maxPayoutBps : ℕ
  timelockPeriod : ℕ
  votingThresholdBps : ℕ

structure CoverageTierConfig where
  tier : CoverageTier
  deductibleBps : ℕ
  maxPayoutMultiplier : ℕ
  premiumMultiplierBps : ℕ

structure VoteRecord where
  voter : Address
  claimId : ℕ
  approve : Bool
  timestamp : ℕ

inductive InsuranceError where
  | alreadyInitialized | unauthorized | poolNotFound | poolAlreadyExists | poolInactive
  | insufficientShares | insufficientReserve | policyNotFound | policyInactive | policyExpired
  | claimNotFound | claimAlreadyProcessed | claimDenied | claimAmountExceedsCoverage
  | invalidCoverageAmount | timelockNotExpired | votingPeriodNotEnded | alreadyVoted
  | notAnUnderwriter | maxUnderwritersReached | reserveRatioExceeded | invalidInput
  | poolNotPaused | payoutQueueEmpty | alreadyPaused | deductibleNotMet

def InsuranceError.code : InsuranceError → ℕ
  | alreadyInitialized => 1
  | unauthorized => 2
  | poolNotFound => 3
  | poolAlreadyExists => 4
  | poolInactive => 5
  | insufficientShares => 7
  | insufficientReserve => 8
  | policyNotFound => 9
  | policyInactive => 10
  | policyExpired => 11
  | claimNotFound => 12
  | claimAlreadyProcessed => 13
  | claimDenied => 14
  | claimAmountExceedsCoverage => 15
  | invalidCoverageAmount => 16
  | timelockNotExpired => 18
  | votingPeriodNotEnded => 19
  | alreadyVoted => 20
  | notAnUnderwriter => 21
  | maxUnderwritersReached => 22
  | reserveRatioExceeded => 23
  | invalidInput => 24
  | poolNotPaused => 25
  | payoutQueueEmpty => 26
  | alreadyPaused => 27
  | deductibleNotMet => 28

instance : Coe InsuranceError Fault := ⟨fun e => .contract e.code⟩

/-- Contract storage together with the token state. -/
structure State (τ : Type) where
  admin : Option Address
  token : Option Address
  oracle : Option Address
  paused : Option Bool
  policyCounter : Option ℕ
  claimCounter : Option ℕ
  payoutQueueCounter : Option ℕ
  poolCounter : Option ℕ
  pool : Store Symbol InsurancePool
  poolIds : Option (List Symbol)
  underwriter : Store (Symbol × Address) Underwriter
  policy : Store ℕ CoveragePolicy
  policyIds : Option (List ℕ)
  holderPolicies : Store Address (List ℕ)
  claim : Store ℕ Claim
  claimIds : Option (List ℕ)
  poolClaims : Store Symbol (List ℕ)
  payoutQueueItem : Store ℕ PayoutQueueItem
  payoutQueueIds : Option (List ℕ)
  riskParameters : Store CoverageType RiskParameters
  tierConfig : Store (CoverageType × CoverageTier) CoverageTierConfig
  voteRecord : Store (ℕ × Address) VoteRecord
  tokens : τ

variable {τ : Type}

def deployed (tokens : τ) : State τ where
  admin := none
  token := none
  oracle := none
  paused := none
  policyCounter := none
  claimCounter := none
  payoutQueueCounter := none
  poolCounter := none
  pool := .empty
  poolIds := none
  underwriter := .empty
  policy := .empty
  policyIds := none
  holderPolicies := .empty
  claim := .empty
  claimIds := none
  poolClaims := .empty
  payoutQueueItem := .empty
  payoutQueueIds := none
  riskParameters := .empty
  tierConfig := .empty
  voteRecord := .empty
  tokens := tokens

def bpsDenominator : ℤ := 10000

def maxUnderwritersPerPool : ℕ := 1000

/-- A tenth of the pool. -/
def largeClaimThresholdBps : ℤ := 1000

/-- Seven days. -/
def votingPeriodSeconds : ℕ := 604800

/-- Three days. -/
def defaultTimelockPeriod : ℕ := 259200

/-- One year. -/
def policyDuration : ℕ := 31536000

def coverageTypes : List CoverageType := [.smartContractRisk, .oracleFailure, .liquidationFailure]

def tiers : List CoverageTier := [.basic, .standard, .premium]

def defaultRiskParams (coverageType : CoverageType) : RiskParameters where
  coverageType := coverageType
  baseRateBps := 500
  riskMultiplier := 10000
  maxCoverageLimit := 1000000000
  minCoverageLimit := 100
  defaultDeductibleBps := 1000
  maxPayoutBps := 10000
  timelockPeriod := defaultTimelockPeriod
  votingThresholdBps := 1000

def initDefaultRiskParams (params : Store CoverageType RiskParameters) :
    Store CoverageType RiskParameters :=
  coverageTypes.foldl (fun params ct => params.set ct (defaultRiskParams ct)) params

def defaultTierConfig : CoverageTier → CoverageTierConfig
  | .basic => ⟨.basic, 2000, 10000, 8000⟩
  | .standard => ⟨.standard, 1000, 10000, 10000⟩
  | .premium => ⟨.premium, 500, 12000, 15000⟩

def initDefaultTierConfigs (configs : Store (CoverageType × CoverageTier) CoverageTierConfig) :
    Store (CoverageType × CoverageTier) CoverageTierConfig :=
  coverageTypes.foldl (fun configs ct =>
    tiers.foldl (fun configs tier => configs.set (ct, tier) (defaultTierConfig tier)) configs) configs

def assertAdmin (s : State τ) (caller : Address) : Result Unit := do
  let admin ← expect s.admin "Not initialized"
  failIf (caller ≠ admin) InsuranceError.unauthorized

def loadToken (s : State τ) : Result Address := expect s.token "Not initialized"

def isPaused (s : State τ) : Bool := s.paused.getD false

def loadPool (s : State τ) (poolId : Symbol) : Result InsurancePool :=
  okOr (s.pool.get? poolId) InsuranceError.poolNotFound

def loadUnderwriter (s : State τ) (poolId : Symbol) (address : Address) : Underwriter :=
  (s.underwriter.get? (poolId, address)).getD ⟨address, 0, 0, 0, 0, 0⟩

def loadPolicy (s : State τ) (policyId : ℕ) : Result CoveragePolicy :=
  okOr (s.policy.get? policyId) InsuranceError.policyNotFound

def loadClaim (s : State τ) (claimId : ℕ) : Result Claim :=
  okOr (s.claim.get? claimId) InsuranceError.claimNotFound

def loadPayoutQueueItem (s : State τ) (queueId : ℕ) : Result PayoutQueueItem :=
  okOr (s.payoutQueueItem.get? queueId) InsuranceError.payoutQueueEmpty

def loadRiskParams (s : State τ) (coverageType : CoverageType) : Result RiskParameters :=
  expect (s.riskParameters.get? coverageType) "Risk parameters not initialized"

def loadTierConfig (s : State τ) (coverageType : CoverageType) (tier : CoverageTier) :
    Result CoverageTierConfig :=
  expect (s.tierConfig.get? (coverageType, tier)) "Tier config not initialized"

/-- The next number of a counter that starts at zero. -/
def nextId (counter : Option ℕ) : Result ℕ := U64.checked (counter.getD 0 + 1) "Overflow"

/-- A placeholder in the source, which keeps no index of the underwriters. -/
def countPoolUnderwriters (s : State τ) (poolId : Symbol) : Result ℕ := do
  let pool ← loadPool s poolId
  .ok (if pool.totalShares > 0 then 0 else 0)

def sumLiabilities (s : State τ) : List ℕ → ℤ → Result ℤ
  | [], total => .ok total
  | claimId :: rest, total => do
    let claim ← loadClaim s claimId
    if claim.status = .pending ∨ claim.status = .approved then do
      let total ← I128.checked (total + claim.amount) "Overflow"
      sumLiabilities s rest total
    else sumLiabilities s rest total

def estimateTotalLiabilities (s : State τ) (poolId : Symbol) : Result ℤ :=
  sumLiabilities s ((s.poolClaims.get? poolId).getD []) 0

/-- Small claims come first. -/
def calculateClaimPriority (claim : Claim) : ℕ :=
  if claim.amount ≤ 10000 then 1 else if claim.amount ≤ 100000 then 2 else 3

/-- The part of the assets a reserve ratio asks to keep. -/
def reserveOf (totalAssets : ℤ) (reserveRatioBps : ℕ) : Result ℤ := do
  let product ← I128.checked (totalAssets * reserveRatioBps) "Overflow"
  I128.div product bpsDenominator

/-- The reserve of a pool that has no reserve once it has no assets or no shares. -/
def reserveLeft (totalAssets totalShares : ℤ) (reserveRatioBps : ℕ) : Result ℤ :=
  if totalAssets > 0 ∧ totalShares > 0 then reserveOf totalAssets reserveRatioBps else .ok 0

/-- Shares in proportion to the assets; the first deposit sets the price. -/
def sharesFor (pool : InsurancePool) (amount : ℤ) : Result ℤ :=
  if pool.totalShares ≤ 0 ∨ pool.totalAssets ≤ 0 then .ok amount
  else do
    let product ← I128.checked (amount * pool.totalShares) "Overflow"
    I128.div product pool.totalAssets

/-- What is refunded of a policy at a time: in the first half of its term, half of the premium for
what is left of it. -/
def refundOf (policy : CoveragePolicy) (now : ℕ) : Result ℤ := do
  let totalDuration ← U64.checkedSub policy.expiresAt policy.purchasedAt "Underflow"
  let elapsed ← U64.checkedSub now policy.purchasedAt "Underflow"
  if elapsed < totalDuration / 2 then do
    let scaled ← U64.mul (totalDuration - elapsed) 10000
    let product ← I128.checked (policy.premiumPaid * ((scaled / totalDuration : ℕ) : ℤ)) "Overflow"
    I128.div product 20000
  else .ok 0

def initializeContract (env : Env) (admin token oracle : Address) (s : State τ) :
    Result (State τ) := do
  failIf (s.admin.isSome = true) InsuranceError.alreadyInitialized
  requireAuth env admin
  .ok { s with
    admin := some admin
    token := some token
    oracle := some oracle
    paused := some false
    policyCounter := some 0
    claimCounter := some 0
    payoutQueueCounter := some 0
    poolCounter := some 0
    poolIds := some []
    riskParameters := initDefaultRiskParams s.riskParameters
    tierConfig := initDefaultTierConfigs s.tierConfig }

def createPool (env : Env) (admin : Address) (poolId : Symbol) (coverageType : CoverageType)
    (reserveRatioBps : ℕ) (s : State τ) : Result (State τ) := do
  requireAuth env admin
  assertAdmin s admin
  failIf ((s.pool.get? poolId).isSome = true) InsuranceError.poolAlreadyExists
  failIf (reserveRatioBps > 10000) InsuranceError.invalidInput
  let counter ← U32.add (s.poolCounter.getD 0) 1
  .ok { s with
    pool := s.pool.set poolId {
      poolId, coverageType, reserveRatioBps
      totalAssets := 0
      totalShares := 0
      reserveAmount := 0
      activePolicies := 0
      totalPremiumsCollected := 0
      totalClaimsPaid := 0
      isActive := true
      createdAt := env.timestamp }
    poolIds := some (s.poolIds.getD [] ++ [poolId])
    poolCounter := some counter }

section Entries

variable (tok : Token τ) (self : Address)

/-- A new underwriter has to find a place in the pool. -/
def checkUnderwriterCount (s : State τ) (poolId : Symbol) (underwriter : Address) : Result Unit :=
  if (s.underwriter.get? (poolId, underwriter)).isSome = true then .ok ()
  else do
    let count ← countPoolUnderwriters s poolId
    failIf (count ≥ maxUnderwritersPerPool) InsuranceError.maxUnderwritersReached

def depositAsUnderwriter (env : Env) (underwriter : Address) (poolId : Symbol) (amount : ℤ)
    (s : State τ) : Result (State τ) := do
  requireAuth env underwriter
  failIf (isPaused s = true) InsuranceError.alreadyPaused
  failIf (amount ≤ 0) InsuranceError.invalidInput
  let pool ← loadPool s poolId
  failIf (pool.isActive = false) InsuranceError.poolInactive
  checkUnderwriterCount s poolId underwriter
  let shares ← sharesFor pool amount
  let token ← loadToken s
  let tokens ← tok.pay s.tokens token underwriter self amount
  let totalAssets ← I128.checked (pool.totalAssets + amount) "Overflow"
  let totalShares ← I128.checked (pool.totalShares + shares) "Overflow"
  let reserveAmount ← reserveOf totalAssets pool.reserveRatioBps
  let uw := loadUnderwriter s poolId underwriter
  let uwShares ← I128.checked (uw.shares + shares) "Overflow"
  let totalDeposited ← I128.checked (uw.totalDeposited + amount) "Overflow"
  .ok { s with
    tokens
    pool := s.pool.set poolId { pool with totalAssets, totalShares, reserveAmount }
    underwriter := s.underwriter.set (poolId, underwriter)
      { uw with shares := uwShares, totalDeposited, depositTimestamp := env.timestamp } }

/-- The reserve after a withdrawal; nothing is kept once no shares are left. -/
def reserveAfterWithdrawal (totalAssets totalShares : ℤ) (reserveRatioBps : ℕ) : Result ℤ :=
  if totalShares > 0 then reserveOf totalAssets reserveRatioBps else .ok 0

/-- Without active policies everything can be withdrawn, else what the open claims and the reserve
leave. -/
def withdrawable (s : State τ) (poolId : Symbol) (activePolicies : ℕ) (totalAssets reserve : ℤ) :
    Result Bool :=
  if activePolicies = 0 then .ok true
  else do
    let totalLiabilities ← estimateTotalLiabilities s poolId
    let available ← I128.checked (totalAssets - totalLiabilities) "Underflow"
    .ok (decide (available ≥ reserve))

def withdrawAsUnderwriter (env : Env) (underwriter : Address) (poolId : Symbol) (shares : ℤ)
    (s : State τ) : Result (ℤ × State τ) := do
  requireAuth env underwriter
  failIf (shares ≤ 0) InsuranceError.invalidInput
  let pool ← loadPool s poolId
  failIf (pool.isActive = false) InsuranceError.poolInactive
  let uw := loadUnderwriter s poolId underwriter
  failIf (uw.shares < shares) InsuranceError.insufficientShares
  failIf (pool.totalShares ≤ 0) InsuranceError.poolInactive
  let product ← I128.checked (shares * pool.totalAssets) "Overflow"
  let assets ← I128.div product pool.totalShares
  let totalAssets ← I128.checked (pool.totalAssets - assets) "Underflow"
  let totalShares ← I128.checked (pool.totalShares - shares) "Underflow"
  let reserveAmount ← reserveAfterWithdrawal totalAssets totalShares pool.reserveRatioBps
  let allowed ← withdrawable s poolId pool.activePolicies totalAssets reserveAmount
  failIf (allowed = false ∧ pool.activePolicies > 0) InsuranceError.reserveRatioExceeded
  let token ← loadToken s
  let tokens ← tok.pay s.tokens token self underwriter assets
  let uwShares ← I128.checked (uw.shares - shares) "Underflow"
  let totalWithdrawn ← I128.checked (uw.totalWithdrawn + assets) "Overflow"
  .ok (assets, { s with
    tokens
    pool := s.pool.set poolId { pool with totalAssets, totalShares, reserveAmount }
    underwriter := s.underwriter.set (poolId, underwriter)
      { uw with shares := uwShares, totalWithdrawn, lastWithdrawalTimestamp := env.timestamp } })

/-- The price of coverage grows with its share of the pool and is at least one unit. -/
def calculatePremium (poolId : Symbol) (coverageAmount : ℤ) (tier : CoverageTier) (s : State τ) :
    Result ℤ := do
  let pool ← loadPool s poolId
  failIf (pool.isActive = false) InsuranceError.poolInactive
  let riskParams ← loadRiskParams s pool.coverageType
  let tierConfig ← loadTierConfig s pool.coverageType tier
  let poolDepth : ℤ := if pool.totalAssets > 0 then pool.totalAssets else 1000000
  let numerator ← I128.checked (riskParams.baseRateBps * coverageAmount) "Overflow"
  let numerator ← I128.checked (numerator * riskParams.riskMultiplier) "Overflow"
  let numerator ← I128.checked (numerator * tierConfig.premiumMultiplierBps) "Overflow"
  let premium ← I128.div numerator poolDepth
  let premium ← I128.div premium 10000
  let premium ← I128.div premium 10000
  .ok (if premium < 1 then 1 else premium)

def purchaseCoverage (env : Env) (buyer : Address) (poolId : Symbol) (tier : CoverageTier)
    (coverageAmount : ℤ) (s : State τ) : Result (ℕ × State τ) := do
  requireAuth env buyer
  failIf (isPaused s = true) InsuranceError.alreadyPaused
  failIf (coverageAmount ≤ 0) InsuranceError.invalidCoverageAmount
  let pool ← loadPool s poolId
  failIf (pool.isActive = false) InsuranceError.poolInactive
  let riskParams ← loadRiskParams s pool.coverageType
  failIf (coverageAmount < riskParams.minCoverageLimit) InsuranceError.invalidCoverageAmount
  failIf (coverageAmount > riskParams.maxCoverageLimit) InsuranceError.claimAmountExceedsCoverage
  let premium ← calculatePremium poolId coverageAmount tier s
  let tierConfig ← loadTierConfig s pool.coverageType tier
  let product ← I128.checked (coverageAmount * tierConfig.deductibleBps) "Overflow"
  let deductible ← I128.div product bpsDenominator
  let product ← I128.checked (coverageAmount * tierConfig.maxPayoutMultiplier) "Overflow"
  let maxPayout ← I128.div product 10000
  let token ← loadToken s
  let tokens ← tok.pay s.tokens token buyer self premium
  let policyId ← nextId s.policyCounter
  let expiresAt ← U64.add env.timestamp policyDuration
  let policy : CoveragePolicy := {
    policyId, poolId, tier, deductible, expiresAt
    holder := buyer
    coverageType := pool.coverageType
    coverageLimit := maxPayout
    premiumPaid := premium
    isActive := true
    purchasedAt := env.timestamp }
  let totalPremiumsCollected ← I128.checked (pool.totalPremiumsCollected + premium) "Overflow"
  let totalAssets ← I128.checked (pool.totalAssets + premium) "Overflow"
  let activePolicies ← U32.add pool.activePolicies 1
  let reserveAmount ← reserveOf totalAssets pool.reserveRatioBps
  .ok (policyId, { s with
    tokens
    policyCounter := some policyId
    policy := s.policy.set policyId policy
    policyIds := some (s.policyIds.getD [] ++ [policyId])
    holderPolicies :=
      s.holderPolicies.set buyer ((s.holderPolicies.get? buyer).getD [] ++ [policyId])
    pool := s.pool.set poolId
      { pool with totalPremiumsCollected, totalAssets, activePolicies, reserveAmount } })

/-- Pays a refund, if there is one. -/
def payRefund (buyer : Address) (refund : ℤ) (s : State τ) : Result τ :=
  if refund > 0 then do
    let token ← loadToken s
    tok.pay s.tokens token self buyer refund
  else .ok s.tokens

def cancelPolicy (env : Env) (buyer : Address) (policyId : ℕ) (s : State τ) :
    Result (ℤ × State τ) := do
  requireAuth env buyer
  let policy ← loadPolicy s policyId
  failIf (policy.holder ≠ buyer) InsuranceError.unauthorized
  failIf (policy.isActive = false) InsuranceError.policyInactive
  let refund ← refundOf policy env.timestamp
  let pool ← loadPool s policy.poolId
  let totalAssets ← I128.checked (pool.totalAssets - refund) "Underflow"
  let reserveAmount ← reserveLeft totalAssets pool.totalShares pool.reserveRatioBps
  let tokens ← payRefund tok self buyer refund s
  .ok (refund, { s with
    tokens
    policy := s.policy.set policyId { policy with isActive := false }
    pool := s.pool.set policy.poolId
      { pool with activePolicies := pool.activePolicies - 1, totalAssets, reserveAmount } })

def submitClaim (env : Env) (claimant : Address) (policyId : ℕ) (amount : ℤ) (evidence : String)
    (s : State τ) : Result (ℕ × State τ) := do
  requireAuth env claimant
  failIf (isPaused s = true) InsuranceError.alreadyPaused
  let policy ← loadPolicy s policyId
  failIf (policy.holder ≠ claimant) InsuranceError.unauthorized
  failIf (policy.isActive = false) InsuranceError.policyInactive
  failIf (env.timestamp > policy.expiresAt) InsuranceError.policyExpired
  failIf (amount ≤ 0) InsuranceError.invalidInput
  failIf (amount ≤ policy.deductible) InsuranceError.deductibleNotMet
  let payoutAmount ← I128.checked (amount - policy.deductible) "Underflow"
  failIf (payoutAmount > policy.coverageLimit) InsuranceError.claimAmountExceedsCoverage
  let pool ← loadPool s policy.poolId
  let product ← I128.checked (pool.totalAssets * largeClaimThresholdBps) "Overflow"
  let threshold ← I128.div product bpsDenominator
  let riskParams ← loadRiskParams s policy.coverageType
  let votingDeadline ← U64.add env.timestamp
    (if payoutAmount > threshold then votingPeriodSeconds else riskParams.timelockPeriod)
  let claimId ← nextId s.claimCounter
  let claim : Claim := {
    claimId, policyId, claimant, evidence, votingDeadline
    poolId := policy.poolId
    amount := payoutAmount
    status := .pending
    submittedAt := env.timestamp
    votesFor := 0
    votesAgainst := 0
    totalVoters := 0
    requiresVoting := decide (payoutAmount > threshold) }
  .ok (claimId, { s with
    claimCounter := some claimId
    claim := s.claim.set claimId claim
    claimIds := some (s.claimIds.getD [] ++ [claimId])
    poolClaims :=
      s.poolClaims.set policy.poolId ((s.poolClaims.get? policy.poolId).getD [] ++ [claimId]) })

def voteOnClaim (env : Env) (underwriter : Address) (claimId : ℕ) (approve : Bool) (s : State τ) :
    Result (State τ) := do
  requireAuth env underwriter
  let claim ← loadClaim s claimId
  failIf (claim.requiresVoting = false) InsuranceError.invalidInput
  failIf (env.timestamp > claim.votingDeadline) InsuranceError.votingPeriodNotEnded
  failIf ((s.voteRecord.get? (claimId, underwriter)).isSome = true) InsuranceError.alreadyVoted
  let uw ← okOr (s.underwriter.get? (claim.poolId, underwriter)) InsuranceError.notAnUnderwriter
  failIf (uw.shares ≤ 0) InsuranceError.notAnUnderwriter
  let votesFor ← U32.add claim.votesFor (if approve = true then 1 else 0)
  let votesAgainst ← U32.add claim.votesAgainst (if approve = true then 0 else 1)
  let totalVoters ← U32.add claim.totalVoters 1
  .ok { s with
    voteRecord := s.voteRecord.set (claimId, underwriter) ⟨underwriter, claimId, approve, env.timestamp⟩
    claim := s.claim.set claimId { claim with votesFor, votesAgainst, totalVoters } }

/-- The claim is approved and queued for its payout. -/
def approveClaim (env : Env) (claimId : ℕ) (claim : Claim) (s : State τ) : Result (State τ) := do
  let queueId ← nextId s.payoutQueueCounter
  .ok { s with
    claim := s.claim.set claimId { claim with status := .approved }
    payoutQueueCounter := some queueId
    payoutQueueItem := s.payoutQueueItem.set queueId {
      claimId
      poolId := claim.poolId
      amount := claim.amount
      priority := calculateClaimPriority claim
      queuedAt := env.timestamp
      processed := false }
    payoutQueueIds := some (s.payoutQueueIds.getD [] ++ [queueId]) }

/-- Whether a vote that was required did not find a majority. -/
def outvoted (claim : Claim) : Result Bool :=
  if claim.requiresVoting = true then do
    let totalVotes ← U32.add claim.votesFor claim.votesAgainst
    .ok (decide (totalVotes = 0 ∨ claim.votesFor ≤ claim.votesAgainst))
  else .ok false

def processClaim (env : Env) (claimId : ℕ) (s : State τ) : Result (State τ) := do
  let claim ← loadClaim s claimId
  failIf (claim.status ≠ .pending) InsuranceError.claimAlreadyProcessed
  failIf (env.timestamp < claim.votingDeadline)
    (if claim.requiresVoting = true then InsuranceError.votingPeriodNotEnded
      else InsuranceError.timelockNotExpired)
  let denied ← outvoted claim
  if denied = true then
    .ok { s with claim := s.claim.set claimId { claim with status := .denied } }
  else approveClaim env claimId claim s

/-- Payouts that leave less than the reserve stop at what is available above it, as long as there
are shares. -/
def checkReserve (pool : InsurancePool) (amount newTotalAssets requiredReserve : ℤ) : Result Unit :=
  if pool.totalShares > 0 ∧ newTotalAssets < requiredReserve then do
    let available ← I128.checked (pool.totalAssets - requiredReserve) "Underflow"
    failIf (amount > available) InsuranceError.insufficientReserve
  else .ok ()

def payClaim (env : Env) (admin : Address) (queueId : ℕ) (s : State τ) :
    Result (ℤ × State τ) := do
  requireAuth env admin
  assertAdmin s admin
  let item ← loadPayoutQueueItem s queueId
  failIf (item.processed = true) InsuranceError.claimAlreadyProcessed
  let claim ← loadClaim s item.claimId
  failIf (claim.status ≠ .approved) InsuranceError.claimDenied
  let pool ← loadPool s item.poolId
  let totalAssets ← I128.checked (pool.totalAssets - item.amount) "Underflow"
  let requiredReserve ← reserveOf totalAssets pool.reserveRatioBps
  checkReserve pool item.amount totalAssets requiredReserve
  let token ← loadToken s
  let tokens ← tok.pay s.tokens token self claim.claimant item.amount
  let totalClaimsPaid ← I128.checked (pool.totalClaimsPaid + item.amount) "Overflow"
  let reserveAmount ← reserveLeft totalAssets pool.totalShares pool.reserveRatioBps
  let policy ← loadPolicy s claim.policyId
  .ok (item.amount, { s with
    tokens
    pool := s.pool.set item.poolId { pool with
      totalAssets, totalClaimsPaid, reserveAmount
      activePolicies := pool.activePolicies - 1 }
    claim := s.claim.set item.claimId { claim with status := .paid }
    payoutQueueItem := s.payoutQueueItem.set queueId { item with processed := true }
    policy := s.policy.set claim.policyId { policy with isActive := false } })

/-- The parameters come one by one in the source. -/
def setRiskParameters (env : Env) (admin : Address) (params : RiskParameters) (s : State τ) :
    Result (State τ) := do
  requireAuth env admin
  assertAdmin s admin
  .ok { s with riskParameters := s.riskParameters.set params.coverageType params }

def setTierConfig (env : Env) (admin : Address) (coverageType : CoverageType)
    (config : CoverageTierConfig) (s : State τ) : Result (State τ) := do
  requireAuth env admin
  assertAdmin s admin
  .ok { s with tierConfig := s.tierConfig.set (coverageType, config.tier) config }

/-- The reserve after a change of the ratio. -/
def reserveAt (totalAssets : ℤ) (reserveRatioBps : ℕ) : Result ℤ :=
  if totalAssets > 0 then reserveOf totalAssets reserveRatioBps else .ok 0

def updateReserveRatio (env : Env) (admin : Address) (poolId : Symbol) (newRatioBps : ℕ)
    (s : State τ) : Result (State τ) := do
  requireAuth env admin
  assertAdmin s admin
  failIf (newRatioBps > 10000) InsuranceError.invalidInput
  let pool ← loadPool s poolId
  let reserveAmount ← reserveAt pool.totalAssets newRatioBps
  .ok { s with
    pool := s.pool.set poolId { pool with reserveRatioBps := newRatioBps, reserveAmount } }

def emergencyPause (env : Env) (admin : Address) (s : State τ) : Result (State τ) := do
  requireAuth env admin
  assertAdmin s admin
  failIf (isPaused s = true) InsuranceError.alreadyPaused
  .ok { s with paused := some true }

def emergencyUnpause (env : Env) (admin : Address) (s : State τ) : Result (State τ) := do
  requireAuth env admin
  assertAdmin s admin
  failIf (isPaused s = false) InsuranceError.poolNotPaused
  .ok { s with paused := some false }

inductive Op where
  | initializeContract (admin token oracle : Address)
  | createPool (admin : Address) (poolId : Symbol) (coverageType : CoverageType)
      (reserveRatioBps : ℕ)
  | depositAsUnderwriter (underwriter : Address) (poolId : Symbol) (amount : ℤ)
  | withdrawAsUnderwriter (underwriter : Address) (poolId : Symbol) (shares : ℤ)
  | purchaseCoverage (buyer : Address) (poolId : Symbol) (tier : CoverageTier) (coverageAmount : ℤ)
  | cancelPolicy (buyer : Address) (policyId : ℕ)
  | submitClaim (claimant : Address) (policyId : ℕ) (amount : ℤ) (evidence : String)
  | voteOnClaim (underwriter : Address) (claimId : ℕ) (approve : Bool)
  | processClaim (claimId : ℕ)
  | payClaim (admin : Address) (queueId : ℕ)
  | setRiskParameters (admin : Address) (params : RiskParameters)
  | setTierConfig (admin : Address) (coverageType : CoverageType) (config : CoverageTierConfig)
  | updateReserveRatio (admin : Address) (poolId : Symbol) (newRatioBps : ℕ)
  | emergencyPause (admin : Address)
  | emergencyUnpause (admin : Address)

def invoke (env : Env) (op : Op) (s : State τ) : Result (State τ) :=
  match op with
  | .initializeContract admin token oracle => initializeContract env admin token oracle s
  | .createPool admin poolId coverageType reserveRatioBps =>
    createPool env admin poolId coverageType reserveRatioBps s
  | .depositAsUnderwriter underwriter poolId amount =>
    depositAsUnderwriter tok self env underwriter poolId amount s
  | .withdrawAsUnderwriter underwriter poolId shares =>
    (withdrawAsUnderwriter tok self env underwriter poolId shares s).map Prod.snd
  | .purchaseCoverage buyer poolId tier coverageAmount =>
    (purchaseCoverage tok self env buyer poolId tier coverageAmount s).map Prod.snd
  | .cancelPolicy buyer policyId => (cancelPolicy tok self env buyer policyId s).map Prod.snd
  | .submitClaim claimant policyId amount evidence =>
    (submitClaim env claimant policyId amount evidence s).map Prod.snd
  | .voteOnClaim underwriter claimId approve => voteOnClaim env underwriter claimId approve s
  | .processClaim claimId => processClaim env claimId s
  | .payClaim admin queueId => (payClaim tok self env admin queueId s).map Prod.snd
  | .setRiskParameters admin params => setRiskParameters env admin params s
  | .setTierConfig admin coverageType config => setTierConfig env admin coverageType config s
  | .updateReserveRatio admin poolId newRatioBps =>
    updateReserveRatio env admin poolId newRatioBps s
  | .emergencyPause admin => emergencyPause env admin s
  | .emergencyUnpause admin => emergencyUnpause env admin s

/-- A call of the contract, or transfers elsewhere on the ledger. -/
inductive Action (τ : Type) where
  | call (env : Env) (op : Op)
  | transfers (tokens : τ)

def next (a : Action τ) (s : State τ) : Result (State τ) :=
  match a with
  | .call env op => invoke tok self env op s
  | .transfers tokens => .ok { s with tokens }

end Entries

end InsuranceProtocol
