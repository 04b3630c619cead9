import StellAIverse.Soroban.Token

/-!
# The vault contract

Share-based accounting over one token, strategies that are accounted for but
never hold the tokens, and a withdrawal queue. Storage and every entry point, in
the order of the source; events are left out.
-/

namespace Vault

open Soroban

def bpsDenominator : ℤ := 10000

def defaultPerformanceFeeBps : ℕ := 2000

def maxStrategies : ℕ := 20

def defaultMinQueuedWithdrawal : ℤ := 1000

structure VaultUserDeposit where
  shares : ℤ
  totalDeposited : ℤ
  totalWithdrawn : ℤ
  lastDepositAt : ℕ
  lastWithdrawalAt : ℕ

structure StrategyConfig where
  strategyId : String
  strategyAddress : Address
  allocatedAssets : ℤ
  currentBalance : ℤ
  totalGains : ℤ
  totalLosses : ℤ
  isActive : Bool
  createdAt : ℕ
  lastHarvestAt : ℕ

structure WithdrawalQueueItem where
  requestId : ℕ
  user : Address
  shares : ℤ
  estimatedAssets : ℤ
  requestedAt : ℕ
  processed : Bool

structure HarvestResult where
  strategyId : String
  gains : ℤ
  performanceFee : ℤ
  newTotalAssets : ℤ
  newHighWaterMark : ℤ

/-- Contract storage together with the token state. -/
structure State (τ : Type) where
  admin : Option Address
  token : Option Address
  paused : Bool
  performanceFeeBps : ℕ
  totalAssets : ℤ
  totalSupply : ℤ
  totalDeposits : ℤ
  totalWithdrawals : ℤ
  totalFeesCollected : ℤ
  highWaterMark : ℤ
  userDeposit : Store Address VaultUserDeposit
  strategyCounter : ℕ
  strategy : Store String StrategyConfig
  strategyIds : List String
  strategyAllocBps : Store String ℕ
  withdrawalQueueCounter : ℕ
  withdrawalQueueItem : Store ℕ WithdrawalQueueItem
  withdrawalQueueIds : List ℕ
  minQueuedWithdrawal : ℤ
  reentrancyLock : Bool
  tokens : τ

variable {τ : Type}

/-- Empty storage, with the default of every getter. -/
def deployed (tokens : τ) : State τ where
  admin := none
  token := none
  paused := false
  performanceFeeBps := defaultPerformanceFeeBps
  totalAssets := 0
  totalSupply := 0
  totalDeposits := 0
  totalWithdrawals := 0
  totalFeesCollected := 0
  highWaterMark := 0
  userDeposit := .empty
  strategyCounter := 0
  strategy := .empty
  strategyIds := []
  strategyAllocBps := .empty
  withdrawalQueueCounter := 0
  withdrawalQueueItem := .empty
  withdrawalQueueIds := []
  minQueuedWithdrawal := defaultMinQueuedWithdrawal
  reentrancyLock := false
  tokens := tokens

def calculateSharesForDeposit (amount totalAssets totalSupply : ℤ) : Result ℤ :=
  if totalAssets ≤ 0 ∨ totalSupply ≤ 0 then .ok amount else do
    let product ← I128.checked (amount * totalSupply) "Overflow"
    I128.div product totalAssets

def calculateAssetsForWithdrawal (shares totalAssets totalSupply : ℤ) : Result ℤ := do
  let product ← I128.checked (shares * totalAssets) "Overflow"
  I128.div product totalSupply

def getToken (s : State τ) : Result Address := expect s.token "Not initialized"

def assertAdmin (s : State τ) (caller : Address) : Result Unit := do
  let admin ← expect s.admin "Not initialized"
  panicIf (caller ≠ admin) "Unauthorized: caller is not admin"

def loadUserDeposit (s : State τ) (user : Address) : VaultUserDeposit :=
  (s.userDeposit.get? user).getD ⟨0, 0, 0, 0, 0⟩

def loadStrategy (s : State τ) (strategyId : String) : Result StrategyConfig :=
  expect (s.strategy.get? strategyId) "Strategy not found"

def getStrategyAllocBps (s : State τ) (strategyId : String) : ℕ :=
  (s.strategyAllocBps.get? strategyId).getD 0

/-- `for idx in 0..ids.len()`, over the active strategies. -/
def totalAllocationBps (s : State τ) : List String → ℕ → Result ℕ
  | [], total => .ok total
  | id :: rest, total => do
    let config ← loadStrategy s id
    if config.isActive then do
      let total ← U32.checked (total + getStrategyAllocBps s id) "Overflow"
      totalAllocationBps s rest total
    else totalAllocationBps s rest total

def loadQueueItem (s : State τ) (requestId : ℕ) : Result WithdrawalQueueItem :=
  expect (s.withdrawalQueueItem.get? requestId) "Request not found"

def collectFee (s : State τ) (fee : ℤ) : Result (State τ) :=
  if fee ≤ 0 then .ok s else do
    let newTotal ← I128.checked (s.totalFeesCollected + fee) "Overflow"
    .ok { s with totalFeesCollected := newTotal }

variable (tok : Token τ) (self : Address)

def transferTokenUnchecked (s : State τ) (token source target : Address) (amount : ℤ) :
    Result (State τ) := do
  panicIf (amount ≤ 0) "Transfer amount must be positive"
  let tokens ← tok.pay s.tokens token source target amount
  .ok { s with tokens }

/-- The transfer between `enter_non_reentrant` and `exit_non_reentrant`. -/
def transferToken (s : State τ) (token source target : Address) (amount : ℤ) :
    Result (State τ) := do
  panicIf (s.reentrancyLock = true) "Reentrant call blocked"
  let s ← transferTokenUnchecked tok { s with reentrancyLock := true } token source target amount
  .ok { s with reentrancyLock := false }

def initializeContract (env : Env) (admin token : Address) (s : State τ) : Result (State τ) := do
  panicIf (s.admin.isSome = true) "Already initialized"
  requireAuth env admin
  .ok { s with
    admin := some admin, token := some token, paused := false
    performanceFeeBps := defaultPerformanceFeeBps
    totalAssets := 0, totalSupply := 0, totalDeposits := 0, totalWithdrawals := 0
    totalFeesCollected := 0, highWaterMark := 0, strategyCounter := 0, strategyIds := []
    withdrawalQueueCounter := 0, withdrawalQueueIds := []
    minQueuedWithdrawal := defaultMinQueuedWithdrawal, reentrancyLock := false }

def deposit (env : Env) (user : Address) (amount : ℤ) (s : State τ) : Result (ℤ × State τ) := do
  requireAuth env user
  panicIf (s.paused = true) "Vault is paused"
  panicIf (amount ≤ 0) "Deposit amount must be positive"
  let shares ← calculateSharesForDeposit amount s.totalAssets s.totalSupply
  let token ← getToken s
  let s ← transferToken tok s token user self amount
  let totalAssets ← I128.checked (s.totalAssets + amount) "Total assets overflow"
  let totalSupply ← I128.checked (s.totalSupply + shares) "Total supply overflow"
  let totalDeposits ← I128.checked (s.totalDeposits + amount) "Total deposits overflow"
  -- Deposits lift the mark so that they are not taken for gains.
  let highWaterMark := if totalAssets > s.highWaterMark then totalAssets else s.highWaterMark
  let s := { s with totalAssets, totalSupply, totalDeposits, highWaterMark }
  let record := loadUserDeposit s user
  let userShares ← I128.checked (record.shares + shares) "User shares overflow"
  let totalDeposited ← I128.checked (record.totalDeposited + amount) "User deposited overflow"
  let record := { record with
    shares := userShares, totalDeposited, lastDepositAt := env.timestamp }
  .ok (shares, { s with userDeposit := s.userDeposit.set user record })

/-- The fee `withdraw` deducts while total assets exceed the mark. -/
def withdrawalFee (s : State τ) : Result ℤ :=
  if s.totalAssets > s.highWaterMark then do
    let gains ← I128.checked (s.totalAssets - s.highWaterMark) "Gains underflow"
    let scaled ← I128.checked (gains * s.performanceFeeBps) "Fee calc overflow"
    I128.div scaled bpsDenominator
  else .ok 0

def withdraw (env : Env) (user : Address) (shares : ℤ) (s : State τ) :
    Result (ℤ × State τ) := do
  requireAuth env user
  panicIf (shares ≤ 0) "Shares must be positive"
  let record := loadUserDeposit s user
  panicIf (record.shares < shares) "Insufficient shares"
  panicIf (s.totalSupply ≤ 0) "No assets in vault"
  let grossAssets ← calculateAssetsForWithdrawal shares s.totalAssets s.totalSupply
  let performanceFee ← withdrawalFee s
  let netAssets ← I128.checked (grossAssets - performanceFee) "Net assets underflow"
  let totalSupply ← I128.checked (s.totalSupply - shares) "Total supply underflow"
  let totalAssets ← I128.checked (s.totalAssets - grossAssets) "Total assets underflow"
  let totalWithdrawals ← I128.checked (s.totalWithdrawals + netAssets) "Total withdrawals overflow"
  let s := { s with totalSupply, totalAssets, totalWithdrawals }
  let s ← collectFee s performanceFee
  let userShares ← I128.checked (record.shares - shares) "User shares underflow"
  let totalWithdrawn ← I128.checked (record.totalWithdrawn + netAssets) "User withdrawn overflow"
  let record := { record with
    shares := userShares, totalWithdrawn, lastWithdrawalAt := env.timestamp }
  let s := { s with userDeposit := s.userDeposit.set user record }
  let token ← getToken s
  let s ← transferToken tok s token self user netAssets
  .ok (netAssets, s)

def emergencyWithdraw (env : Env) (user : Address) (s : State τ) : Result (ℤ × State τ) := do
  requireAuth env user
  let record := loadUserDeposit s user
  panicIf (record.shares ≤ 0) "No shares to withdraw"
  panicIf (s.totalSupply ≤ 0) "No assets in vault"
  let assets ← calculateAssetsForWithdrawal record.shares s.totalAssets s.totalSupply
  let totalSupply ← I128.checked (s.totalSupply - record.shares) "Total supply underflow"
  let totalAssets ← I128.checked (s.totalAssets - assets) "Total assets underflow"
  let totalWithdrawals ← I128.checked (s.totalWithdrawals + assets) "Total withdrawals overflow"
  let s := { s with totalSupply, totalAssets, totalWithdrawals }
  let totalWithdrawn ← I128.checked (record.totalWithdrawn + assets) "User withdrawn overflow"
  let cleared := { record with shares := 0, totalWithdrawn, lastWithdrawalAt := env.timestamp }
  let s := { s with userDeposit := s.userDeposit.set user cleared }
  let token ← getToken s
  let s ← transferToken tok s token self user assets
  .ok (assets, s)

def governanceWithdraw (env : Env) (admin recipient : Address) (amount : ℤ) (s : State τ) :
    Result (State τ) := do
  requireAuth env admin
  assertAdmin s admin
  panicIf (amount ≤ 0) "Amount must be positive"
  panicIf (amount > s.totalAssets) "Insufficient vault assets"
  let totalAssets ← I128.checked (s.totalAssets - amount) "Underflow"
  let s := { s with totalAssets }
  let token ← getToken s
  transferToken tok s token self recipient amount

def pause (env : Env) (admin : Address) (s : State τ) : Result (State τ) := do
  requireAuth env admin
  assertAdmin s admin
  panicIf (s.paused = true) "Already paused"
  .ok { s with paused := true }

def unpause (env : Env) (admin : Address) (s : State τ) : Result (State τ) := do
  requireAuth env admin
  assertAdmin s admin
  panicIf (s.paused = false) "Not paused"
  .ok { s with paused := false }

def setPerformanceFee (env : Env) (admin : Address) (feeBps : ℕ) (s : State τ) :
    Result (State τ) := do
  requireAuth env admin
  assertAdmin s admin
  panicIf (feeBps > 5000) "Fee exceeds maximum of 50%"
  .ok { s with performanceFeeBps := feeBps }

def withdrawFees (env : Env) (admin recipient : Address) (s : State τ) : Result (State τ) := do
  requireAuth env admin
  assertAdmin s admin
  panicIf (s.totalFeesCollected ≤ 0) "No fees to withdraw"
  let token ← getToken s
  let s ← transferToken tok s token self recipient s.totalFeesCollected
  .ok { s with totalFeesCollected := 0 }

def addStrategy (env : Env) (admin : Address) (strategyId : String) (strategyAddress : Address)
    (s : State τ) : Result (State τ) := do
  requireAuth env admin
  assertAdmin s admin
  panicIf ((s.strategy.get? strategyId).isSome = true) "Strategy already exists"
  panicIf (s.strategyIds.length ≥ maxStrategies) "Maximum strategies reached"
  let config : StrategyConfig := {
    strategyId, strategyAddress, allocatedAssets := 0, currentBalance := 0, totalGains := 0
    totalLosses := 0, isActive := true, createdAt := env.timestamp, lastHarvestAt := 0 }
  let strategyCounter ← U32.add s.strategyCounter 1
  .ok { s with
    strategy := s.strategy.set strategyId config
    strategyAllocBps := s.strategyAllocBps.set strategyId 0
    strategyCounter
    strategyIds := s.strategyIds ++ [strategyId] }

def removeStrategy (env : Env) (admin : Address) (strategyId : String) (s : State τ) :
    Result (State τ) := do
  requireAuth env admin
  assertAdmin s admin
  let config ← loadStrategy s strategyId
  panicIf (config.isActive = false) "Strategy not active"
  panicIf (config.allocatedAssets > 0)
    "Cannot remove strategy with allocated assets. Migrate first."
  .ok { s with
    strategy := s.strategy.set strategyId { config with isActive := false }
    strategyAllocBps := s.strategyAllocBps.set strategyId 0 }

def setStrategyAllocation (env : Env) (admin : Address) (strategyId : String) (allocBps : ℕ)
    (s : State τ) : Result (State τ) := do
  requireAuth env admin
  assertAdmin s admin
  let config ← loadStrategy s strategyId
  panicIf (config.isActive = false) "Strategy not active"
  let totalAlloc ← totalAllocationBps s s.strategyIds 0
  let others ← I128.checked ((totalAlloc : ℤ) - getStrategyAllocBps s strategyId)
    "Total alloc underflow"
  let newTotal ← I128.checked (others + allocBps) "Total alloc overflow"
  panicIf (newTotal > bpsDenominator) "Total allocations exceed 100%"
  let scaled ← I128.checked (s.totalAssets * allocBps) "Target calc overflow"
  let newTarget ← I128.div scaled bpsDenominator
  .ok { s with
    strategyAllocBps := s.strategyAllocBps.set strategyId allocBps
    strategy := s.strategy.set strategyId
      { config with allocatedAssets := newTarget, currentBalance := newTarget } }

/-- Both configurations are read before either is written. -/
def migrateStrategy (env : Env) (admin : Address) (fromStrategyId toStrategyId : String)
    (s : State τ) : Result (State τ) := do
  requireAuth env admin
  assertAdmin s admin
  let fromConfig ← loadStrategy s fromStrategyId
  panicIf (fromConfig.isActive = false) "Source strategy not active"
  let toConfig ← loadStrategy s toStrategyId
  panicIf (toConfig.isActive = false) "Target strategy not active"
  panicIf (fromConfig.allocatedAssets ≤ 0) "No assets to migrate"
  let s := { s with
    strategy := s.strategy.set fromStrategyId { fromConfig with allocatedAssets := 0 } }
  let allocatedAssets ← I128.checked (toConfig.allocatedAssets + fromConfig.allocatedAssets)
    "Target alloc overflow"
  .ok { s with strategy := s.strategy.set toStrategyId { toConfig with allocatedAssets } }

/-- The fee on a reported gain. -/
def gainFee (s : State τ) (gains : ℤ) : Result ℤ :=
  if gains > 0 then do
    let scaled ← I128.checked (gains * s.performanceFeeBps) "Fee calc overflow"
    I128.div scaled bpsDenominator
  else .ok 0

/-- Total assets after a strategy that held `before` reports `reported`. -/
def assetsAfterHarvest (totalAssets before reported gains performanceFee : ℤ) : Result ℤ :=
  if reported > before then do
    let netGain ← I128.checked (gains - performanceFee) "Net gain underflow"
    I128.checked (totalAssets + netGain) "Total assets overflow"
  else if reported < before then do
    let netLoss ← I128.checked (before - reported) "Net loss underflow"
    I128.checked (totalAssets - netLoss) "Total assets underflow"
  else .ok totalAssets

def positivePart (a b : ℤ) (message : String) : Result ℤ :=
  if a > b then I128.checked (a - b) message else .ok 0

/-- Anybody may report any balance. -/
def harvestStrategy (env : Env) (strategyId : String) (reportedBalance : ℤ) (s : State τ) :
    Result (HarvestResult × State τ) := do
  let config ← loadStrategy s strategyId
  panicIf (config.isActive = false) "Strategy not active"
  let gains ← positivePart reportedBalance config.currentBalance "Gains underflow"
  let losses ← positivePart config.currentBalance reportedBalance "Losses underflow"
  let performanceFee ← gainFee s gains
  let totalAssets ← assetsAfterHarvest s.totalAssets config.currentBalance reportedBalance gains
    performanceFee
  let highWaterMark := if totalAssets > s.highWaterMark then totalAssets else s.highWaterMark
  let totalGains ← I128.checked (config.totalGains + gains) "Gains overflow"
  let totalLosses ← I128.checked (config.totalLosses + losses) "Losses overflow"
  let config := { config with
    currentBalance := reportedBalance, totalGains, totalLosses, lastHarvestAt := env.timestamp }
  let s := { s with
    strategy := s.strategy.set strategyId config, totalAssets, highWaterMark }
  let s ← collectFee s performanceFee
  .ok ({ strategyId, gains, performanceFee, newTotalAssets := totalAssets
         newHighWaterMark := highWaterMark }, s)

def emergencyStrategyWithdrawal (env : Env) (admin : Address) (strategyId : String)
    (s : State τ) : Result (State τ) := do
  requireAuth env admin
  assertAdmin s admin
  let config ← loadStrategy s strategyId
  panicIf (config.isActive = false) "Strategy not active"
  if config.allocatedAssets ≤ 0 then .ok s
  else .ok { s with
    strategy := s.strategy.set strategyId
      { config with allocatedAssets := 0, currentBalance := 0 } }

def queueWithdrawal (env : Env) (user : Address) (shares : ℤ) (s : State τ) :
    Result (ℕ × State τ) := do
  requireAuth env user
  panicIf (shares ≤ 0) "Shares must be positive"
  let record := loadUserDeposit s user
  panicIf (record.shares < shares) "Insufficient shares"
  panicIf (s.totalSupply ≤ 0) "No assets in vault"
  let estimatedAssets ← calculateAssetsForWithdrawal shares s.totalAssets s.totalSupply
  panicIf (estimatedAssets < s.minQueuedWithdrawal) "Below minimum queued withdrawal amount"
  let userShares ← I128.checked (record.shares - shares) "Underflow"
  let record := { record with shares := userShares, lastWithdrawalAt := env.timestamp }
  let s := { s with userDeposit := s.userDeposit.set user record }
  let requestId ← U64.checked (s.withdrawalQueueCounter + 1) "Overflow"
  let item : WithdrawalQueueItem := {
    requestId, user, shares, estimatedAssets, requestedAt := env.timestamp, processed := false }
  .ok (requestId, { s with
    withdrawalQueueCounter := requestId
    withdrawalQueueItem := s.withdrawalQueueItem.set requestId item
    withdrawalQueueIds := s.withdrawalQueueIds ++ [requestId] })

def processWithdrawalQueue (requestId : ℕ) (s : State τ) : Result (ℤ × State τ) := do
  let item ← loadQueueItem s requestId
  panicIf (item.processed = true) "Already processed"
  let assets ← calculateAssetsForWithdrawal item.shares s.totalAssets s.totalSupply
  let totalSupply ← I128.checked (s.totalSupply - item.shares) "Underflow"
  let totalAssets ← I128.checked (s.totalAssets - assets) "Underflow"
  let totalWithdrawals ← I128.checked (s.totalWithdrawals + assets) "Overflow"
  let s := { s with totalSupply, totalAssets, totalWithdrawals }
  let s := { s with
    withdrawalQueueItem := s.withdrawalQueueItem.set requestId { item with processed := true } }
  let token ← getToken s
  let s ← transferToken tok s token self item.user assets
  .ok (assets, s)

def previewWithdraw (shares : ℤ) (s : State τ) : Result ℤ :=
  calculateAssetsForWithdrawal shares s.totalAssets s.totalSupply

inductive Op where
  | initializeContract (admin token : Address)
  | deposit (user : Address) (amount : ℤ)
  | withdraw (user : Address) (shares : ℤ)
  | emergencyWithdraw (user : Address)
  | governanceWithdraw (admin recipient : Address) (amount : ℤ)
  | pause (admin : Address)
  | unpause (admin : Address)
  | setPerformanceFee (admin : Address) (feeBps : ℕ)
  | withdrawFees (admin recipient : Address)
  | addStrategy (admin : Address) (strategyId : String) (strategyAddress : Address)
  | removeStrategy (admin : Address) (strategyId : String)
  | setStrategyAllocation (admin : Address) (strategyId : String) (allocBps : ℕ)
  | migrateStrategy (admin : Address) (fromStrategyId toStrategyId : String)
  | harvestStrategy (strategyId : String) (reportedBalance : ℤ)
  | emergencyStrategyWithdrawal (admin : Address) (strategyId : String)
  | queueWithdrawal (user : Address) (shares : ℤ)
  | processWithdrawalQueue (requestId : ℕ)

/-- The state an invocation leaves behind. -/
def invoke (env : Env) (op : Op) (s : State τ) : Result (State τ) :=
  match op with
  | .initializeContract admin token => initializeContract env admin token s
  | .deposit user amount => (deposit tok self env user amount s).map (·.2)
  | .withdraw user shares => (withdraw tok self env user shares s).map (·.2)
  | .emergencyWithdraw user => (emergencyWithdraw tok self env user s).map (·.2)
  | .governanceWithdraw admin recipient amount =>
    governanceWithdraw tok self env admin recipient amount s
  | .pause admin => pause env admin s
  | .unpause admin => unpause env admin s
  | .setPerformanceFee admin feeBps => setPerformanceFee env admin feeBps s
  | .withdrawFees admin recipient => withdrawFees tok self env admin recipient s
  | .addStrategy admin id address => addStrategy env admin id address s
  | .removeStrategy admin id => removeStrategy env admin id s
  | .setStrategyAllocation admin id bps => setStrategyAllocation env admin id bps s
  | .migrateStrategy admin source target => migrateStrategy env admin source target s
  | .harvestStrategy id reported => (harvestStrategy env id reported s).map (·.2)
  | .emergencyStrategyWithdrawal admin id => emergencyStrategyWithdrawal env admin id s
  | .queueWithdrawal user shares => (queueWithdrawal env user shares s).map (·.2)
  | .processWithdrawalQueue id => (processWithdrawalQueue tok self id s).map (·.2)

inductive Action (τ : Type) where
  | call (env : Env) (op : Op)
  | transfers (tokens : τ)

def next (a : Action τ) (s : State τ) : Result (State τ) :=
  match a with
  | .call env op => invoke tok self env op s
  | .transfers tokens => .ok { s with tokens }

end Vault
