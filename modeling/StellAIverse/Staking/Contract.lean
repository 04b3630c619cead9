import StellAIverse.Soroban.Token

/-!
# The staking contract

Stakes in tiers with a lock, an early-exit penalty and a reward multiplier, and
one reward-per-token accumulator for all of them. Principal, penalties and
rewards share a single token. Storage and every entry point, in the order of the
source; events are left out.
-/

namespace Staking

open Soroban

def bpsDenominator : ℤ := 10000

def precisionFactor : ℤ := 10 ^ 18

def maxTiers : ℕ := 10

def maxBatchSize : ℕ := 50

def maxPenaltyBps : ℕ := 10000

structure StakePosition where
  stakeId : ℕ
  user : Address
  amount : ℤ
  tierId : ℕ
  stakeTime : ℕ
  lockEndTime : ℕ
  rewardPerTokenPaid : ℤ
  active : Bool

structure StakingTier where
  tierId : ℕ
  name : String
  minStakeAmount : ℤ
  lockDurationSeconds : ℕ
  rewardMultiplierBps : ℕ
  penaltyBps : ℕ
  active : Bool
  createdAt : ℕ

structure StakeResult where
  stakeId : ℕ
  amount : ℤ
  tierId : ℕ
  lockEndTime : ℕ

structure UnstakeResult where
  stakeId : ℕ
  principalReturned : ℤ
  rewardsClaimed : ℤ
  penaltyAmount : ℤ
  totalReturned : ℤ

/-- Contract storage together with the token state. -/
structure State (τ : Type) where
  admin : Option Address
  rewardToken : Option Address
  paused : Bool
  rewardRatePerSecond : ℤ
  lastRewardTime : ℕ
  rewardPerTokenStored : ℤ
  totalWeightedStake : ℤ
  totalStaked : ℤ
  totalRewardsDistributed : ℤ
  stakeCounter : ℕ
  stakePosition : Store ℕ StakePosition
  userStakeIds : Store Address (List ℕ)
  tierCounter : ℕ
  tier : Store ℕ StakingTier
  tierIds : List ℕ
  reentrancyLock : Bool
  tokens : τ

variable {τ : Type}

/-- Empty storage, with the default of every getter. -/
def deployed (tokens : τ) : State τ where
  admin := none
  rewardToken := none
  paused := false
  rewardRatePerSecond := 0
  lastRewardTime := 0
  rewardPerTokenStored := 0
  totalWeightedStake := 0
  totalStaked := 0
  totalRewardsDistributed := 0
  stakeCounter := 0
  stakePosition := .empty
  userStakeIds := .empty
  tierCounter := 0
  tier := .empty
  tierIds := []
  reentrancyLock := false
  tokens := tokens

def assertAdmin (s : State τ) (caller : Address) : Result Unit := do
  let admin ← expect s.admin "Contract not initialized"
  panicIf (caller ≠ admin) "Unauthorized: caller is not admin"

def getRewardToken (s : State τ) : Result Address :=
  expect s.rewardToken "Contract not initialized"

def loadStake (s : State τ) (stakeId : ℕ) : Result StakePosition := do
  panicIf (stakeId = 0) "Invalid stake ID"
  expect (s.stakePosition.get? stakeId) "Stake not found"

def loadTier (s : State τ) (tierId : ℕ) : Result StakingTier := do
  panicIf (tierId = 0) "Invalid tier ID"
  expect (s.tier.get? tierId) "Tier not found"

def getUserStakeIds (s : State τ) (user : Address) : List ℕ := (s.userStakeIds.get? user).getD []

/-- The weighted stake of a position, in base units. -/
def calculateWeight (amount : ℤ) (multiplierBps : ℕ) : Result ℤ := do
  let product ← I128.checked (amount * multiplierBps) "Weight overflow"
  I128.div product bpsDenominator

/-- `reward_rate * elapsed * PRECISION_FACTOR / total_weighted`. -/
def rewardIncrement (rewardRate : ℤ) (elapsed : ℕ) (totalWeighted : ℤ) : Result ℤ := do
  let reward ← I128.checked (rewardRate * elapsed) "Reward increment overflow"
  let scaled ← I128.checked (reward * precisionFactor) "Reward increment precision overflow"
  I128.div scaled totalWeighted

/-- Bring the accumulator up to the ledger time. -/
def updatePool (env : Env) (s : State τ) : Result (State τ) :=
  if env.timestamp ≤ s.lastRewardTime then .ok s
  else if s.totalWeightedStake ≤ 0 then .ok { s with lastRewardTime := env.timestamp }
  else do
    let increment ← rewardIncrement s.rewardRatePerSecond (env.timestamp - s.lastRewardTime)
      s.totalWeightedStake
    let newRpt ← I128.checked (s.rewardPerTokenStored + increment) "Reward per token overflow"
    .ok { s with rewardPerTokenStored := newRpt, lastRewardTime := env.timestamp }

/-- What `reward_per_token` would be if the pool were updated now. -/
def futureRewardPerToken (env : Env) (s : State τ) : Result ℤ :=
  if env.timestamp > s.lastRewardTime then do
    let increment ← rewardIncrement s.rewardRatePerSecond (env.timestamp - s.lastRewardTime)
      s.totalWeightedStake
    I128.checked (s.rewardPerTokenStored + increment) "Reward per token overflow"
  else .ok s.rewardPerTokenStored

def calculatePendingRewardsStatic (env : Env) (s : State τ) (position : StakePosition)
    (multiplierBps : ℕ) : Result ℤ :=
  if position.active = false then .ok 0
  else if s.totalWeightedStake ≤ 0 then .ok 0
  else do
    let futureRpt ← futureRewardPerToken env s
    let userWeight ← calculateWeight position.amount multiplierBps
    let rptDiff ← I128.checked (futureRpt - position.rewardPerTokenPaid) "RPT diff underflow"
    let product ← I128.checked (rptDiff * userWeight) "Pending rewards overflow"
    I128.div product precisionFactor

def calculatePenalty (amount : ℤ) (penaltyBps : ℕ) : Result ℤ :=
  if penaltyBps = 0 then .ok 0 else do
    let product ← I128.checked (amount * penaltyBps) "Penalty multiplication overflow"
    I128.div product bpsDenominator

def enterNonReentrant (s : State τ) : Result (State τ) := do
  panicIf (s.reentrancyLock = true) "Reentrant call blocked"
  .ok { s with reentrancyLock := true }

def exitNonReentrant (s : State τ) : State τ := { s with reentrancyLock := false }

/-- The writes that end a position: it is deactivated and leaves both totals.
`unstake` and the two emergency exits share them. -/
def deactivate (s : State τ) (stakeId : ℕ) (position : StakePosition) (multiplierBps : ℕ) :
    Result (State τ) := do
  let s := { s with
    stakePosition := s.stakePosition.set stakeId { position with active := false } }
  let totalStaked ← I128.checked (s.totalStaked - position.amount) "Total staked underflow"
  let s := { s with totalStaked }
  let userWeight ← calculateWeight position.amount multiplierBps
  let totalWeightedStake ← I128.checked (s.totalWeightedStake - userWeight)
    "Total weighted underflow"
  .ok { s with totalWeightedStake }

/-- Rewards enter the running total. -/
def distributed (s : State τ) (rewards : ℤ) : Result (State τ) := do
  let totalRewards ← I128.checked (s.totalRewardsDistributed + rewards) "Total rewards overflow"
  .ok { s with totalRewardsDistributed := totalRewards }

/-- `if rewards > 0 { .. }` around it, as in `unstake`. -/
def distributedPositive (s : State τ) (rewards : ℤ) : Result (State τ) :=
  if rewards > 0 then distributed s rewards else .ok s

variable (tok : Token τ) (self : Address)

def transferTokenUnchecked (s : State τ) (token source target : Address) (amount : ℤ) :
    Result (State τ) := do
  panicIf (amount ≤ 0) "Transfer amount must be positive"
  let tokens ← tok.pay s.tokens token source target amount
  .ok { s with tokens }

def transferToken (s : State τ) (token source target : Address) (amount : ℤ) :
    Result (State τ) := do
  let s ← enterNonReentrant s
  let s ← transferTokenUnchecked tok s token source target amount
  .ok (exitNonReentrant s)

def initializeContract (env : Env) (admin rewardToken : Address) (rewardRatePerSecond : ℤ)
    (s : State τ) : Result (State τ) := do
  panicIf (s.admin.isSome = true) "Already initialized"
  requireAuth env admin
  panicIf (rewardRatePerSecond < 0) "Reward rate cannot be negative"
  .ok { s with
    admin := some admin, rewardToken := some rewardToken, paused := false, rewardRatePerSecond
    lastRewardTime := env.timestamp, rewardPerTokenStored := 0, totalWeightedStake := 0
    totalStaked := 0, totalRewardsDistributed := 0, stakeCounter := 0, tierCounter := 0
    tierIds := [], reentrancyLock := false }

def pause (env : Env) (admin : Address) (s : State τ) : Result (State τ) := do
  requireAuth env admin
  assertAdmin s admin
  panicIf (s.paused = true) "Already paused"
  .ok { s with paused := true }

def unpause (env : Env) (admin : Address) (s : State τ) : Result (State τ) := do
  requireAuth env admin
  assertAdmin s admin
  panicIf (s.paused = false) "Not paused"
  .ok { s with paused := false }

def setRewardRate (env : Env) (admin : Address) (newRate : ℤ) (s : State τ) :
    Result (State τ) := do
  requireAuth env admin
  assertAdmin s admin
  panicIf (newRate < 0) "Reward rate cannot be negative"
  let s ← updatePool env s
  .ok { s with rewardRatePerSecond := newRate }

def addTier (env : Env) (admin : Address) (name : String) (minStakeAmount : ℤ)
    (lockDurationSeconds rewardMultiplierBps penaltyBps : ℕ) (s : State τ) :
    Result (ℕ × State τ) := do
  requireAuth env admin
  assertAdmin s admin
  panicIf (minStakeAmount ≤ 0) "Minimum stake amount must be positive"
  panicIf (lockDurationSeconds = 0) "Lock duration must be positive"
  panicIf (rewardMultiplierBps = 0) "Reward multiplier must be positive"
  panicIf (penaltyBps > maxPenaltyBps) "Penalty exceeds 100%"
  panicIf (s.tierIds.length ≥ maxTiers) "Maximum tiers reached"
  let tierId ← U32.checked (s.tierCounter + 1) "Tier ID overflow"
  let tier : StakingTier := {
    tierId, name, minStakeAmount, lockDurationSeconds, rewardMultiplierBps, penaltyBps
    active := true, createdAt := env.timestamp }
  .ok (tierId, { s with
    tierCounter := tierId, tier := s.tier.set tierId tier, tierIds := s.tierIds ++ [tierId] })

/-- What an update may replace; an absent field is kept. -/
structure TierUpdate where
  name : Option String
  minStakeAmount : Option ℤ
  lockDurationSeconds : Option ℕ
  rewardMultiplierBps : Option ℕ
  penaltyBps : Option ℕ

/-- `if let Some(value) = new { if bad(value) { panic!(message) } .. }`. -/
def rejectIf {α : Type} (new : Option α) (bad : α → Prop) [DecidablePred bad]
    (message : String) : Result Unit :=
  match new with
  | some value => panicIf (bad value) message
  | none => .ok ()

def updateTier (env : Env) (admin : Address) (tierId : ℕ) (new : TierUpdate) (s : State τ) :
    Result (StakingTier × State τ) := do
  requireAuth env admin
  assertAdmin s admin
  let tier ← loadTier s tierId
  panicIf (tier.active = false) "Tier is not active"
  rejectIf new.minStakeAmount (· ≤ 0) "Minimum stake amount must be positive"
  rejectIf new.lockDurationSeconds (· = 0) "Lock duration must be positive"
  rejectIf new.rewardMultiplierBps (· = 0) "Reward multiplier must be positive"
  rejectIf new.penaltyBps (· > maxPenaltyBps) "Penalty exceeds 100%"
  let tier := { tier with
    name := new.name.getD tier.name
    minStakeAmount := new.minStakeAmount.getD tier.minStakeAmount
    lockDurationSeconds := new.lockDurationSeconds.getD tier.lockDurationSeconds
    rewardMultiplierBps := new.rewardMultiplierBps.getD tier.rewardMultiplierBps
    penaltyBps := new.penaltyBps.getD tier.penaltyBps }
  .ok (tier, { s with tier := s.tier.set tierId tier })

def deactivateTier (env : Env) (admin : Address) (tierId : ℕ) (s : State τ) :
    Result (State τ) := do
  requireAuth env admin
  assertAdmin s admin
  let tier ← loadTier s tierId
  panicIf (tier.active = false) "Tier already inactive"
  .ok { s with tier := s.tier.set tierId { tier with active := false } }

def stake (env : Env) (user : Address) (amount : ℤ) (tierId : ℕ) (s : State τ) :
    Result (StakeResult × State τ) := do
  requireAuth env user
  panicIf (s.paused = true) "Staking is paused"
  panicIf (amount ≤ 0) "Stake amount must be positive"
  let tier ← loadTier s tierId
  panicIf (tier.active = false) "Tier is not active"
  panicIf (amount < tier.minStakeAmount) "Amount below tier minimum"
  let s ← updatePool env s
  let lockEndTime ← U64.checked (env.timestamp + tier.lockDurationSeconds)
    "Lock end time overflow"
  let stakeId ← U64.checked (s.stakeCounter + 1) "Stake ID overflow"
  let position : StakePosition := {
    stakeId, user, amount, tierId, stakeTime := env.timestamp, lockEndTime
    rewardPerTokenPaid := s.rewardPerTokenStored, active := true }
  let s := { s with
    stakeCounter := stakeId
    stakePosition := s.stakePosition.set stakeId position
    userStakeIds := s.userStakeIds.set user (getUserStakeIds s user ++ [stakeId]) }
  let totalStaked ← I128.checked (s.totalStaked + amount) "Total staked overflow"
  let userWeight ← calculateWeight amount tier.rewardMultiplierBps
  let totalWeightedStake ← I128.checked (s.totalWeightedStake + userWeight)
    "Total weighted overflow"
  let s := { s with totalStaked, totalWeightedStake }
  let token ← getRewardToken s
  let s ← transferToken tok s token user self amount
  .ok ({ stakeId, amount, tierId, lockEndTime }, s)

/-- Penalty and returned principal; the penalty is due before the lock ends. -/
def exitTerms (env : Env) (position : StakePosition) (penaltyBps : ℕ) : Result (ℤ × ℤ) :=
  if env.timestamp < position.lockEndTime then do
    let penalty ← calculatePenalty position.amount penaltyBps
    let netPrincipal ← I128.checked (position.amount - penalty) "Penalty exceeds principal"
    .ok (penalty, netPrincipal)
  else .ok (0, position.amount)

/-- `if amount > 0 { transfer_token_unchecked(..) }`. -/
def transferPositive (s : State τ) (token source target : Address) (amount : ℤ) :
    Result (State τ) :=
  if amount > 0 then transferTokenUnchecked tok s token source target amount else .ok s

def unstake (env : Env) (user : Address) (stakeId : ℕ) (s : State τ) :
    Result (UnstakeResult × State τ) := do
  requireAuth env user
  let position ← loadStake s stakeId
  panicIf (position.user ≠ user) "Only staker can unstake"
  panicIf (position.active = false) "Stake is not active"
  let tier ← loadTier s position.tierId
  let pendingRewards ← calculatePendingRewardsStatic env s position tier.rewardMultiplierBps
  let s ← updatePool env s
  let (penaltyAmount, principalReturned) ← exitTerms env position tier.penaltyBps
  let totalReturned ← I128.checked (principalReturned + pendingRewards) "Total returned overflow"
  let s ← deactivate s stakeId position tier.rewardMultiplierBps
  let s ← distributedPositive s pendingRewards
  let token ← getRewardToken s
  let s ← enterNonReentrant s
  let s ← transferPositive tok s token self user principalReturned
  let s ← transferPositive tok s token self user pendingRewards
  .ok ({ stakeId, principalReturned, rewardsClaimed := pendingRewards, penaltyAmount
         totalReturned }, exitNonReentrant s)

def claimRewards (env : Env) (user : Address) (stakeId : ℕ) (s : State τ) :
    Result (ℤ × State τ) := do
  requireAuth env user
  let position ← loadStake s stakeId
  panicIf (position.user ≠ user) "Only staker can claim"
  panicIf (position.active = false) "Stake is not active"
  let tier ← loadTier s position.tierId
  let pendingRewards ← calculatePendingRewardsStatic env s position tier.rewardMultiplierBps
  panicIf (pendingRewards ≤ 0) "No rewards to claim"
  let s ← updatePool env s
  let position := { position with rewardPerTokenPaid := s.rewardPerTokenStored }
  let s := { s with stakePosition := s.stakePosition.set stakeId position }
  let s ← distributed s pendingRewards
  let token ← getRewardToken s
  let s ← transferToken tok s token self user pendingRewards
  .ok (pendingRewards, s)

/-- First pass: what is pending on each listed stake, before the pool moves. -/
def pendingList (env : Env) (user : Address) (s : State τ) : List ℕ → Result (List ℤ)
  | [] => .ok []
  | stakeId :: rest => do
    let position ← loadStake s stakeId
    panicIf (position.user ≠ user) "Only staker can claim"
    panicIf (position.active = false) "Stake is not active"
    let tier ← loadTier s position.tierId
    let pending ← calculatePendingRewardsStatic env s position tier.rewardMultiplierBps
    let pendings ← pendingList env user s rest
    .ok (pending :: pendings)

/-- Second pass: move the snapshots of the stakes that are paid. -/
def settleList (currentRpt : ℤ) : List (ℕ × ℤ) → ℤ → State τ → Result (ℤ × State τ)
  | [], totalClaimed, s => .ok (totalClaimed, s)
  | (stakeId, pending) :: rest, totalClaimed, s =>
    if pending > 0 then do
      let position ← loadStake s stakeId
      let s := { s with
        stakePosition := s.stakePosition.set stakeId
          { position with rewardPerTokenPaid := currentRpt } }
      let totalClaimed ← I128.checked (totalClaimed + pending) "Total claimed overflow"
      settleList currentRpt rest totalClaimed s
    else settleList currentRpt rest totalClaimed s

def claimRewardsBatch (env : Env) (user : Address) (stakeIds : List ℕ) (s : State τ) :
    Result (ℤ × State τ) := do
  requireAuth env user
  panicIf (stakeIds = []) "No stakes provided"
  panicIf (stakeIds.length > maxBatchSize) "Batch exceeds maximum size"
  let pendings ← pendingList env user s stakeIds
  let s ← updatePool env s
  let (totalClaimed, s) ← settleList s.rewardPerTokenStored (stakeIds.zip pendings) 0 s
  panicIf (totalClaimed ≤ 0) "No rewards to claim"
  let s ← distributed s totalClaimed
  let token ← getRewardToken s
  let s ← transferToken tok s token self user totalClaimed
  .ok (totalClaimed, s)

/-- Principal only; the accumulator is not updated. -/
def emergencyWithdraw (env : Env) (admin user : Address) (stakeId : ℕ) (s : State τ) :
    Result (UnstakeResult × State τ) := do
  requireAuth env admin
  assertAdmin s admin
  let position ← loadStake s stakeId
  panicIf (position.user ≠ user) "Stake does not belong to user"
  panicIf (position.active = false) "Stake is not active"
  let tier ← loadTier s position.tierId
  let s ← deactivate s stakeId position tier.rewardMultiplierBps
  let token ← getRewardToken s
  let s ← transferToken tok s token self user position.amount
  .ok ({ stakeId, principalReturned := position.amount, rewardsClaimed := 0, penaltyAmount := 0
         totalReturned := position.amount }, s)

/-- The loop of `emergency_withdraw_all` over the user's stake ids. -/
def deactivateAll (user : Address) : List ℕ → ℤ → State τ → Result (ℤ × State τ)
  | [], totalReturned, s => .ok (totalReturned, s)
  | stakeId :: rest, totalReturned, s => do
    let position ← loadStake s stakeId
    if position.user ≠ user ∨ position.active = false then deactivateAll user rest totalReturned s
    else do
      let tier ← loadTier s position.tierId
      let s ← deactivate s stakeId position tier.rewardMultiplierBps
      let totalReturned ← I128.checked (totalReturned + position.amount) "Total returned overflow"
      deactivateAll user rest totalReturned s

def emergencyWithdrawAll (env : Env) (admin user : Address) (s : State τ) :
    Result (ℤ × State τ) := do
  requireAuth env admin
  assertAdmin s admin
  let (totalReturned, s) ← deactivateAll user (getUserStakeIds s user) 0 s
  if totalReturned > 0 then do
    let token ← getRewardToken s
    let s ← transferToken tok s token self user totalReturned
    .ok (totalReturned, s)
  else .ok (totalReturned, s)

def fundRewards (env : Env) (funder : Address) (amount : ℤ) (s : State τ) :
    Result (State τ) := do
  requireAuth env funder
  panicIf (amount ≤ 0) "Amount must be positive"
  let token ← getRewardToken s
  transferToken tok s token funder self amount

def getPendingRewards (env : Env) (stakeId : ℕ) (s : State τ) : Result ℤ := do
  let position ← loadStake s stakeId
  if position.active = false then .ok 0
  else do
    let tier ← loadTier s position.tierId
    calculatePendingRewardsStatic env s position tier.rewardMultiplierBps

inductive Op where
  | initializeContract (admin rewardToken : Address) (rewardRatePerSecond : ℤ)
  | pause (admin : Address)
  | unpause (admin : Address)
  | setRewardRate (admin : Address) (newRate : ℤ)
  | addTier (admin : Address) (name : String) (minStakeAmount : ℤ)
      (lockDurationSeconds rewardMultiplierBps penaltyBps : ℕ)
  | updateTier (admin : Address) (tierId : ℕ) (new : TierUpdate)
  | deactivateTier (admin : Address) (tierId : ℕ)
  | stake (user : Address) (amount : ℤ) (tierId : ℕ)
  | unstake (user : Address) (stakeId : ℕ)
  | claimRewards (user : Address) (stakeId : ℕ)
  | claimRewardsBatch (user : Address) (stakeIds : List ℕ)
  | emergencyWithdraw (admin user : Address) (stakeId : ℕ)
  | emergencyWithdrawAll (admin user : Address)
  | fundRewards (funder : Address) (amount : ℤ)

/-- The state an invocation leaves behind. -/
def invoke (env : Env) (op : Op) (s : State τ) : Result (State τ) :=
  match op with
  | .initializeContract admin token rate => initializeContract env admin token rate s
  | .pause admin => pause env admin s
  | .unpause admin => unpause env admin s
  | .setRewardRate admin rate => setRewardRate env admin rate s
  | .addTier admin name least lock multiplier penalty =>
    (addTier env admin name least lock multiplier penalty s).map (·.2)
  | .updateTier admin id new => (updateTier env admin id new s).map (·.2)
  | .deactivateTier admin id => deactivateTier env admin id s
  | .stake user amount tierId => (stake tok self env user amount tierId s).map (·.2)
  | .unstake user id => (unstake tok self env user id s).map (·.2)
  | .claimRewards user id => (claimRewards tok self env user id s).map (·.2)
  | .claimRewardsBatch user ids => (claimRewardsBatch tok self env user ids s).map (·.2)
  | .emergencyWithdraw admin user id => (emergencyWithdraw tok self env admin user id s).map (·.2)
  | .emergencyWithdrawAll admin user => (emergencyWithdrawAll tok self env admin user s).map (·.2)
  | .fundRewards funder amount => fundRewards tok self env funder amount s

/-- An invocation, or transfers of tokens in which the contract has no part. -/
inductive Action (τ : Type) where
  | call (env : Env) (op : Op)
  | transfers (tokens : τ)

def next (a : Action τ) (s : State τ) : Result (State τ) :=
  match a with
  | .call env op => invoke tok self env op s
  | .transfers tokens => .ok { s with tokens }

end Staking
