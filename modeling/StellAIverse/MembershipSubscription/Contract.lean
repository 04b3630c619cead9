import StellAIverse.Soroban.Allowance

/-!
# The membership subscriptions

A member subscribes to a tier, with a trial if the tier has one, renews, pauses,
changes the tier and cancels; unused time is refunded at the price of the tier,
and referrers are rewarded from each payment. Storage and every entry point that
writes, in the order of the source; events and the getters are left out.
-/

namespace MembershipSubscription

open Soroban

def bpsDenominator : ℤ := 10000

def maxReferralRewardBps : ℕ := 5000

def maxTierNameLength : ℕ := 64

inductive SubscriptionStatus where
  | trial
  | active
  | paused
  | cancelled
  | expired
  deriving DecidableEq, Repr

structure MembershipTier where
  tierId : ℕ
  name : String
  pricePerPeriod : ℤ
  periodSeconds : ℕ
  trialSeconds : ℕ
  benefitFlags : ℕ
  referralRewardBps : ℕ
  active : Bool
  createdAt : ℕ
  updatedAt : ℕ

structure Subscription where
  member : Address
  tierId : ℕ
  token : Address
  status : SubscriptionStatus
  autoRenew : Bool
  startedAt : ℕ
  currentPeriodStart : ℕ
  currentPeriodEnd : ℕ
  trialEnd : ℕ
  pausedAt : ℕ
  pausedAccumulatedSeconds : ℕ
  referrer : Option Address
  totalPaid : ℤ
  totalReferralRewards : ℤ
  updatedAt : ℕ

structure SubscriptionAnalytics where
  totalSubscriptions : ℕ
  activeSubscriptions : ℕ
  cancelledSubscriptions : ℕ
  expiredSubscriptions : ℕ
  pausedSubscriptions : ℕ
  totalRevenue : ℤ
  totalRefunds : ℤ
  totalReferralRewards : ℤ

def SubscriptionAnalytics.empty : SubscriptionAnalytics := ⟨0, 0, 0, 0, 0, 0, 0, 0⟩

structure RenewalResult where
  chargedAmount : ℤ
  referralReward : ℤ
  periodStart : ℕ
  periodEnd : ℕ
  status : SubscriptionStatus

structure TierChangeResult where
  oldTierId : ℕ
  newTierId : ℕ
  chargeAmount : ℤ
  refundAmount : ℤ
  periodStart : ℕ
  periodEnd : ℕ

structure ProrationQuote where
  remainingCredit : ℤ
  chargeAmount : ℤ
  refundAmount : ℤ

/-- Contract storage together with the token state. -/
structure State (τ : Type) where
  admin : Option Address
  tier : Store ℕ MembershipTier
  tierIds : List ℕ
  subscription : Store Address Subscription
  analytics : SubscriptionAnalytics
  referralRewards : Store Address ℤ
  reentrancyLock : Bool
  tokens : τ

variable {τ : Type}

/-- Empty storage, with the default of every getter. -/
def deployed (tokens : τ) : State τ where
  admin := none
  tier := .empty
  tierIds := []
  subscription := .empty
  analytics := .empty
  referralRewards := .empty
  reentrancyLock := false
  tokens := tokens

def assertAdmin (s : State τ) (caller : Address) : Result Unit := do
  let admin ← expect s.admin "Contract not initialized"
  panicIf (caller ≠ admin) "Unauthorized: caller is not admin"

def loadTier (s : State τ) (tierId : ℕ) : Result MembershipTier := do
  panicIf (tierId = 0) "Invalid tier ID"
  expect (s.tier.get? tierId) "Tier not found"

def loadActiveTier (s : State τ) (tierId : ℕ) : Result MembershipTier := do
  let tier ← loadTier s tierId
  panicIf (tier.active = false) "Tier is inactive"
  .ok tier

def loadSubscription (s : State τ) (member : Address) : Result Subscription :=
  expect (s.subscription.get? member) "Subscription not found"

def setSubscription (key : Address) (subscription : Subscription) (s : State τ) : State τ :=
  { s with subscription := s.subscription.set key subscription }

def isNonTerminal (status : SubscriptionStatus) : Bool :=
  status = .active || status = .trial || status = .paused

def validateTierTerms (name : String) (pricePerPeriod : ℤ) (periodSeconds referralRewardBps : ℕ) :
    Result Unit := do
  panicIf (name.utf8ByteSize > maxTierNameLength) "Tier name exceeds maximum length"
  panicIf (pricePerPeriod ≤ 0) "Tier price must be positive"
  panicIf (periodSeconds = 0) "Period must be positive"
  panicIf (referralRewardBps > maxReferralRewardBps) "Referral reward too high"

def recordSubscriptionCreated (s : State τ) : Result (State τ) := do
  let totalSubscriptions ←
    U64.checked (s.analytics.totalSubscriptions + 1) "Subscription count overflow"
  let activeSubscriptions ← U64.checked (s.analytics.activeSubscriptions + 1) "Active count overflow"
  .ok { s with analytics := { s.analytics with totalSubscriptions, activeSubscriptions } }

def recordRevenue (revenue referralReward : ℤ) (s : State τ) : Result (State τ) := do
  let totalRevenue ← I128.checked (s.analytics.totalRevenue + revenue) "Revenue overflow"
  let totalReferralRewards ←
    I128.checked (s.analytics.totalReferralRewards + referralReward) "Referral analytics overflow"
  .ok { s with analytics := { s.analytics with totalRevenue, totalReferralRewards } }

def recordRefund (refund : ℤ) (s : State τ) : Result (State τ) := do
  let totalRefunds ← I128.checked (s.analytics.totalRefunds + refund) "Refund analytics overflow"
  .ok { s with analytics := { s.analytics with totalRefunds } }

def recordCancelled (refund : ℤ) (s : State τ) : Result (State τ) := do
  let cancelledSubscriptions ←
    U64.checked (s.analytics.cancelledSubscriptions + 1) "Cancelled count overflow"
  let totalRefunds ← I128.checked (s.analytics.totalRefunds + refund) "Refund analytics overflow"
  .ok { s with analytics := { s.analytics with
    cancelledSubscriptions
    activeSubscriptions := s.analytics.activeSubscriptions - 1
    totalRefunds } }

def recordExpired (s : State τ) : Result (State τ) := do
  let expiredSubscriptions ←
    U64.checked (s.analytics.expiredSubscriptions + 1) "Expired count overflow"
  .ok { s with analytics := { s.analytics with
    expiredSubscriptions
    activeSubscriptions := s.analytics.activeSubscriptions - 1 } }

def recordPaused (s : State τ) : Result (State τ) := do
  let pausedSubscriptions ← U64.checked (s.analytics.pausedSubscriptions + 1) "Paused count overflow"
  .ok { s with analytics := { s.analytics with pausedSubscriptions } }

def recordResumed (s : State τ) : State τ :=
  { s with analytics := { s.analytics with
    pausedSubscriptions := s.analytics.pausedSubscriptions - 1 } }

/-- What is left of the current period, at the present price of the tier. -/
def unusedPeriodValue (env : Env) (subscription : Subscription) (s : State τ) : Result ℤ :=
  if subscription.status = .trial then .ok 0
  else if subscription.currentPeriodEnd ≤ env.timestamp then .ok 0
  else do
    let tier ← loadTier s subscription.tierId
    let remaining ← U64.checkedSub subscription.currentPeriodEnd env.timestamp
      "Remaining time underflow"
    let product ← I128.checked (tier.pricePerPeriod * remaining) "Proration multiplication overflow"
    I128.div product tier.periodSeconds

def quoteProrationInner (env : Env) (subscription : Subscription) (newTier : MembershipTier)
    (s : State τ) : Result ProrationQuote := do
  let remainingCredit ← unusedPeriodValue env subscription s
  if newTier.pricePerPeriod > remainingCredit then do
    let chargeAmount ← I128.checked (newTier.pricePerPeriod - remainingCredit) "Charge underflow"
    .ok ⟨remainingCredit, chargeAmount, 0⟩
  else do
    let refundAmount ← I128.checked (remainingCredit - newTier.pricePerPeriod) "Refund underflow"
    .ok ⟨remainingCredit, 0, refundAmount⟩

def expireSubscription (env : Env) (subscription : Subscription) (s : State τ) :
    Result (Subscription × State τ) := do
  let subscription := { subscription with
    status := .expired, autoRenew := false, updatedAt := env.timestamp }
  let s ← recordExpired (setSubscription subscription.member subscription s)
  .ok (subscription, s)

variable (tok : AllowanceToken τ) (self : Address)

/-- The transfer between `enter_non_reentrant` and `exit_non_reentrant`. -/
def transferToken (token source target : Address) (amount : ℤ) (s : State τ) : Result (State τ) := do
  panicIf (amount ≤ 0) "Transfer amount must be positive"
  panicIf (s.reentrancyLock = true) "Reentrant call blocked"
  let tokens ← tok.pay s.tokens token source target amount
  .ok { s with tokens, reentrancyLock := false }

/-- The reward, the subscription and the state after it. -/
def payReferralReward (tier : MembershipTier) (subscription : Subscription) (s : State τ) :
    Result (ℤ × Subscription × State τ) :=
  match subscription.referrer with
  | none => .ok (0, subscription, s)
  | some referrer => do
    let product ← I128.checked (tier.pricePerPeriod * tier.referralRewardBps)
      "Referral reward overflow"
    let reward ← I128.div product bpsDenominator
    if reward ≤ 0 then .ok (0, subscription, s)
    else do
      let s ← transferToken tok subscription.token self referrer reward s
      let current ← I128.checked (s.referralRewards.amount referrer + reward)
        "Referral total overflow"
      let totalReferralRewards ← I128.checked (subscription.totalReferralRewards + reward)
        "Subscription reward overflow"
      .ok (reward, { subscription with totalReferralRewards },
        { s with referralRewards := s.referralRewards.set referrer current })

def chargeMemberDirect (member token : Address) (tier : MembershipTier) (subscription : Subscription)
    (s : State τ) : Result (ℤ × Subscription × State τ) := do
  let s ← transferToken tok token member self tier.pricePerPeriod s
  let (reward, subscription, s) ← payReferralReward tok self tier subscription s
  let totalPaid ← I128.checked (subscription.totalPaid + tier.pricePerPeriod)
    "Subscription paid overflow"
  .ok (reward, { subscription with totalPaid }, s)

def initializeContract (env : Env) (admin : Address) (s : State τ) : Result (State τ) := do
  panicIf (s.admin.isSome = true) "Already initialized"
  requireAuth env admin
  .ok { s with
    admin := some admin, tierIds := [], analytics := .empty, reentrancyLock := false }

def createTier (env : Env) (admin : Address) (tierId : ℕ) (name : String) (pricePerPeriod : ℤ)
    (periodSeconds trialSeconds benefitFlags referralRewardBps : ℕ) (s : State τ) :
    Result (State τ) := do
  requireAuth env admin
  assertAdmin s admin
  panicIf (tierId = 0) "Invalid tier ID"
  panicIf ((s.tier.get? tierId).isSome = true) "Tier already exists"
  validateTierTerms name pricePerPeriod periodSeconds referralRewardBps
  let tier : MembershipTier := {
    tierId, name, pricePerPeriod, periodSeconds, trialSeconds, benefitFlags, referralRewardBps
    active := true
    createdAt := env.timestamp
    updatedAt := env.timestamp }
  .ok { s with tier := s.tier.set tierId tier, tierIds := s.tierIds ++ [tierId] }

def updateTier (env : Env) (admin : Address) (tierId : ℕ) (name : String) (pricePerPeriod : ℤ)
    (periodSeconds trialSeconds benefitFlags referralRewardBps : ℕ) (active : Bool) (s : State τ) :
    Result (MembershipTier × State τ) := do
  requireAuth env admin
  assertAdmin s admin
  validateTierTerms name pricePerPeriod periodSeconds referralRewardBps
  let tier ← loadTier s tierId
  let tier := { tier with
    name, pricePerPeriod, periodSeconds, trialSeconds, benefitFlags, referralRewardBps, active
    updatedAt := env.timestamp }
  .ok (tier, { s with tier := s.tier.set tierId tier })

def subscribe (env : Env) (member token : Address) (tierId : ℕ) (autoRenew : Bool)
    (referrer : Option Address) (s : State τ) : Result (Subscription × State τ) := do
  requireAuth env member
  let tier ← loadActiveTier s tierId
  panicIf (∃ existing ∈ s.subscription.get? member, isNonTerminal existing.status = true)
    "Member already has subscription"
  panicIf (referrer = some member) "Member cannot refer themselves"
  let now := env.timestamp
  if tier.trialSeconds > 0 then do
    let periodEnd ← U64.checked (now + tier.trialSeconds) "Trial end overflow"
    let subscription : Subscription := {
      member, tierId, token
      status := .trial
      autoRenew
      startedAt := now
      currentPeriodStart := now
      currentPeriodEnd := periodEnd
      trialEnd := periodEnd
      pausedAt := 0
      pausedAccumulatedSeconds := 0
      referrer
      totalPaid := 0
      totalReferralRewards := 0
      updatedAt := now }
    let s ← recordSubscriptionCreated (setSubscription member subscription s)
    .ok (subscription, s)
  else do
    let periodEnd ← U64.checked (now + tier.periodSeconds) "Period end overflow"
    let subscription : Subscription := {
      member, tierId, token
      status := .active
      autoRenew
      startedAt := now
      currentPeriodStart := now
      currentPeriodEnd := periodEnd
      trialEnd := 0
      pausedAt := 0
      pausedAccumulatedSeconds := 0
      referrer
      totalPaid := 0
      totalReferralRewards := 0
      updatedAt := now }
    let (reward, subscription, s) ← chargeMemberDirect tok self member token tier subscription s
    let s ← recordRevenue tier.pricePerPeriod reward s
    let s ← recordSubscriptionCreated (setSubscription member subscription s)
    .ok (subscription, s)

/-- The subscription expires, and nothing is charged. -/
def declineRenewal (env : Env) (subscription : Subscription) (s : State τ) :
    Result (RenewalResult × State τ) := do
  let (subscription, s) ← expireSubscription env subscription s
  .ok (⟨0, 0, subscription.currentPeriodStart, subscription.currentPeriodEnd, subscription.status⟩, s)

def renewSubscription (env : Env) (member : Address) (s : State τ) :
    Result (RenewalResult × State τ) := do
  let subscription ← loadSubscription s member
  panicIf (subscription.status = .paused) "Paused subscription cannot renew"
  panicIf (isNonTerminal subscription.status = false) "Subscription is not renewable"
  panicIf (env.timestamp < subscription.currentPeriodEnd) "Subscription is not due"
  let tier ← loadActiveTier s subscription.tierId
  if subscription.autoRenew = false then declineRenewal env subscription s
  else if tok.allowance s.tokens subscription.token member self < tier.pricePerPeriod ∨
      tok.balance s.tokens subscription.token member < tier.pricePerPeriod then
    declineRenewal env subscription s
  else do
    panicIf (s.reentrancyLock = true) "Reentrant call blocked"
    let tokens ← tok.draw s.tokens subscription.token self member self tier.pricePerPeriod
    let s := { s with tokens, reentrancyLock := false }
    let (reward, subscription, s) ← payReferralReward tok self tier subscription s
    let totalPaid ← I128.checked (subscription.totalPaid + tier.pricePerPeriod)
      "Subscription paid overflow"
    let currentPeriodEnd ← U64.checked (env.timestamp + tier.periodSeconds) "Period end overflow"
    let subscription := { subscription with
      totalPaid
      status := .active
      currentPeriodStart := env.timestamp
      currentPeriodEnd
      trialEnd := 0
      updatedAt := env.timestamp }
    let s ← recordRevenue tier.pricePerPeriod reward (setSubscription member subscription s)
    .ok (⟨tier.pricePerPeriod, reward, subscription.currentPeriodStart,
      subscription.currentPeriodEnd, subscription.status⟩, s)

def cancelSubscription (env : Env) (member : Address) (s : State τ) : Result (ℤ × State τ) := do
  requireAuth env member
  let subscription ← loadSubscription s member
  panicIf (isNonTerminal subscription.status = false) "Subscription already terminal"
  let refund ← unusedPeriodValue env subscription s
  let subscription := { subscription with
    status := .cancelled, autoRenew := false, updatedAt := env.timestamp }
  let s ← recordCancelled refund (setSubscription member subscription s)
  if refund > 0 then do
    let s ← transferToken tok subscription.token self member refund s
    .ok (refund, s)
  else .ok (refund, s)

def pauseSubscription (env : Env) (member : Address) (s : State τ) : Result (State τ) := do
  requireAuth env member
  let subscription ← loadSubscription s member
  panicIf (subscription.status ≠ .active ∧ subscription.status ≠ .trial)
    "Subscription cannot be paused"
  let subscription := { subscription with
    status := .paused, pausedAt := env.timestamp, updatedAt := env.timestamp }
  recordPaused (setSubscription member subscription s)

/-- The end of a trial that was running when the pause began is moved with it. -/
def extendTrial (subscription : Subscription) (pausedDuration : ℕ) : Result ℕ :=
  if subscription.trialEnd ≥ subscription.pausedAt ∧ subscription.trialEnd > 0 then
    U64.checked (subscription.trialEnd + pausedDuration) "Trial extension overflow"
  else .ok subscription.trialEnd

def resumeSubscription (env : Env) (member : Address) (s : State τ) :
    Result (Subscription × State τ) := do
  requireAuth env member
  let subscription ← loadSubscription s member
  panicIf (subscription.status ≠ .paused) "Subscription is not paused"
  let now := env.timestamp
  let pausedDuration ← U64.checkedSub now subscription.pausedAt "Resume before pause"
  let pausedAccumulatedSeconds ←
    U64.checked (subscription.pausedAccumulatedSeconds + pausedDuration) "Paused duration overflow"
  let currentPeriodEnd ←
    U64.checked (subscription.currentPeriodEnd + pausedDuration) "Period extension overflow"
  let trialEnd ← extendTrial subscription pausedDuration
  let subscription := { subscription with
    pausedAccumulatedSeconds
    currentPeriodEnd
    trialEnd
    status := if trialEnd > now then .trial else .active
    pausedAt := 0
    updatedAt := now }
  .ok (subscription, recordResumed (setSubscription member subscription s))

/-- A more expensive tier is paid for at once. -/
def chargeDifference (member : Address) (quote : ProrationQuote) (subscription : Subscription)
    (s : State τ) : Result (Subscription × State τ) :=
  if quote.chargeAmount > 0 then do
    let s ← transferToken tok subscription.token member self quote.chargeAmount s
    let totalPaid ← I128.checked (subscription.totalPaid + quote.chargeAmount)
      "Subscription paid overflow"
    let s ← recordRevenue quote.chargeAmount 0 s
    .ok ({ subscription with totalPaid }, s)
  else .ok (subscription, s)

def refundDifference (member : Address) (quote : ProrationQuote) (subscription : Subscription)
    (s : State τ) : Result (State τ) :=
  if quote.refundAmount > 0 then do
    let s ← transferToken tok subscription.token self member quote.refundAmount s
    recordRefund quote.refundAmount s
  else .ok s

def changeTier (env : Env) (member : Address) (newTierId : ℕ) (s : State τ) :
    Result (TierChangeResult × State τ) := do
  requireAuth env member
  let subscription ← loadSubscription s member
  panicIf (subscription.status ≠ .active ∧ subscription.status ≠ .trial) "Subscription is not active"
  let oldTier ← loadTier s subscription.tierId
  let newTier ← loadActiveTier s newTierId
  let quote ← quoteProrationInner env subscription newTier s
  let (subscription, s) ← chargeDifference tok self member quote subscription s
  let s ← refundDifference tok self member quote subscription s
  let now := env.timestamp
  let currentPeriodEnd ← U64.checked (now + newTier.periodSeconds) "Period end overflow"
  let subscription := { subscription with
    tierId := newTierId
    status := .active
    currentPeriodStart := now
    currentPeriodEnd
    trialEnd := 0
    updatedAt := now }
  .ok (⟨oldTier.tierId, newTierId, quote.chargeAmount, quote.refundAmount,
    subscription.currentPeriodStart, subscription.currentPeriodEnd⟩,
    setSubscription member subscription s)

inductive Op where
  | initializeContract (admin : Address)
  | createTier (admin : Address) (tierId : ℕ) (name : String) (pricePerPeriod : ℤ)
      (periodSeconds trialSeconds benefitFlags referralRewardBps : ℕ)
  | updateTier (admin : Address) (tierId : ℕ) (name : String) (pricePerPeriod : ℤ)
      (periodSeconds trialSeconds benefitFlags referralRewardBps : ℕ) (active : Bool)
  | subscribe (member token : Address) (tierId : ℕ) (autoRenew : Bool) (referrer : Option Address)
  | renewSubscription (member : Address)
  | cancelSubscription (member : Address)
  | pauseSubscription (member : Address)
  | resumeSubscription (member : Address)
  | changeTier (member : Address) (newTierId : ℕ)

def invoke (env : Env) (op : Op) (s : State τ) : Result (State τ) :=
  match op with
  | .initializeContract admin => initializeContract env admin s
  | .createTier admin tierId name pricePerPeriod periodSeconds trialSeconds benefitFlags
      referralRewardBps =>
    createTier env admin tierId name pricePerPeriod periodSeconds trialSeconds benefitFlags
      referralRewardBps s
  | .updateTier admin tierId name pricePerPeriod periodSeconds trialSeconds benefitFlags
      referralRewardBps active =>
    (updateTier env admin tierId name pricePerPeriod periodSeconds trialSeconds benefitFlags
      referralRewardBps active s).map (·.2)
  | .subscribe member token tierId autoRenew referrer =>
    (subscribe tok self env member token tierId autoRenew referrer s).map (·.2)
  | .renewSubscription member => (renewSubscription tok self env member s).map (·.2)
  | .cancelSubscription member => (cancelSubscription tok self env member s).map (·.2)
  | .pauseSubscription member => pauseSubscription env member s
  | .resumeSubscription member => (resumeSubscription env member s).map (·.2)
  | .changeTier member newTierId => (changeTier tok self env member newTierId s).map (·.2)

/-- An invocation, or transfers of tokens in which the contract has no part. -/
inductive Action (τ : Type) where
  | call (env : Env) (op : Op)
  | transfers (tokens : τ)

def next (a : Action τ) (s : State τ) : Result (State τ) :=
  match a with
  | .call env op => invoke tok self env op s
  | .transfers tokens => .ok { s with tokens }

end MembershipSubscription
