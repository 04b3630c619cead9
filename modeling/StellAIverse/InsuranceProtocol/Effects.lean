import StellAIverse.InsuranceProtocol.Contract

/-!
# What each call does

Five calls move tokens, and each books what it moved to one pool. The effect of a
completed invocation names this entry next to the state it leaves.
-/

namespace InsuranceProtocol

open Soroban

variable {τ : Type}

inductive Movement where
  | deposit | premium | withdrawal | refund | payout
  deriving DecidableEq, Repr

/-- What a call books to a pool. -/
structure Entry where
  pool : Symbol
  movement : Movement
  amount : ℤ

/-- A pool as it is created. -/
def created (env : Env) (poolId : Symbol) (coverageType : CoverageType) (reserveRatioBps : ℕ) :
    InsurancePool where
  poolId := poolId
  coverageType := coverageType
  totalAssets := 0
  totalShares := 0
  reserveRatioBps := reserveRatioBps
  reserveAmount := 0
  activePolicies := 0
  totalPremiumsCollected := 0
  totalClaimsPaid := 0
  isActive := true
  createdAt := env.timestamp

/-- A policy as it is bought. -/
def bought (env : Env) (buyer : Address) (poolId : Symbol) (coverageType : CoverageType)
    (tier : CoverageTier) (policyId : ℕ) (coverageLimit deductible premium : ℤ) :
    CoveragePolicy where
  policyId := policyId
  poolId := poolId
  holder := buyer
  coverageType := coverageType
  tier := tier
  coverageLimit := coverageLimit
  deductible := deductible
  premiumPaid := premium
  isActive := true
  purchasedAt := env.timestamp
  expiresAt := env.timestamp + policyDuration

/-- A claim as it is submitted. -/
def submitted (env : Env) (claimant : Address) (policyId : ℕ) (policy : CoveragePolicy)
    (amount : ℤ) (evidence : String) (claimId votingDeadline : ℕ) (requiresVoting : Bool) :
    Claim where
  claimId := claimId
  policyId := policyId
  poolId := policy.poolId
  claimant := claimant
  amount := amount - policy.deductible
  evidence := evidence
  status := .pending
  submittedAt := env.timestamp
  votingDeadline := votingDeadline
  votesFor := 0
  votesAgainst := 0
  totalVoters := 0
  requiresVoting := requiresVoting

/-- A claim as it is queued. -/
def queued (env : Env) (claimId : ℕ) (claim : Claim) : PayoutQueueItem where
  claimId := claimId
  poolId := claim.poolId
  amount := claim.amount
  priority := calculateClaimPriority claim
  queuedAt := env.timestamp
  processed := false

inductive Effect (tok : Token τ) (self : Address) (s : State τ) :
    Action τ → Option Entry → State τ → Prop
  | transfers (tokens : τ) : Effect tok self s (.transfers tokens) none { s with tokens }
  | initializeContract (env : Env) (admin token oracle : Address) (fresh : s.admin = none) :
      Effect tok self s (.call env (.initializeContract admin token oracle)) none
        { s with
          admin := some admin
          token := some token
          oracle := some oracle
          paused := some false
          policyCounter := some 0
          claimCounter := some 0
          payoutQueueCounter := some 0
          poolCounter := some 0
          poolIds := some []
          riskParameters := initDefaultRiskParams s.riskParameters
          tierConfig := initDefaultTierConfigs s.tierConfig }
  | createPool (env : Env) (admin : Address) (poolId : Symbol) (coverageType : CoverageType)
      (reserveRatioBps : ℕ) (poolIds : Option (List Symbol)) (poolCounter : Option ℕ)
      (known : s.admin = some admin) (new : s.pool.get? poolId = none)
      (ratio : reserveRatioBps ≤ 10000) :
      Effect tok self s (.call env (.createPool admin poolId coverageType reserveRatioBps)) none
        { s with
          pool := s.pool.set poolId (created env poolId coverageType reserveRatioBps)
          poolIds, poolCounter }
  | deposited (env : Env) (underwriter : Address) (poolId : Symbol) (amount : ℤ)
      (pool : InsurancePool) (shares reserveAmount : ℤ) (token : Address) (tokens : τ)
      (positive : 0 < amount) (found : s.pool.get? poolId = some pool)
      (minted : sharesFor pool amount = .ok shares) (configured : s.token = some token)
      (paid : tok.transfer s.tokens token underwriter self amount = some tokens) :
      Effect tok self s (.call env (.depositAsUnderwriter underwriter poolId amount))
        (some ⟨poolId, .deposit, amount⟩)
        { s with
          tokens
          pool := s.pool.set poolId { pool with
            totalAssets := pool.totalAssets + amount
            totalShares := pool.totalShares + shares
            reserveAmount }
          underwriter := s.underwriter.set (poolId, underwriter)
            { loadUnderwriter s poolId underwriter with
              shares := (loadUnderwriter s poolId underwriter).shares + shares
              totalDeposited := (loadUnderwriter s poolId underwriter).totalDeposited + amount
              depositTimestamp := env.timestamp } }
  | withdrawn (env : Env) (underwriter : Address) (poolId : Symbol) (shares : ℤ)
      (pool : InsurancePool) (assets reserveAmount : ℤ) (token : Address) (tokens : τ)
      (positive : 0 < shares) (found : s.pool.get? poolId = some pool)
      (holds : shares ≤ (loadUnderwriter s poolId underwriter).shares)
      (shared : 0 < pool.totalShares)
      (share : assets = (shares * pool.totalAssets).tdiv pool.totalShares)
      (reserve : reserveAfterWithdrawal (pool.totalAssets - assets) (pool.totalShares - shares)
        pool.reserveRatioBps = .ok reserveAmount)
      (allowed : withdrawable s poolId pool.activePolicies (pool.totalAssets - assets)
        reserveAmount = .ok true)
      (configured : s.token = some token)
      (paid : tok.transfer s.tokens token self underwriter assets = some tokens) :
      Effect tok self s (.call env (.withdrawAsUnderwriter underwriter poolId shares))
        (some ⟨poolId, .withdrawal, assets⟩)
        { s with
          tokens
          pool := s.pool.set poolId { pool with
            totalAssets := pool.totalAssets - assets
            totalShares := pool.totalShares - shares
            reserveAmount }
          underwriter := s.underwriter.set (poolId, underwriter)
            { loadUnderwriter s poolId underwriter with
              shares := (loadUnderwriter s poolId underwriter).shares - shares
              totalWithdrawn := (loadUnderwriter s poolId underwriter).totalWithdrawn + assets
              lastWithdrawalTimestamp := env.timestamp } }
  | purchased (env : Env) (buyer : Address) (poolId : Symbol) (tier : CoverageTier)
      (coverageAmount : ℤ) (pool : InsurancePool)
      (coverageLimit deductible premium reserveAmount : ℤ) (policyIds : Option (List ℕ))
      (holderPolicies : Store Address (List ℕ)) (token : Address) (tokens : τ)
      (found : s.pool.get? poolId = some pool)
      (priced : calculatePremium poolId coverageAmount tier s = .ok premium)
      (configured : s.token = some token)
      (paid : tok.transfer s.tokens token buyer self premium = some tokens) :
      Effect tok self s (.call env (.purchaseCoverage buyer poolId tier coverageAmount))
        (some ⟨poolId, .premium, premium⟩)
        { s with
          tokens
          policyCounter := some (s.policyCounter.getD 0 + 1)
          policy := s.policy.set (s.policyCounter.getD 0 + 1)
            (bought env buyer poolId pool.coverageType tier (s.policyCounter.getD 0 + 1)
              coverageLimit deductible premium)
          policyIds, holderPolicies
          pool := s.pool.set poolId { pool with
            totalPremiumsCollected := pool.totalPremiumsCollected + premium
            totalAssets := pool.totalAssets + premium
            activePolicies := pool.activePolicies + 1
            reserveAmount } }
  | cancelled (env : Env) (buyer : Address) (policyId : ℕ) (policy : CoveragePolicy)
      (pool : InsurancePool) (refund reserveAmount : ℤ) (tokens : τ)
      (stored : s.policy.get? policyId = some policy) (holds : policy.holder = buyer)
      (active : policy.isActive = true) (due : refundOf policy env.timestamp = .ok refund)
      (found : s.pool.get? policy.poolId = some pool)
      (paid : payRefund tok self buyer refund s = .ok tokens) :
      Effect tok self s (.call env (.cancelPolicy buyer policyId))
        (some ⟨policy.poolId, .refund, refund⟩)
        { s with
          tokens
          policy := s.policy.set policyId { policy with isActive := false }
          pool := s.pool.set policy.poolId { pool with
            activePolicies := pool.activePolicies - 1
            totalAssets := pool.totalAssets - refund
            reserveAmount } }
  | claimed (env : Env) (claimant : Address) (policyId : ℕ) (amount : ℤ) (evidence : String)
      (policy : CoveragePolicy) (votingDeadline : ℕ) (requiresVoting : Bool)
      (claimIds : Option (List ℕ)) (stored : s.policy.get? policyId = some policy)
      (holds : policy.holder = claimant) (active : policy.isActive = true)
      (current : env.timestamp ≤ policy.expiresAt) (positive : 0 < amount - policy.deductible)
      (limited : amount - policy.deductible ≤ policy.coverageLimit) :
      Effect tok self s (.call env (.submitClaim claimant policyId amount evidence)) none
        { s with
          claimCounter := some (s.claimCounter.getD 0 + 1)
          claim := s.claim.set (s.claimCounter.getD 0 + 1)
            (submitted env claimant policyId policy amount evidence (s.claimCounter.getD 0 + 1)
              votingDeadline requiresVoting)
          claimIds
          poolClaims := s.poolClaims.set policy.poolId
            ((s.poolClaims.get? policy.poolId).getD [] ++ [s.claimCounter.getD 0 + 1]) }
  | voted (env : Env) (underwriter : Address) (claimId : ℕ) (approve : Bool) (claim : Claim)
      (votesFor votesAgainst totalVoters : ℕ) (record : VoteRecord)
      (stored : s.claim.get? claimId = some claim)
      (first : s.voteRecord.get? (claimId, underwriter) = none) :
      Effect tok self s (.call env (.voteOnClaim underwriter claimId approve)) none
        { s with
          voteRecord := s.voteRecord.set (claimId, underwriter) record
          claim := s.claim.set claimId { claim with votesFor, votesAgainst, totalVoters } }
  | denied (env : Env) (claimId : ℕ) (claim : Claim) (stored : s.claim.get? claimId = some claim)
      (waiting : claim.status = .pending) :
      Effect tok self s (.call env (.processClaim claimId)) none
        { s with claim := s.claim.set claimId { claim with status := .denied } }
  | approved (env : Env) (claimId : ℕ) (claim : Claim) (payoutQueueIds : Option (List ℕ))
      (stored : s.claim.get? claimId = some claim) (waiting : claim.status = .pending) :
      Effect tok self s (.call env (.processClaim claimId)) none
        { s with
          claim := s.claim.set claimId { claim with status := .approved }
          payoutQueueCounter := some (s.payoutQueueCounter.getD 0 + 1)
          payoutQueueItem := s.payoutQueueItem.set (s.payoutQueueCounter.getD 0 + 1)
            (queued env claimId claim)
          payoutQueueIds }
  | paid (env : Env) (admin : Address) (queueId : ℕ) (item : PayoutQueueItem) (claim : Claim)
      (pool : InsurancePool) (policy : CoveragePolicy) (requiredReserve reserveAmount : ℤ)
      (token : Address) (tokens : τ) (listed : s.payoutQueueItem.get? queueId = some item)
      (waiting : item.processed = false) (stored : s.claim.get? item.claimId = some claim)
      (approved : claim.status = .approved) (found : s.pool.get? item.poolId = some pool)
      (reserve : reserveOf (pool.totalAssets - item.amount) pool.reserveRatioBps =
        .ok requiredReserve)
      (checks : checkReserve pool item.amount (pool.totalAssets - item.amount) requiredReserve =
        .ok ())
      (insured : s.policy.get? claim.policyId = some policy) (configured : s.token = some token)
      (paid : tok.transfer s.tokens token self claim.claimant item.amount = some tokens) :
      Effect tok self s (.call env (.payClaim admin queueId))
        (some ⟨item.poolId, .payout, item.amount⟩)
        { s with
          tokens
          pool := s.pool.set item.poolId { pool with
            totalAssets := pool.totalAssets - item.amount
            totalClaimsPaid := pool.totalClaimsPaid + item.amount
            reserveAmount
            activePolicies := pool.activePolicies - 1 }
          claim := s.claim.set item.claimId { claim with status := .paid }
          payoutQueueItem := s.payoutQueueItem.set queueId { item with processed := true }
          policy := s.policy.set claim.policyId { policy with isActive := false } }
  | reserveRatio (env : Env) (admin : Address) (poolId : Symbol) (newRatioBps : ℕ)
      (pool : InsurancePool) (reserveAmount : ℤ) (found : s.pool.get? poolId = some pool)
      (ratio : newRatioBps ≤ 10000) :
      Effect tok self s (.call env (.updateReserveRatio admin poolId newRatioBps)) none
        { s with
          pool := s.pool.set poolId { pool with reserveRatioBps := newRatioBps, reserveAmount } }
  | riskParameters (env : Env) (admin : Address) (params : RiskParameters)
      (known : s.admin = some admin) :
      Effect tok self s (.call env (.setRiskParameters admin params)) none
        { s with riskParameters := s.riskParameters.set params.coverageType params }
  | tierConfig (env : Env) (admin : Address) (coverageType : CoverageType)
      (config : CoverageTierConfig) (known : s.admin = some admin) :
      Effect tok self s (.call env (.setTierConfig admin coverageType config)) none
        { s with tierConfig := s.tierConfig.set (coverageType, config.tier) config }
  | emergencyPause (env : Env) (admin : Address) (known : s.admin = some admin) :
      Effect tok self s (.call env (.emergencyPause admin)) none { s with paused := some true }
  | emergencyUnpause (env : Env) (admin : Address) (known : s.admin = some admin) :
      Effect tok self s (.call env (.emergencyUnpause admin)) none { s with paused := some false }

/-- What a completed call books, by what it took or returned. -/
def entryOf (tok : Token τ) (self : Address) (a : Action τ) (s : State τ) : Option Entry :=
  match a with
  | .call _ (.depositAsUnderwriter _ poolId amount) => some ⟨poolId, .deposit, amount⟩
  | .call env (.withdrawAsUnderwriter underwriter poolId shares) =>
    match withdrawAsUnderwriter tok self env underwriter poolId shares s with
    | .ok (assets, _) => some ⟨poolId, .withdrawal, assets⟩
    | .error _ => none
  | .call _ (.purchaseCoverage _ poolId tier coverageAmount) =>
    match calculatePremium poolId coverageAmount tier s with
    | .ok premium => some ⟨poolId, .premium, premium⟩
    | .error _ => none
  | .call env (.cancelPolicy buyer policyId) =>
    match cancelPolicy tok self env buyer policyId s with
    | .ok (refund, _) => (s.policy.get? policyId).map fun policy => ⟨policy.poolId, .refund, refund⟩
    | .error _ => none
  | .call env (.payClaim admin queueId) =>
    match payClaim tok self env admin queueId s with
    | .ok (amount, _) =>
      (s.payoutQueueItem.get? queueId).map fun item => ⟨item.poolId, .payout, amount⟩
    | .error _ => none
  | _ => none

section Effects

variable {tok : Token τ} {self : Address} {env : Env} {s s' : State τ} {β : Type} {r : β}

theorem assertAdmin_bind {caller : Address} {f : Unit → Result β}
    (h : (assertAdmin s caller >>= f) = .ok r) : s.admin = some caller ∧ f () = .ok r := by
  obtain ⟨⟨⟩, hadmin, h⟩ := bind_ok.mp h
  unfold assertAdmin at hadmin
  obtain ⟨admin, hsome, hadmin⟩ := expect_bind.mp hadmin
  unfold failIf at hadmin
  split at hadmin
  · cases hadmin
  · rename_i he
    rw [not_not.mp he]
    exact ⟨hsome, h⟩

theorem initializeContract_effect {admin token oracle : Address}
    (h : initializeContract env admin token oracle s = .ok s') :
    Effect tok self s (.call env (.initializeContract admin token oracle)) none s' := by
  unfold initializeContract at h
  obtain ⟨hfresh, h⟩ := failIf_bind.mp h
  obtain ⟨-, h⟩ := requireAuth_bind.mp h
  cases h
  exact .initializeContract env admin token oracle (by simpa using hfresh)

theorem createPool_effect {admin : Address} {poolId : Symbol} {coverageType : CoverageType}
    {reserveRatioBps : ℕ} (h : createPool env admin poolId coverageType reserveRatioBps s = .ok s') :
    Effect tok self s (.call env (.createPool admin poolId coverageType reserveRatioBps)) none
      s' := by
  unfold createPool at h
  obtain ⟨-, h⟩ := requireAuth_bind.mp h
  obtain ⟨hadmin, h⟩ := assertAdmin_bind h
  obtain ⟨hnew, h⟩ := failIf_bind.mp h
  obtain ⟨hratio, h⟩ := failIf_bind.mp h
  obtain ⟨-, h⟩ := U32.add_bind.mp h
  cases h
  exact .createPool env admin poolId coverageType reserveRatioBps _ _ hadmin (by simpa using hnew)
    (by omega)

theorem depositAsUnderwriter_effect {underwriter : Address} {poolId : Symbol} {amount : ℤ}
    (h : depositAsUnderwriter tok self env underwriter poolId amount s = .ok s') :
    Effect tok self s (.call env (.depositAsUnderwriter underwriter poolId amount))
      (some ⟨poolId, .deposit, amount⟩) s' := by
  unfold depositAsUnderwriter at h
  obtain ⟨-, h⟩ := requireAuth_bind.mp h
  obtain ⟨-, h⟩ := failIf_bind.mp h
  obtain ⟨hpositive, h⟩ := failIf_bind.mp h
  obtain ⟨pool, hpool, h⟩ := okOr_bind.mp h
  obtain ⟨-, h⟩ := failIf_bind.mp h
  obtain ⟨⟨⟩, -, h⟩ := bind_ok.mp h
  obtain ⟨shares, hshares, h⟩ := bind_ok.mp h
  obtain ⟨token, htoken, h⟩ := expect_bind.mp h
  obtain ⟨tokens, hpaid, h⟩ := tok.pay_bind.mp h
  obtain ⟨-, h⟩ := I128.checked_bind.mp h
  obtain ⟨-, h⟩ := I128.checked_bind.mp h
  obtain ⟨reserve, -, h⟩ := bind_ok.mp h
  obtain ⟨-, h⟩ := I128.checked_bind.mp h
  obtain ⟨-, h⟩ := I128.checked_bind.mp h
  cases h
  exact .deposited env underwriter poolId amount pool shares reserve token tokens
    (not_le.mp hpositive) hpool hshares htoken hpaid

/-- With the check that follows it, a withdrawal goes on only if it is allowed. -/
theorem withdrawable_true {poolId : Symbol} {activePolicies : ℕ} {totalAssets reserve : ℤ}
    {allowed : Bool}
    (h : withdrawable s poolId activePolicies totalAssets reserve = .ok allowed)
    (hpassed : ¬ (allowed = false ∧ activePolicies > 0)) :
    withdrawable s poolId activePolicies totalAssets reserve = .ok true := by
  cases allowed with
  | true => exact h
  | false =>
    have hnone : activePolicies = 0 := by
      by_contra hne
      exact hpassed ⟨rfl, Nat.pos_of_ne_zero hne⟩
    exact if_pos hnone

theorem withdrawAsUnderwriter_effect {underwriter : Address} {poolId : Symbol} {shares assets : ℤ}
    (h : withdrawAsUnderwriter tok self env underwriter poolId shares s = .ok (assets, s')) :
    Effect tok self s (.call env (.withdrawAsUnderwriter underwriter poolId shares))
      (some ⟨poolId, .withdrawal, assets⟩) s' := by
  unfold withdrawAsUnderwriter at h
  obtain ⟨-, h⟩ := requireAuth_bind.mp h
  obtain ⟨hpositive, h⟩ := failIf_bind.mp h
  obtain ⟨pool, hpool, h⟩ := okOr_bind.mp h
  obtain ⟨-, h⟩ := failIf_bind.mp h
  obtain ⟨hholds, h⟩ := failIf_bind.mp h
  obtain ⟨hshares, h⟩ := failIf_bind.mp h
  obtain ⟨-, h⟩ := I128.checked_bind.mp h
  obtain ⟨-, -, h⟩ := I128.div_bind.mp h
  obtain ⟨-, h⟩ := I128.checked_bind.mp h
  obtain ⟨-, h⟩ := I128.checked_bind.mp h
  obtain ⟨reserve, hreserve, h⟩ := bind_ok.mp h
  obtain ⟨allowed, hallowed, h⟩ := bind_ok.mp h
  obtain ⟨hpassed, h⟩ := failIf_bind.mp h
  obtain ⟨token, htoken, h⟩ := expect_bind.mp h
  obtain ⟨tokens, hpaid, h⟩ := tok.pay_bind.mp h
  obtain ⟨-, h⟩ := I128.checked_bind.mp h
  obtain ⟨-, h⟩ := I128.checked_bind.mp h
  cases h
  exact .withdrawn env underwriter poolId shares pool _ reserve token tokens (not_le.mp hpositive)
    hpool (not_lt.mp hholds) (not_le.mp hshares) rfl hreserve (withdrawable_true hallowed hpassed)
    htoken hpaid

theorem purchaseCoverage_effect {buyer : Address} {poolId : Symbol} {tier : CoverageTier}
    {coverageAmount : ℤ} {policyId : ℕ}
    (h : purchaseCoverage tok self env buyer poolId tier coverageAmount s = .ok (policyId, s')) :
    ∃ premium, calculatePremium poolId coverageAmount tier s = .ok premium ∧
      Effect tok self s (.call env (.purchaseCoverage buyer poolId tier coverageAmount))
        (some ⟨poolId, .premium, premium⟩) s' := by
  unfold purchaseCoverage at h
  obtain ⟨-, h⟩ := requireAuth_bind.mp h
  obtain ⟨-, h⟩ := failIf_bind.mp h
  obtain ⟨-, h⟩ := failIf_bind.mp h
  obtain ⟨pool, hpool, h⟩ := okOr_bind.mp h
  obtain ⟨-, h⟩ := failIf_bind.mp h
  obtain ⟨params, -, h⟩ := expect_bind.mp h
  obtain ⟨-, h⟩ := failIf_bind.mp h
  obtain ⟨-, h⟩ := failIf_bind.mp h
  obtain ⟨premium, hpremium, h⟩ := bind_ok.mp h
  obtain ⟨config, -, h⟩ := expect_bind.mp h
  obtain ⟨-, h⟩ := I128.checked_bind.mp h
  obtain ⟨-, -, h⟩ := I128.div_bind.mp h
  obtain ⟨-, h⟩ := I128.checked_bind.mp h
  obtain ⟨-, -, h⟩ := I128.div_bind.mp h
  obtain ⟨token, htoken, h⟩ := expect_bind.mp h
  obtain ⟨tokens, hpaid, h⟩ := tok.pay_bind.mp h
  obtain ⟨-, h⟩ := U64.checked_bind.mp h
  obtain ⟨-, h⟩ := U64.add_bind.mp h
  obtain ⟨-, h⟩ := I128.checked_bind.mp h
  obtain ⟨-, h⟩ := I128.checked_bind.mp h
  obtain ⟨-, h⟩ := U32.add_bind.mp h
  obtain ⟨reserve, -, h⟩ := bind_ok.mp h
  cases h
  exact ⟨premium, hpremium, .purchased env buyer poolId tier coverageAmount pool _ _ premium reserve
    _ _ token tokens hpool hpremium htoken hpaid⟩

theorem cancelPolicy_effect {buyer : Address} {policyId : ℕ} {refund : ℤ}
    (h : cancelPolicy tok self env buyer policyId s = .ok (refund, s')) :
    ∃ policy, s.policy.get? policyId = some policy ∧
      Effect tok self s (.call env (.cancelPolicy buyer policyId))
        (some ⟨policy.poolId, .refund, refund⟩) s' := by
  unfold cancelPolicy at h
  obtain ⟨-, h⟩ := requireAuth_bind.mp h
  obtain ⟨policy, hpolicy, h⟩ := okOr_bind.mp h
  obtain ⟨hholder, h⟩ := failIf_bind.mp h
  obtain ⟨hactive, h⟩ := failIf_bind.mp h
  obtain ⟨refund', hrefund, h⟩ := bind_ok.mp h
  obtain ⟨pool, hpool, h⟩ := okOr_bind.mp h
  obtain ⟨-, h⟩ := I128.checked_bind.mp h
  obtain ⟨reserve, -, h⟩ := bind_ok.mp h
  obtain ⟨tokens, hpaid, h⟩ := bind_ok.mp h
  cases h
  exact ⟨policy, hpolicy, .cancelled env buyer policyId policy pool refund reserve tokens hpolicy
    (not_not.mp hholder) (by simpa using hactive) hrefund hpool hpaid⟩

theorem submitClaim_effect {claimant : Address} {policyId : ℕ} {amount : ℤ} {evidence : String}
    {claimId : ℕ} (h : submitClaim env claimant policyId amount evidence s = .ok (claimId, s')) :
    Effect tok self s (.call env (.submitClaim claimant policyId amount evidence)) none s' := by
  unfold submitClaim at h
  obtain ⟨-, h⟩ := requireAuth_bind.mp h
  obtain ⟨-, h⟩ := failIf_bind.mp h
  obtain ⟨policy, hpolicy, h⟩ := okOr_bind.mp h
  obtain ⟨hholder, h⟩ := failIf_bind.mp h
  obtain ⟨hactive, h⟩ := failIf_bind.mp h
  obtain ⟨hcurrent, h⟩ := failIf_bind.mp h
  obtain ⟨-, h⟩ := failIf_bind.mp h
  obtain ⟨hdeductible, h⟩ := failIf_bind.mp h
  obtain ⟨-, h⟩ := I128.checked_bind.mp h
  obtain ⟨hlimit, h⟩ := failIf_bind.mp h
  obtain ⟨pool, -, h⟩ := okOr_bind.mp h
  obtain ⟨-, h⟩ := I128.checked_bind.mp h
  obtain ⟨-, -, h⟩ := I128.div_bind.mp h
  obtain ⟨params, -, h⟩ := expect_bind.mp h
  obtain ⟨-, h⟩ := U64.add_bind.mp h
  obtain ⟨-, h⟩ := U64.checked_bind.mp h
  cases h
  exact .claimed env claimant policyId amount evidence policy _ _ _ hpolicy (not_not.mp hholder)
    (by simpa using hactive) (not_lt.mp hcurrent) (by omega) (not_lt.mp hlimit)

theorem voteOnClaim_effect {underwriter : Address} {claimId : ℕ} {approve : Bool}
    (h : voteOnClaim env underwriter claimId approve s = .ok s') :
    Effect tok self s (.call env (.voteOnClaim underwriter claimId approve)) none s' := by
  unfold voteOnClaim at h
  obtain ⟨-, h⟩ := requireAuth_bind.mp h
  obtain ⟨claim, hclaim, h⟩ := okOr_bind.mp h
  obtain ⟨-, h⟩ := failIf_bind.mp h
  obtain ⟨-, h⟩ := failIf_bind.mp h
  obtain ⟨hfirst, h⟩ := failIf_bind.mp h
  obtain ⟨uw, -, h⟩ := okOr_bind.mp h
  obtain ⟨-, h⟩ := failIf_bind.mp h
  obtain ⟨-, h⟩ := U32.add_bind.mp h
  obtain ⟨-, h⟩ := U32.add_bind.mp h
  obtain ⟨-, h⟩ := U32.add_bind.mp h
  cases h
  exact .voted env underwriter claimId approve claim _ _ _ _ hclaim (by simpa using hfirst)

theorem processClaim_effect {claimId : ℕ} (h : processClaim env claimId s = .ok s') :
    Effect tok self s (.call env (.processClaim claimId)) none s' := by
  unfold processClaim at h
  obtain ⟨claim, hclaim, h⟩ := okOr_bind.mp h
  obtain ⟨hwaiting, h⟩ := failIf_bind.mp h
  obtain ⟨-, h⟩ := failIf_bind.mp h
  obtain ⟨outvoted, -, h⟩ := bind_ok.mp h
  have hwaiting := not_not.mp hwaiting
  split at h
  · cases h
    exact .denied env claimId claim hclaim hwaiting
  · unfold approveClaim at h
    obtain ⟨-, h⟩ := U64.checked_bind.mp h
    cases h
    exact .approved env claimId claim _ hclaim hwaiting

theorem payClaim_effect {admin : Address} {queueId : ℕ} {amount : ℤ}
    (h : payClaim tok self env admin queueId s = .ok (amount, s')) :
    ∃ item, s.payoutQueueItem.get? queueId = some item ∧
      Effect tok self s (.call env (.payClaim admin queueId))
        (some ⟨item.poolId, .payout, amount⟩) s' := by
  unfold payClaim at h
  obtain ⟨-, h⟩ := requireAuth_bind.mp h
  obtain ⟨-, h⟩ := assertAdmin_bind h
  obtain ⟨item, hitem, h⟩ := okOr_bind.mp h
  obtain ⟨hwaiting, h⟩ := failIf_bind.mp h
  obtain ⟨claim, hclaim, h⟩ := okOr_bind.mp h
  obtain ⟨hstatus, h⟩ := failIf_bind.mp h
  obtain ⟨pool, hpool, h⟩ := okOr_bind.mp h
  obtain ⟨-, h⟩ := I128.checked_bind.mp h
  obtain ⟨required, hrequired, h⟩ := bind_ok.mp h
  obtain ⟨⟨⟩, hchecks, h⟩ := bind_ok.mp h
  obtain ⟨token, htoken, h⟩ := expect_bind.mp h
  obtain ⟨tokens, hpaid, h⟩ := tok.pay_bind.mp h
  obtain ⟨-, h⟩ := I128.checked_bind.mp h
  obtain ⟨reserve, -, h⟩ := bind_ok.mp h
  obtain ⟨policy, hpolicy, h⟩ := okOr_bind.mp h
  cases h
  exact ⟨item, hitem, .paid env admin queueId item claim pool policy required reserve token tokens
    hitem (by simpa using hwaiting) hclaim (not_not.mp hstatus) hpool hrequired hchecks hpolicy htoken
    hpaid⟩

theorem updateReserveRatio_effect {admin : Address} {poolId : Symbol} {newRatioBps : ℕ}
    (h : updateReserveRatio env admin poolId newRatioBps s = .ok s') :
    Effect tok self s (.call env (.updateReserveRatio admin poolId newRatioBps)) none s' := by
  unfold updateReserveRatio at h
  obtain ⟨-, h⟩ := requireAuth_bind.mp h
  obtain ⟨-, h⟩ := assertAdmin_bind h
  obtain ⟨hratio, h⟩ := failIf_bind.mp h
  obtain ⟨pool, hpool, h⟩ := okOr_bind.mp h
  obtain ⟨reserve, -, h⟩ := bind_ok.mp h
  cases h
  exact .reserveRatio env admin poolId newRatioBps pool reserve hpool (by omega)

theorem setRiskParameters_effect {admin : Address} {params : RiskParameters}
    (h : setRiskParameters env admin params s = .ok s') :
    Effect tok self s (.call env (.setRiskParameters admin params)) none s' := by
  unfold setRiskParameters at h
  obtain ⟨-, h⟩ := requireAuth_bind.mp h
  obtain ⟨hadmin, h⟩ := assertAdmin_bind h
  cases h
  exact .riskParameters env admin params hadmin

theorem setTierConfig_effect {admin : Address} {coverageType : CoverageType}
    {config : CoverageTierConfig} (h : setTierConfig env admin coverageType config s = .ok s') :
    Effect tok self s (.call env (.setTierConfig admin coverageType config)) none s' := by
  unfold setTierConfig at h
  obtain ⟨-, h⟩ := requireAuth_bind.mp h
  obtain ⟨hadmin, h⟩ := assertAdmin_bind h
  cases h
  exact .tierConfig env admin coverageType config hadmin

theorem emergencyPause_effect {admin : Address} (h : emergencyPause env admin s = .ok s') :
    Effect tok self s (.call env (.emergencyPause admin)) none s' := by
  unfold emergencyPause at h
  obtain ⟨-, h⟩ := requireAuth_bind.mp h
  obtain ⟨hadmin, h⟩ := assertAdmin_bind h
  obtain ⟨-, h⟩ := failIf_bind.mp h
  cases h
  exact .emergencyPause env admin hadmin

theorem emergencyUnpause_effect {admin : Address} (h : emergencyUnpause env admin s = .ok s') :
    Effect tok self s (.call env (.emergencyUnpause admin)) none s' := by
  unfold emergencyUnpause at h
  obtain ⟨-, h⟩ := requireAuth_bind.mp h
  obtain ⟨hadmin, h⟩ := assertAdmin_bind h
  obtain ⟨-, h⟩ := failIf_bind.mp h
  cases h
  exact .emergencyUnpause env admin hadmin

theorem next_effect {a : Action τ} (h : next tok self a s = .ok s') :
    Effect tok self s a (entryOf tok self a s) s' := by
  cases a with
  | transfers tokens =>
    cases h
    exact .transfers tokens
  | call env op =>
    cases op with
    | initializeContract admin token oracle => exact initializeContract_effect h
    | createPool admin poolId coverageType reserveRatioBps => exact createPool_effect h
    | depositAsUnderwriter underwriter poolId amount => exact depositAsUnderwriter_effect h
    | withdrawAsUnderwriter underwriter poolId shares =>
      obtain ⟨⟨assets, s₁⟩, hcall, rfl⟩ := map_ok.mp h
      simp only [entryOf, hcall]
      exact withdrawAsUnderwriter_effect hcall
    | purchaseCoverage buyer poolId tier coverageAmount =>
      obtain ⟨⟨policyId, s₁⟩, hcall, rfl⟩ := map_ok.mp h
      obtain ⟨premium, hpremium, heffect⟩ := purchaseCoverage_effect hcall
      simp only [entryOf, hpremium]
      exact heffect
    | cancelPolicy buyer policyId =>
      obtain ⟨⟨refund, s₁⟩, hcall, rfl⟩ := map_ok.mp h
      obtain ⟨policy, hpolicy, heffect⟩ := cancelPolicy_effect hcall
      simp only [entryOf, hcall, hpolicy, Option.map_some]
      exact heffect
    | submitClaim claimant policyId amount evidence =>
      obtain ⟨⟨claimId, s₁⟩, hcall, rfl⟩ := map_ok.mp h
      exact submitClaim_effect hcall
    | voteOnClaim underwriter claimId approve => exact voteOnClaim_effect h
    | processClaim claimId => exact processClaim_effect h
    | payClaim admin queueId =>
      obtain ⟨⟨amount, s₁⟩, hcall, rfl⟩ := map_ok.mp h
      obtain ⟨item, hitem, heffect⟩ := payClaim_effect hcall
      simp only [entryOf, hcall, hitem, Option.map_some]
      exact heffect
    | setRiskParameters admin params => exact setRiskParameters_effect h
    | setTierConfig admin coverageType config => exact setTierConfig_effect h
    | updateReserveRatio admin poolId newRatioBps => exact updateReserveRatio_effect h
    | emergencyPause admin => exact emergencyPause_effect h
    | emergencyUnpause admin => exact emergencyUnpause_effect h

end Effects

end InsuranceProtocol
