import StellAIverse.Soroban.Token

/-!
# The fee distribution contract

Fees are collected in one token, allocated to recipient categories by their
shares, and claimed by the recipients. Storage and every entry point that
writes, in the order of the source; events are left out.
-/

namespace FeeDistribution

open Soroban

abbrev Symbol := String

def bpsDenominator : ℤ := 10000

def hardCapFeeRateBps : ℕ := 2000

def maxFeeRateStepBps : ℕ := 500

def maxCategories : ℕ := 20

def maxBatchSize : ℕ := 50

structure RecipientCategory where
  categoryId : Symbol
  recipient : Address
  shareBps : ℕ
  totalAllocated : ℤ
  totalClaimed : ℤ
  active : Bool

structure CategoryAllocation where
  categoryId : Symbol
  amount : ℤ

structure DistributionRecord where
  distributionId : ℕ
  totalAmount : ℤ
  categoryCount : ℕ
  timestamp : ℕ
  allocations : List CategoryAllocation

/-- Contract storage together with the token state. -/
structure State (τ : Type) where
  admin : Option Address
  token : Option Address
  paused : Bool
  feeRateBps : Option ℕ
  maxFeeRateBps : Option ℕ
  totalCollected : ℤ
  totalAllocated : ℤ
  totalSharesBps : ℕ
  categoryIds : List Symbol
  category : Store Symbol RecipientCategory
  exempt : Store Address Bool
  distributionCounter : ℕ
  distribution : Store ℕ DistributionRecord
  reentrancyLock : Bool
  tokens : τ

variable {τ : Type}

/-- Empty storage, with the default of every getter that has one. -/
def deployed (tokens : τ) : State τ where
  admin := none
  token := none
  paused := false
  feeRateBps := none
  maxFeeRateBps := none
  totalCollected := 0
  totalAllocated := 0
  totalSharesBps := 0
  categoryIds := []
  category := .empty
  exempt := .empty
  distributionCounter := 0
  distribution := .empty
  reentrancyLock := false
  tokens := tokens

def loadCategory (s : State τ) (categoryId : Symbol) : Result RecipientCategory :=
  expect (s.category.get? categoryId) "Category not found"

def feeRate (s : State τ) : Result ℕ := expect s.feeRateBps "Contract not initialized"

def maxFeeRate (s : State τ) : Result ℕ := expect s.maxFeeRateBps "Contract not initialized"

def getToken (s : State τ) : Result Address := expect s.token "Contract not initialized"

def assertAdmin (s : State τ) (caller : Address) : Result Unit := do
  let admin ← expect s.admin "Contract not initialized"
  panicIf (caller ≠ admin) "Unauthorized: caller is not admin"

def validateShare (shareBps : ℕ) : Result Unit :=
  panicIf (shareBps = 0 ∨ shareBps > 10000) "Share must be between 1 and 10000 bps"

def validateMaxRate (maxFeeRateBps : ℕ) : Result Unit :=
  panicIf (maxFeeRateBps = 0 ∨ maxFeeRateBps > hardCapFeeRateBps) "Max fee rate exceeds hard cap"

def isExempt (s : State τ) (account : Address) : Bool := (s.exempt.get? account).getD false

variable (tok : Token τ) (self : Address)

/-- The transfer between `enter_non_reentrant` and `exit_non_reentrant`. -/
def transferToken (s : State τ) (token source target : Address) (amount : ℤ) :
    Result (State τ) := do
  panicIf (s.reentrancyLock = true) "Reentrant call blocked"
  panicIf (amount ≤ 0) "Transfer amount must be positive"
  let tokens ← tok.pay s.tokens token source target amount
  .ok { s with tokens, reentrancyLock := false }

def claimOne (categoryId : Symbol) (recipient : Address) (requirePositive : Bool) (s : State τ) :
    Result (ℤ × State τ) := do
  let category ← loadCategory s categoryId
  if category.recipient ≠ recipient then
    if requirePositive = true then .error (.panic "Only recipient can claim") else .ok (0, s)
  else do
    let claimable ←
      I128.checked (category.totalAllocated - category.totalClaimed) "Claimable underflow"
    if claimable ≤ 0 then
      if requirePositive = true then .error (.panic "Nothing to claim") else .ok (0, s)
    else do
      let totalClaimed ← I128.checked (category.totalClaimed + claimable) "Claimed overflow"
      let s := { s with category := s.category.set categoryId { category with totalClaimed } }
      let token ← getToken s
      let s ← transferToken tok s token self recipient claimable
      .ok (claimable, s)

def initializeContract (env : Env) (admin token : Address) (feeRateBps maxFeeRateBps : ℕ)
    (s : State τ) : Result (State τ) := do
  panicIf (s.admin.isSome = true) "Already initialized"
  requireAuth env admin
  validateMaxRate maxFeeRateBps
  panicIf (feeRateBps > maxFeeRateBps) "Fee rate exceeds max fee rate"
  .ok { s with
    admin := some admin, token := some token, paused := false, feeRateBps := some feeRateBps
    maxFeeRateBps := some maxFeeRateBps, totalCollected := 0, totalAllocated := 0
    totalSharesBps := 0, categoryIds := [], distributionCounter := 0, reentrancyLock := false }

def pause (env : Env) (admin : Address) (s : State τ) : Result (State τ) := do
  requireAuth env admin
  assertAdmin s admin
  panicIf (s.paused = true) "Already paused"
  .ok { s with paused := true }

def unpause (env : Env) (admin : Address) (s : State τ) : Result (State τ) := do
  requireAuth env admin
  assertAdmin s admin
  panicIf (s.paused = false) "Not paused"
  .ok { s with paused := false }

def setFeeRate (env : Env) (admin : Address) (newRateBps : ℕ) (s : State τ) :
    Result (State τ) := do
  requireAuth env admin
  assertAdmin s admin
  let maxRate ← maxFeeRate s
  panicIf (newRateBps > maxRate) "Fee rate exceeds max fee rate"
  let current ← feeRate s
  -- `abs_diff`: one of the two truncated differences is zero.
  let delta := (newRateBps - current) + (current - newRateBps)
  panicIf (delta > maxFeeRateStepBps) "Rate change exceeds max step; use emergency_set_fee_rate"
  .ok { s with feeRateBps := some newRateBps }

def emergencySetFeeRate (env : Env) (admin : Address) (newRateBps : ℕ) (s : State τ) :
    Result (State τ) := do
  requireAuth env admin
  assertAdmin s admin
  let maxRate ← maxFeeRate s
  panicIf (newRateBps > maxRate) "Fee rate exceeds max fee rate"
  .ok { s with feeRateBps := some newRateBps }

def setMaxFeeRate (env : Env) (admin : Address) (newMaxBps : ℕ) (s : State τ) :
    Result (State τ) := do
  requireAuth env admin
  assertAdmin s admin
  validateMaxRate newMaxBps
  let current ← feeRate s
  .ok { s with
    maxFeeRateBps := some newMaxBps
    feeRateBps := some (if current > newMaxBps then newMaxBps else current) }

/-- A share added to the running total. -/
def addShares (totalShares shareBps : ℕ) : Result ℕ := do
  let newTotal ← U32.checked (totalShares + shareBps) "Share total overflow"
  panicIf (newTotal > 10000) "Total shares exceed 100%"
  .ok newTotal

def addCategory (env : Env) (admin : Address) (categoryId : Symbol) (recipient : Address)
    (shareBps : ℕ) (s : State τ) : Result (State τ) := do
  requireAuth env admin
  assertAdmin s admin
  panicIf ((s.category.get? categoryId).isSome = true) "Category already exists"
  validateShare shareBps
  panicIf (s.categoryIds.length ≥ maxCategories) "Maximum categories reached"
  let newTotal ← addShares s.totalSharesBps shareBps
  .ok { s with
    category := s.category.set categoryId ⟨categoryId, recipient, shareBps, 0, 0, true⟩
    categoryIds := s.categoryIds ++ [categoryId], totalSharesBps := newTotal }

/-- `if let Some(share_bps) = new_share_bps { .. }`: the total and the share of the
category after it. -/
def replaceShare (s : State τ) (category : RecipientCategory) (newShareBps : Option ℕ) :
    Result (ℕ × ℕ) :=
  match newShareBps with
  | none => .ok (s.totalSharesBps, category.shareBps)
  | some shareBps => do
    validateShare shareBps
    let remaining ← U32.checkedSub s.totalSharesBps category.shareBps "Share total underflow"
    let newTotal ← addShares remaining shareBps
    .ok (newTotal, shareBps)

def updateCategory (env : Env) (admin : Address) (categoryId : Symbol)
    (newRecipient : Option Address) (newShareBps : Option ℕ) (s : State τ) :
    Result (RecipientCategory × State τ) := do
  requireAuth env admin
  assertAdmin s admin
  let category ← loadCategory s categoryId
  panicIf (category.active = false) "Category is not active"
  let (totalSharesBps, shareBps) ← replaceShare s category newShareBps
  let category := { category with shareBps, recipient := newRecipient.getD category.recipient }
  .ok (category, { s with category := s.category.set categoryId category, totalSharesBps })

def removeCategory (env : Env) (admin : Address) (categoryId : Symbol) (s : State τ) :
    Result (State τ) := do
  requireAuth env admin
  assertAdmin s admin
  let category ← loadCategory s categoryId
  panicIf (category.active = false) "Category already inactive"
  let newTotal ← U32.checkedSub s.totalSharesBps category.shareBps "Share total underflow"
  .ok { s with
    totalSharesBps := newTotal
    category := s.category.set categoryId { category with active := false, shareBps := 0 } }

def reactivateCategory (env : Env) (admin : Address) (categoryId : Symbol) (shareBps : ℕ)
    (s : State τ) : Result (State τ) := do
  requireAuth env admin
  assertAdmin s admin
  let category ← loadCategory s categoryId
  panicIf (category.active = true) "Category already active"
  validateShare shareBps
  let newTotal ← addShares s.totalSharesBps shareBps
  .ok { s with
    totalSharesBps := newTotal
    category := s.category.set categoryId { category with active := true, shareBps } }

def setExempt (env : Env) (admin account : Address) (exempt : Bool) (s : State τ) :
    Result (State τ) := do
  requireAuth env admin
  assertAdmin s admin
  .ok { s with exempt := s.exempt.set account exempt }

def calculateFee (s : State τ) (amount : ℤ) : Result ℤ := do
  panicIf (amount ≤ 0) "Amount must be positive"
  let rate ← feeRate s
  let scaled ← I128.checked (amount * rate) "Fee multiplication overflow"
  I128.div scaled bpsDenominator

def collectFee (env : Env) (payer : Address) (grossAmount : ℤ) (s : State τ) :
    Result (ℤ × State τ) := do
  requireAuth env payer
  panicIf (s.paused = true) "Fee collection is paused"
  panicIf (grossAmount ≤ 0) "Amount must be positive"
  if isExempt s payer = true then .ok (0, s) else do
    let fee ← calculateFee s grossAmount
    if fee ≤ 0 then .ok (0, s) else do
      let token ← getToken s
      let s ← transferToken tok s token payer self fee
      let totalCollected ← I128.checked (s.totalCollected + fee) "Total collected overflow"
      .ok (fee, { s with totalCollected })

/-- The category takes part in a distribution. -/
def RecipientCategory.Takes (category : RecipientCategory) : Prop :=
  category.active = true ∧ category.shareBps > 0

instance (category : RecipientCategory) : Decidable category.Takes :=
  inferInstanceAs (Decidable (_ ∧ _))

/-- The first loop of `distribute`. -/
def countActive (s : State τ) : List Symbol → ℕ → Result ℕ
  | [], activeCount => .ok activeCount
  | categoryId :: rest, activeCount => do
    let category ← loadCategory s categoryId
    countActive s rest (if category.Takes then activeCount + 1 else activeCount)

/-- What the second loop of `distribute` carries along. -/
structure Progress where
  allocations : List CategoryAllocation
  allocatedSum : ℤ
  processed : ℕ

/-- The amount of a category; the last one also takes the rounding remainder. -/
def allocation (pending allocatedSum : ℤ) (shareBps : ℕ) (last : Bool) : Result ℤ := do
  let scaled ← I128.checked (pending * shareBps) "Allocation multiplication overflow"
  let amount ← I128.div scaled bpsDenominator
  if last = true then do
    let left ← I128.checked (pending - allocatedSum) "Remainder underflow"
    let remainder ← I128.checked (left - amount) "Remainder underflow"
    I128.checked (amount + remainder) "Remainder overflow"
  else .ok amount

/-- One iteration of the second loop of `distribute`. -/
def allocate (pending : ℤ) (activeCount : ℕ) (categoryId : Symbol) (progress : Progress)
    (s : State τ) : Result (Progress × State τ) := do
  let category ← loadCategory s categoryId
  if ¬ category.Takes then .ok (progress, s) else do
    let processed := progress.processed + 1
    let amount ←
      allocation pending progress.allocatedSum category.shareBps (processed == activeCount)
    let totalAllocated ←
      I128.checked (category.totalAllocated + amount) "Category allocation overflow"
    let allocatedSum ← I128.checked (progress.allocatedSum + amount) "Allocated sum overflow"
    .ok (⟨progress.allocations ++ [⟨categoryId, amount⟩], allocatedSum, processed⟩,
      { s with category := s.category.set categoryId { category with totalAllocated } })

def allocateAll (pending : ℤ) (activeCount : ℕ) :
    List Symbol → Progress → State τ → Result (Progress × State τ)
  | [], progress, s => .ok (progress, s)
  | categoryId :: rest, progress, s => do
    let (progress, s) ← allocate pending activeCount categoryId progress s
    allocateAll pending activeCount rest progress s

def distribute (env : Env) (s : State τ) : Result (DistributionRecord × State τ) := do
  panicIf (s.totalSharesBps ≠ 10000) "Recipient shares are not fully configured"
  let pending ← I128.checked (s.totalCollected - s.totalAllocated) "Pending underflow"
  panicIf (pending ≤ 0) "No pending fees to distribute"
  let activeCount ← countActive s s.categoryIds 0
  panicIf (activeCount = 0) "No active recipient categories"
  let (progress, s) ← allocateAll pending activeCount s.categoryIds ⟨[], 0, 0⟩ s
  let totalAllocated ← I128.checked (s.totalAllocated + pending) "Total allocated overflow"
  let distributionId ← U64.checked (s.distributionCounter + 1) "Distribution ID overflow"
  let record := ⟨distributionId, pending, activeCount, env.timestamp, progress.allocations⟩
  .ok (record, { s with
    totalAllocated, distributionCounter := distributionId
    distribution := s.distribution.set distributionId record })

def claim (env : Env) (categoryId : Symbol) (recipient : Address) (s : State τ) :
    Result (ℤ × State τ) := do
  requireAuth env recipient
  let (paid, s) ← claimOne tok self categoryId recipient true s
  panicIf (paid ≤ 0) "Nothing to claim"
  .ok (paid, s)

/-- The loop of `claim_batch`. -/
def claimEach (recipient : Address) : List Symbol → ℤ → State τ → Result (ℤ × State τ)
  | [], totalPaid, s => .ok (totalPaid, s)
  | categoryId :: rest, totalPaid, s => do
    let (paid, s) ← claimOne tok self categoryId recipient false s
    let totalPaid ← I128.checked (totalPaid + paid) "Claim total overflow"
    claimEach recipient rest totalPaid s

def claimBatch (env : Env) (categoryIds : List Symbol) (recipient : Address) (s : State τ) :
    Result (ℤ × State τ) := do
  requireAuth env recipient
  panicIf (categoryIds.isEmpty = true) "No categories provided"
  panicIf (categoryIds.length > maxBatchSize) "Batch exceeds maximum size"
  let (totalPaid, s) ← claimEach tok self recipient categoryIds 0 s
  panicIf (totalPaid ≤ 0) "Nothing to claim"
  .ok (totalPaid, s)

def getClaimable (s : State τ) (categoryId : Symbol) : Result ℤ := do
  let category ← loadCategory s categoryId
  I128.checked (category.totalAllocated - category.totalClaimed) "Claimable underflow"

inductive Op where
  | initializeContract (admin token : Address) (feeRateBps maxFeeRateBps : ℕ)
  | pause (admin : Address)
  | unpause (admin : Address)
  | setFeeRate (admin : Address) (newRateBps : ℕ)
  | emergencySetFeeRate (admin : Address) (newRateBps : ℕ)
  | setMaxFeeRate (admin : Address) (newMaxBps : ℕ)
  | addCategory (admin : Address) (categoryId : Symbol) (recipient : Address) (shareBps : ℕ)
  | updateCategory (admin : Address) (categoryId : Symbol) (newRecipient : Option Address)
      (newShareBps : Option ℕ)
  | removeCategory (admin : Address) (categoryId : Symbol)
  | reactivateCategory (admin : Address) (categoryId : Symbol) (shareBps : ℕ)
  | setExempt (admin account : Address) (exempt : Bool)
  | collectFee (payer : Address) (grossAmount : ℤ)
  | distribute
  | claim (categoryId : Symbol) (recipient : Address)
  | claimBatch (categoryIds : List Symbol) (recipient : Address)

def invoke (env : Env) (op : Op) (s : State τ) : Result (State τ) :=
  match op with
  | .initializeContract admin token feeRateBps maxFeeRateBps =>
    initializeContract env admin token feeRateBps maxFeeRateBps s
  | .pause admin => pause env admin s
  | .unpause admin => unpause env admin s
  | .setFeeRate admin newRateBps => setFeeRate env admin newRateBps s
  | .emergencySetFeeRate admin newRateBps => emergencySetFeeRate env admin newRateBps s
  | .setMaxFeeRate admin newMaxBps => setMaxFeeRate env admin newMaxBps s
  | .addCategory admin categoryId recipient shareBps =>
    addCategory env admin categoryId recipient shareBps s
  | .updateCategory admin categoryId newRecipient newShareBps =>
    (updateCategory env admin categoryId newRecipient newShareBps s).map (·.2)
  | .removeCategory admin categoryId => removeCategory env admin categoryId s
  | .reactivateCategory admin categoryId shareBps =>
    reactivateCategory env admin categoryId shareBps s
  | .setExempt admin account exempt => setExempt env admin account exempt s
  | .collectFee payer grossAmount => (collectFee tok self env payer grossAmount s).map (·.2)
  | .distribute => (distribute env s).map (·.2)
  | .claim categoryId recipient => (claim tok self env categoryId recipient s).map (·.2)
  | .claimBatch categoryIds recipient =>
    (claimBatch tok self env categoryIds recipient s).map (·.2)

/-- An invocation, or transfers of tokens in which the contract has no part. -/
inductive Action (τ : Type) where
  | call (env : Env) (op : Op)
  | transfers (tokens : τ)

def next (a : Action τ) (s : State τ) : Result (State τ) :=
  match a with
  | .call env op => invoke tok self env op s
  | .transfers tokens => .ok { s with tokens }

end FeeDistribution
