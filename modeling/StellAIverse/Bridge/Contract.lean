import StellAIverse.Soroban.Store
import StellAIverse.Soroban.Token

/-!
# The bridge gateway

Assets are locked here and minted on another chain, or the other way round:
validators approve a transaction, the administrator completes it. Storage and
every entry point that writes, in the order of the source; events and the other
getters are left out. No tokens move: the gateway keeps totals only.
-/

namespace Bridge

open Soroban

def maxValidatorsPerChain : ℕ := 50

def minValidatorsPerChain : ℕ := 3

def maxFeeBps : ℕ := 500

def defaultTimelockDuration : ℕ := 86400

def maxBridgeAmount : ℤ := 50000000000000000

def minBridgeAmount : ℤ := 1000000

def maxDisputeReasonLength : ℕ := 512

def defaultFeeBps : ℕ := 10

inductive SupportedChain where
  | ethereum
  | solana
  | polygon
  | bsc
  deriving DecidableEq, Repr

inductive BridgeStatus where
  | pending
  | validated
  | completed
  | failed
  | disputed
  | cancelled
  deriving DecidableEq, Repr

inductive BridgeDirection where
  | outbound
  | inbound
  deriving DecidableEq, Repr

structure BridgeTransaction where
  txId : ℕ
  direction : BridgeDirection
  sourceChain : SupportedChain
  destChain : SupportedChain
  sender : Address
  recipient : Address
  assetCode : String
  amount : ℤ
  fee : ℤ
  status : BridgeStatus
  sourceTxHash : String
  destTxHash : Option String
  nonce : ℕ
  timestamp : ℕ
  validatorApprovals : ℕ
  merkleRoot : Option String

structure ValidatorSignature where
  validator : Address
  txId : ℕ
  approved : Bool
  timestamp : ℕ
  signatureData : String

structure ValidatorSetConfig where
  chain : SupportedChain
  validators : List Address
  requiredApprovals : ℕ
  active : Bool

structure WrappedAsset where
  assetCode : String
  assetIssuer : Address
  wrappedAddress : String
  chain : SupportedChain
  totalSupply : ℤ
  totalLocked : ℤ
  active : Bool

structure BridgeFeeTier where
  chain : SupportedChain
  minAmount : ℤ
  maxAmount : ℤ
  feeBps : ℕ
  active : Bool

structure LiquidityPool where
  poolId : ℕ
  assetCode : String
  chain : SupportedChain
  totalLiquidity : ℤ
  totalVolume : ℤ
  lpTokenBalance : ℤ
  active : Bool

structure LiquidityProviderDeposit where
  provider : Address
  poolId : ℕ
  amount : ℤ
  lpTokens : ℤ
  timestamp : ℕ

structure EmergencyConfig where
  paused : Bool
  pausedBy : Option Address
  pausedAt : Option ℕ
  unpauseAfter : Option ℕ
  reason : Option String

def EmergencyConfig.none : EmergencyConfig := ⟨false, .none, .none, .none, .none⟩

structure BridgeDispute where
  disputeId : ℕ
  txId : ℕ
  disputer : Address
  reason : String
  resolved : Bool
  resolution : Option String
  createdAt : ℕ
  resolvedAt : Option ℕ

structure BridgeConfig where
  admin : Address
  paused : Bool
  timelockDuration : ℕ
  minBridgeAmount : ℤ
  maxBridgeAmount : ℤ
  defaultFeeBps : ℕ
  txCounter : ℕ
  disputeCounter : ℕ
  lpCounter : ℕ

/-- Contract storage. Signatures are read under `StorageKey::ValidatorSig` and written under
a tuple with the symbol `vsig`, which are different keys. -/
structure State where
  config : Option BridgeConfig
  tx : Store ℕ BridgeTransaction
  txHash : Store String ℕ
  validatorSig : Store (ℕ × ℕ) ValidatorSignature
  vsig : Store (ℕ × ℕ) ValidatorSignature
  validatorSet : Store SupportedChain ValidatorSetConfig
  wrappedAsset : Store (String × SupportedChain) WrappedAsset
  feeTier : Store (SupportedChain × ℕ) BridgeFeeTier
  liquidityPool : Store ℕ LiquidityPool
  lpDeposit : Store (ℕ × ℕ) LiquidityProviderDeposit
  emergency : Option EmergencyConfig
  dispute : Store ℕ BridgeDispute
  supportedChains : Option (List SupportedChain)

def deployed : State where
  config := none
  tx := .empty
  txHash := .empty
  validatorSig := .empty
  vsig := .empty
  validatorSet := .empty
  wrappedAsset := .empty
  feeTier := .empty
  liquidityPool := .empty
  lpDeposit := .empty
  emergency := none
  dispute := .empty
  supportedChains := none

def initializeBridge (admin : Address) (s : State) : State :=
  { s with
    config := some {
      admin
      paused := false
      timelockDuration := defaultTimelockDuration
      minBridgeAmount
      maxBridgeAmount
      defaultFeeBps
      txCounter := 0
      disputeCounter := 0
      lpCounter := 0 }
    emergency := some .none
    supportedChains := some [] }

def getConfig (s : State) : Result BridgeConfig := expect s.config "Bridge not initialized"

def setConfig (config : BridgeConfig) (s : State) : State := { s with config := some config }

def getEmergency (s : State) : EmergencyConfig := s.emergency.getD .none

def setEmergency (emergency : EmergencyConfig) (s : State) : State :=
  { s with emergency := some emergency }

/-- A pause whose time is over is lifted here. -/
def requireNotPaused (env : Env) (s : State) : Result State :=
  let emergency := getEmergency s
  if emergency.paused = true then
    match emergency.unpauseAfter with
    | some unpauseAfter =>
      if env.timestamp < unpauseAfter then .error (.panic "Bridge is paused")
      else .ok (setEmergency { emergency with paused := false, unpauseAfter := none } s)
    | none => .error (.panic "Bridge is paused")
  else .ok s

def isChainSupported (s : State) (chain : SupportedChain) : Bool :=
  (s.supportedChains.getD []).contains chain

def addSupportedChain (chain : SupportedChain) (s : State) : State :=
  if isChainSupported s chain then s
  else { s with supportedChains := some (s.supportedChains.getD [] ++ [chain]) }

def removeSupportedChain (chain : SupportedChain) (s : State) : State :=
  { s with supportedChains := some ((s.supportedChains.getD []).filter (· ≠ chain)) }

def setValidatorSet (config : ValidatorSetConfig) (s : State) : State :=
  { s with validatorSet := s.validatorSet.set config.chain config }

def nextTxId (s : State) : Result (ℕ × State) := do
  let config ← getConfig s
  let txCounter ← U64.add config.txCounter 1
  .ok (txCounter, setConfig { config with txCounter } s)

def storeTransaction (tx : BridgeTransaction) (s : State) : State :=
  { s with tx := s.tx.set tx.txId tx, txHash := s.txHash.set tx.sourceTxHash tx.txId }

def setTransaction (tx : BridgeTransaction) (s : State) : State :=
  { s with tx := s.tx.set tx.txId tx }

def isDuplicateTx (s : State) (sourceTxHash : String) : Bool :=
  (s.txHash.get? sourceTxHash).isSome

def getValidatorSignature (s : State) (txId validatorIndex : ℕ) : Option ValidatorSignature :=
  s.validatorSig.get? (txId, validatorIndex)

def setWrappedAsset (asset : WrappedAsset) (s : State) : State :=
  { s with wrappedAsset := s.wrappedAsset.set (asset.assetCode, asset.chain) asset }

def setFeeTierAt (chain : SupportedChain) (index : ℕ) (tier : BridgeFeeTier) (s : State) : State :=
  { s with feeTier := s.feeTier.set (chain, index) tier }

/-- The loop over the tiers of a chain; after the last index of a `u32` it traps. -/
def matchFeeTier (s : State) (chain : SupportedChain) (amount : ℤ) (feeBps : ℕ) :
    ℕ → ℕ → Result ℕ
  | 0, _ => .error .overflow
  | left + 1, index =>
    match s.feeTier.get? (chain, index) with
    | none => .ok feeBps
    | some tier =>
      if tier.active = true ∧ amount ≥ tier.minAmount ∧ amount ≤ tier.maxAmount then .ok tier.feeBps
      else matchFeeTier s chain amount feeBps left (index + 1)

def calculateFee (s : State) (chain : SupportedChain) (amount : ℤ) : Result ℤ := do
  let config ← getConfig s
  let feeBps ← matchFeeTier s chain amount config.defaultFeeBps (2 ^ 32) 0
  let product ← I128.mul amount feeBps
  I128.div product 10000

def setLiquidityPool (pool : LiquidityPool) (s : State) : State :=
  { s with liquidityPool := s.liquidityPool.set pool.poolId pool }

def nextLpId (s : State) : Result (ℕ × State) := do
  let config ← getConfig s
  let lpCounter ← U64.add config.lpCounter 1
  .ok (lpCounter, setConfig { config with lpCounter } s)

/-- The loop of `set_lp_deposit` to the first index without a deposit. -/
def freeIndex (s : State) (poolId : ℕ) : ℕ → ℕ → Result ℕ
  | 0, _ => .error .overflow
  | left + 1, index =>
    if (s.lpDeposit.get? (poolId, index)).isSome then freeIndex s poolId left (index + 1)
    else .ok index

def setLpDeposit (deposit : LiquidityProviderDeposit) (s : State) : Result State := do
  let index ← freeIndex s deposit.poolId (2 ^ 32) 0
  .ok { s with lpDeposit := s.lpDeposit.set (deposit.poolId, index) deposit }

def setDispute (dispute : BridgeDispute) (s : State) : State :=
  { s with dispute := s.dispute.set dispute.disputeId dispute }

def nextDisputeId (s : State) : Result (ℕ × State) := do
  let config ← getConfig s
  let disputeCounter ← U64.add config.disputeCounter 1
  .ok (disputeCounter, setConfig { config with disputeCounter } s)

/-- The checks at the head of every call of the administrator. -/
def requireAdmin (env : Env) (admin : Address) (s : State) : Result BridgeConfig := do
  requireAuth env admin
  let config ← getConfig s
  panicIf (admin ≠ config.admin) "Unauthorized: not admin"
  .ok config

def initializeContract (env : Env) (admin : Address) (s : State) : Result State := do
  let config ← getConfig s
  panicIf (config.txCounter > 0) "Bridge already initialized"
  requireAuth env admin
  .ok (initializeBridge admin s)

def updateConfig (env : Env) (admin : Address) (timelockDuration : Option ℕ)
    (minBridgeAmount maxBridgeAmount : Option ℤ) (defaultFeeBps : Option ℕ) (s : State) :
    Result State := do
  let config ← requireAdmin env admin s
  panicIf (∃ fee ∈ defaultFeeBps, ¬ fee ≤ maxFeeBps) "Fee exceeds maximum"
  .ok (setConfig { config with
    timelockDuration := timelockDuration.getD config.timelockDuration
    minBridgeAmount := minBridgeAmount.getD config.minBridgeAmount
    maxBridgeAmount := maxBridgeAmount.getD config.maxBridgeAmount
    defaultFeeBps := defaultFeeBps.getD config.defaultFeeBps } s)

def transferAdmin (env : Env) (admin newAdmin : Address) (s : State) : Result State := do
  let config ← requireAdmin env admin s
  .ok (setConfig { config with admin := newAdmin } s)

def addChain (env : Env) (admin : Address) (chain : SupportedChain) (s : State) : Result State := do
  let _ ← requireAdmin env admin s
  .ok (addSupportedChain chain s)

def removeChain (env : Env) (admin : Address) (chain : SupportedChain) (s : State) :
    Result State := do
  let _ ← requireAdmin env admin s
  .ok (removeSupportedChain chain s)

def registerValidatorSet (env : Env) (admin : Address) (chain : SupportedChain)
    (validators : List Address) (requiredApprovals : ℕ) (s : State) : Result State := do
  let _ ← requireAdmin env admin s
  panicIf (¬ validators.length ≥ minValidatorsPerChain) "Need at least 3 validators"
  panicIf (¬ validators.length ≤ maxValidatorsPerChain) "Too many validators (max 50)"
  panicIf (¬ (requiredApprovals > 0 ∧ requiredApprovals ≤ validators.length))
    "Invalid threshold: must be 1..=count"
  .ok (setValidatorSet ⟨chain, validators, requiredApprovals, true⟩ s)

def updateValidatorThreshold (env : Env) (admin : Address) (chain : SupportedChain)
    (newThreshold : ℕ) (s : State) : Result State := do
  let _ ← requireAdmin env admin s
  let vs ← expect (s.validatorSet.get? chain) "Validator set not found"
  panicIf (¬ (newThreshold > 0 ∧ newThreshold ≤ vs.validators.length)) "Invalid threshold"
  .ok (setValidatorSet { vs with requiredApprovals := newThreshold } s)

def addValidator (env : Env) (admin : Address) (chain : SupportedChain) (validator : Address)
    (s : State) : Result State := do
  let _ ← requireAdmin env admin s
  let vs ← expect (s.validatorSet.get? chain) "Validator set not found"
  panicIf (validator ∈ vs.validators) "Validator already in set"
  panicIf (¬ vs.validators.length < maxValidatorsPerChain) "Validator set is full"
  .ok (setValidatorSet { vs with validators := vs.validators ++ [validator] } s)

def removeValidator (env : Env) (admin : Address) (chain : SupportedChain) (validator : Address)
    (s : State) : Result State := do
  let _ ← requireAdmin env admin s
  let vs ← expect (s.validatorSet.get? chain) "Validator set not found"
  let newValidators := vs.validators.filter (· ≠ validator)
  panicIf (validator ∉ vs.validators) "Validator not in set"
  panicIf (¬ newValidators.length ≥ minValidatorsPerChain) "Cannot go below minimum validators"
  .ok (setValidatorSet { vs with
    requiredApprovals :=
      if vs.requiredApprovals > newValidators.length then newValidators.length
      else vs.requiredApprovals
    validators := newValidators } s)

def registerWrappedAsset (env : Env) (admin : Address) (assetCode : String) (assetIssuer : Address)
    (chain : SupportedChain) (s : State) : Result State := do
  let _ ← requireAdmin env admin s
  panicIf (isChainSupported s chain = false) "Chain not supported"
  .ok (setWrappedAsset {
    assetCode, assetIssuer, chain
    wrappedAddress := ""
    totalSupply := 0
    totalLocked := 0
    active := true } s)

def deactivateWrappedAsset (env : Env) (admin : Address) (assetCode : String)
    (chain : SupportedChain) (s : State) : Result State := do
  let _ ← requireAdmin env admin s
  let asset ← expect (s.wrappedAsset.get? (assetCode, chain)) "Wrapped asset not found"
  .ok (setWrappedAsset { asset with active := false } s)

def setFeeTier (env : Env) (admin : Address) (chain : SupportedChain) (tierIndex : ℕ)
    (minAmount maxAmount : ℤ) (feeBps : ℕ) (s : State) : Result State := do
  let _ ← requireAdmin env admin s
  panicIf (¬ feeBps ≤ maxFeeBps) "Fee exceeds maximum"
  panicIf (¬ minAmount ≥ 0) "Min amount must be non-negative"
  panicIf (¬ maxAmount > minAmount) "Max must be greater than min"
  .ok (setFeeTierAt chain tierIndex ⟨chain, minAmount, maxAmount, feeBps, true⟩ s)

/-- The transaction `lock_assets` stores. Ethereum stands for Stellar as the source. -/
def outboundTransaction (env : Env) (txId : ℕ) (sender : Address) (destChain : SupportedChain)
    (assetCode : String) (amount fee : ℤ) (sourceTxHash : String) : BridgeTransaction where
  txId := txId
  direction := .outbound
  sourceChain := .ethereum
  destChain := destChain
  sender := sender
  recipient := sender
  assetCode := assetCode
  amount := amount
  fee := fee
  status := .pending
  sourceTxHash := sourceTxHash
  destTxHash := none
  nonce := txId
  timestamp := env.timestamp
  validatorApprovals := 0
  merkleRoot := none

@[simp] theorem outboundTransaction_status (env : Env) (txId : ℕ) (sender : Address)
    (destChain : SupportedChain) (assetCode : String) (amount fee : ℤ) (sourceTxHash : String) :
    (outboundTransaction env txId sender destChain assetCode amount fee sourceTxHash).status =
      .pending := rfl

/-- The transaction `mint_assets` stores. Ethereum stands for Stellar as the destination. -/
def inboundTransaction (env : Env) (txId : ℕ) (sender : Address) (sourceChain : SupportedChain)
    (assetCode : String) (amount : ℤ) (sourceTxHash merkleRoot : String) : BridgeTransaction where
  txId := txId
  direction := .inbound
  sourceChain := sourceChain
  destChain := .ethereum
  sender := sender
  recipient := sender
  assetCode := assetCode
  amount := amount
  fee := 0
  status := .pending
  sourceTxHash := sourceTxHash
  destTxHash := none
  nonce := txId
  timestamp := env.timestamp
  validatorApprovals := 0
  merkleRoot := some merkleRoot

@[simp] theorem inboundTransaction_status (env : Env) (txId : ℕ) (sender : Address)
    (sourceChain : SupportedChain) (assetCode : String) (amount : ℤ)
    (sourceTxHash merkleRoot : String) :
    (inboundTransaction env txId sender sourceChain assetCode amount sourceTxHash merkleRoot).status =
      .pending := rfl

def lockAssets (env : Env) (sender : Address) (destChain : SupportedChain) (assetCode : String)
    (amount : ℤ) (destAddress sourceTxHash : String) (s : State) : Result (ℕ × State) := do
  requireAuth env sender
  let s ← requireNotPaused env s
  let config ← getConfig s
  panicIf (isChainSupported s destChain = false) "Chain not supported"
  panicIf (¬ amount ≥ config.minBridgeAmount) "Amount below minimum"
  panicIf (¬ amount ≤ config.maxBridgeAmount) "Amount exceeds maximum"
  panicIf (sourceTxHash = "") "Source tx hash required"
  panicIf (destAddress = "") "Destination address required"
  panicIf (isDuplicateTx s sourceTxHash = true) "Double spend detected: duplicate source tx hash"
  let wrapped ← expect (s.wrappedAsset.get? (assetCode, destChain))
    "Wrapped asset not found for this chain"
  panicIf (wrapped.active = false) "Wrapped asset is not active"
  let fee ← calculateFee s destChain amount
  let bridgeAmount ← I128.sub amount fee
  let (txId, s) ← nextTxId s
  let tx := outboundTransaction env txId sender destChain assetCode bridgeAmount fee sourceTxHash
  let s := storeTransaction tx s
  let totalLocked ← I128.add wrapped.totalLocked bridgeAmount
  .ok (txId, setWrappedAsset { wrapped with totalLocked } s)

def approveTransaction (env : Env) (validator : Address) (txId : ℕ) (chain : SupportedChain)
    (signatureData : String) (s : State) : Result (ℕ × State) := do
  requireAuth env validator
  let s ← requireNotPaused env s
  let tx ← expect (s.tx.get? txId) "Transaction not found"
  panicIf (tx.status ≠ .pending) "Transaction not in pending state"
  panicIf (¬ (tx.destChain = chain ∨ tx.sourceChain = chain)) "Chain mismatch"
  let vs ← expect (s.validatorSet.get? chain) "Validator set not found for chain"
  panicIf (vs.active = false) "Validator set is not active"
  panicIf (validator ∉ vs.validators) "Validator not in set"
  panicIf (tx.validatorApprovals > 0 ∧
      ∃ sig ∈ getValidatorSignature s txId tx.validatorApprovals, sig.validator = validator)
    "Validator already approved"
  let sig : ValidatorSignature := ⟨validator, txId, true, env.timestamp, signatureData⟩
  let s := { s with vsig := s.vsig.set (txId, tx.validatorApprovals) sig }
  let validatorApprovals ← U32.add tx.validatorApprovals 1
  let tx := { tx with
    validatorApprovals
    status := if validatorApprovals ≥ vs.requiredApprovals then .validated else tx.status }
  .ok (validatorApprovals, setTransaction tx s)

def completeTransaction (env : Env) (admin : Address) (txId : ℕ) (destTxHash : String) (s : State) :
    Result State := do
  let _ ← requireAdmin env admin s
  let tx ← expect (s.tx.get? txId) "Transaction not found"
  panicIf (tx.status ≠ .validated) "Transaction must be validated first"
  let wrapped ← expect (s.wrappedAsset.get? (tx.assetCode, tx.destChain)) "Wrapped asset not found"
  let totalSupply ← I128.add wrapped.totalSupply tx.amount
  let s := setWrappedAsset { wrapped with totalSupply } s
  .ok (setTransaction { tx with status := .completed, destTxHash := some destTxHash } s)

def mintAssets (env : Env) (sender : Address) (sourceChain : SupportedChain) (assetCode : String)
    (amount : ℤ) (sourceTxHash merkleRoot : String) (s : State) : Result (ℕ × State) := do
  requireAuth env sender
  let s ← requireNotPaused env s
  let config ← getConfig s
  panicIf (isChainSupported s sourceChain = false) "Chain not supported"
  panicIf (¬ amount ≥ config.minBridgeAmount) "Amount below minimum"
  panicIf (isDuplicateTx s sourceTxHash = true) "Double spend detected"
  let wrapped ← expect (s.wrappedAsset.get? (assetCode, sourceChain)) "Wrapped asset not found"
  panicIf (wrapped.active = false) "Wrapped asset not active"
  let (txId, s) ← nextTxId s
  let tx := inboundTransaction env txId sender sourceChain assetCode amount sourceTxHash merkleRoot
  .ok (txId, storeTransaction tx s)

def releaseAssets (env : Env) (admin : Address) (txId : ℕ) (s : State) : Result State := do
  let _ ← requireAdmin env admin s
  let tx ← expect (s.tx.get? txId) "Transaction not found"
  panicIf (tx.status ≠ .validated) "Transaction must be validated"
  panicIf (tx.direction ≠ .inbound) "Only inbound transactions release assets"
  let wrapped ← expect (s.wrappedAsset.get? (tx.assetCode, tx.sourceChain)) "Wrapped asset not found"
  let s := setWrappedAsset { wrapped with
    totalSupply := I128.saturatingSub wrapped.totalSupply tx.amount
    totalLocked := I128.saturatingSub wrapped.totalLocked tx.amount } s
  .ok (setTransaction { tx with status := .completed } s)

def createLiquidityPool (env : Env) (admin : Address) (assetCode : String) (chain : SupportedChain)
    (s : State) : Result (ℕ × State) := do
  let _ ← requireAdmin env admin s
  let (poolId, s) ← nextLpId s
  .ok (poolId, setLiquidityPool ⟨poolId, assetCode, chain, 0, 0, 0, true⟩ s)

/-- LP tokens for a deposit, at the present rate of the pool. -/
def lpTokensFor (pool : LiquidityPool) (amount : ℤ) : Result ℤ :=
  if pool.totalLiquidity = 0 then .ok amount
  else do
    let product ← I128.mul amount pool.lpTokenBalance
    I128.div product pool.totalLiquidity

def addLiquidity (env : Env) (provider : Address) (poolId : ℕ) (amount : ℤ) (s : State) :
    Result (ℤ × State) := do
  requireAuth env provider
  panicIf (¬ amount > 0) "Amount must be positive"
  let pool ← expect (s.liquidityPool.get? poolId) "Pool not found"
  panicIf (pool.active = false) "Pool not active"
  let lpTokens ← lpTokensFor pool amount
  let totalLiquidity ← I128.add pool.totalLiquidity amount
  let lpTokenBalance ← I128.add pool.lpTokenBalance lpTokens
  let s := setLiquidityPool { pool with totalLiquidity, lpTokenBalance } s
  let s ← setLpDeposit ⟨provider, poolId, amount, lpTokens, env.timestamp⟩ s
  .ok (lpTokens, s)

def removeLiquidity (env : Env) (provider : Address) (poolId : ℕ) (lpAmount : ℤ) (s : State) :
    Result (ℤ × State) := do
  requireAuth env provider
  panicIf (¬ lpAmount > 0) "LP amount must be positive"
  let pool ← expect (s.liquidityPool.get? poolId) "Pool not found"
  panicIf (pool.active = false) "Pool not active"
  panicIf (¬ lpAmount ≤ pool.lpTokenBalance) "Insufficient LP tokens"
  let product ← I128.mul lpAmount pool.totalLiquidity
  let withdrawAmount ← I128.div product pool.lpTokenBalance
  let totalLiquidity ← I128.sub pool.totalLiquidity withdrawAmount
  let lpTokenBalance ← I128.sub pool.lpTokenBalance lpAmount
  .ok (withdrawAmount, setLiquidityPool { pool with totalLiquidity, lpTokenBalance } s)

def pauseBridge (env : Env) (admin : Address) (reason : String) (unpauseAfter : Option ℕ)
    (s : State) : Result State := do
  let _ ← requireAdmin env admin s
  .ok (setEmergency ⟨true, some admin, some env.timestamp, unpauseAfter, some reason⟩ s)

def unpauseBridge (env : Env) (admin : Address) (s : State) : Result State := do
  let _ ← requireAdmin env admin s
  .ok (setEmergency .none s)

def fileDispute (env : Env) (disputer : Address) (txId : ℕ) (reason : String) (s : State) :
    Result (ℕ × State) := do
  requireAuth env disputer
  panicIf (reason = "") "Reason required"
  panicIf (¬ reason.utf8ByteSize ≤ maxDisputeReasonLength) "Reason too long"
  let tx ← expect (s.tx.get? txId) "Transaction not found"
  panicIf (¬ (tx.status = .pending ∨ tx.status = .validated))
    "Transaction cannot be disputed in current state"
  let (disputeId, s) ← nextDisputeId s
  let dispute : BridgeDispute :=
    ⟨disputeId, txId, disputer, reason, false, none, env.timestamp, none⟩
  .ok (disputeId, setTransaction { tx with status := .disputed } (setDispute dispute s))

def resolveDispute (env : Env) (admin : Address) (disputeId : ℕ) (resolution : String)
    (s : State) : Result State := do
  let _ ← requireAdmin env admin s
  let dispute ← expect (s.dispute.get? disputeId) "Dispute not found"
  panicIf (dispute.resolved = true) "Dispute already resolved"
  let s := setDispute { dispute with
    resolved := true, resolution := some resolution, resolvedAt := some env.timestamp } s
  if resolution = "cancel" then
    match s.tx.get? dispute.txId with
    | some tx => .ok (setTransaction { tx with status := .cancelled } s)
    | none => .ok s
  else .ok s

/-- What was locked for an outbound transaction is taken off the total again. -/
def returnLocked (tx : BridgeTransaction) (s : State) : Result State :=
  if tx.direction = .outbound then do
    let wrapped ← expect (s.wrappedAsset.get? (tx.assetCode, tx.destChain)) "Wrapped asset not found"
    .ok (setWrappedAsset { wrapped with
      totalLocked := I128.saturatingSub wrapped.totalLocked tx.amount } s)
  else .ok s

def cancelTransaction (env : Env) (caller : Address) (txId : ℕ) (s : State) : Result State := do
  requireAuth env caller
  let tx ← expect (s.tx.get? txId) "Transaction not found"
  let config ← getConfig s
  panicIf (caller ≠ tx.sender ∧ caller ≠ config.admin) "Unauthorized: not sender or admin"
  panicIf (tx.status ≠ .pending) "Can only cancel pending transactions"
  returnLocked tx (setTransaction { tx with status := .cancelled } s)

inductive Op where
  | initializeContract (admin : Address)
  | updateConfig (admin : Address) (timelockDuration : Option ℕ)
      (minBridgeAmount maxBridgeAmount : Option ℤ) (defaultFeeBps : Option ℕ)
  | transferAdmin (admin newAdmin : Address)
  | addChain (admin : Address) (chain : SupportedChain)
  | removeChain (admin : Address) (chain : SupportedChain)
  | registerValidatorSet (admin : Address) (chain : SupportedChain) (validators : List Address)
      (requiredApprovals : ℕ)
  | updateValidatorThreshold (admin : Address) (chain : SupportedChain) (newThreshold : ℕ)
  | addValidator (admin : Address) (chain : SupportedChain) (validator : Address)
  | removeValidator (admin : Address) (chain : SupportedChain) (validator : Address)
  | registerWrappedAsset (admin : Address) (assetCode : String) (assetIssuer : Address)
      (chain : SupportedChain)
  | deactivateWrappedAsset (admin : Address) (assetCode : String) (chain : SupportedChain)
  | setFeeTier (admin : Address) (chain : SupportedChain) (tierIndex : ℕ)
      (minAmount maxAmount : ℤ) (feeBps : ℕ)
  | lockAssets (sender : Address) (destChain : SupportedChain) (assetCode : String) (amount : ℤ)
      (destAddress sourceTxHash : String)
  | approveTransaction (validator : Address) (txId : ℕ) (chain : SupportedChain)
      (signatureData : String)
  | completeTransaction (admin : Address) (txId : ℕ) (destTxHash : String)
  | mintAssets (sender : Address) (sourceChain : SupportedChain) (assetCode : String) (amount : ℤ)
      (sourceTxHash merkleRoot : String)
  | releaseAssets (admin : Address) (txId : ℕ)
  | createLiquidityPool (admin : Address) (assetCode : String) (chain : SupportedChain)
  | addLiquidity (provider : Address) (poolId : ℕ) (amount : ℤ)
  | removeLiquidity (provider : Address) (poolId : ℕ) (lpAmount : ℤ)
  | pauseBridge (admin : Address) (reason : String) (unpauseAfter : Option ℕ)
  | unpauseBridge (admin : Address)
  | fileDispute (disputer : Address) (txId : ℕ) (reason : String)
  | resolveDispute (admin : Address) (disputeId : ℕ) (resolution : String)
  | cancelTransaction (caller : Address) (txId : ℕ)

/-- An invocation, with what the host tells it. -/
structure Action where
  env : Env
  op : Op

def invoke (env : Env) (op : Op) (s : State) : Result State :=
  match op with
  | .initializeContract admin => initializeContract env admin s
  | .updateConfig admin timelockDuration minBridgeAmount maxBridgeAmount defaultFeeBps =>
    updateConfig env admin timelockDuration minBridgeAmount maxBridgeAmount defaultFeeBps s
  | .transferAdmin admin newAdmin => transferAdmin env admin newAdmin s
  | .addChain admin chain => addChain env admin chain s
  | .removeChain admin chain => removeChain env admin chain s
  | .registerValidatorSet admin chain validators requiredApprovals =>
    registerValidatorSet env admin chain validators requiredApprovals s
  | .updateValidatorThreshold admin chain newThreshold =>
    updateValidatorThreshold env admin chain newThreshold s
  | .addValidator admin chain validator => addValidator env admin chain validator s
  | .removeValidator admin chain validator => removeValidator env admin chain validator s
  | .registerWrappedAsset admin assetCode assetIssuer chain =>
    registerWrappedAsset env admin assetCode assetIssuer chain s
  | .deactivateWrappedAsset admin assetCode chain =>
    deactivateWrappedAsset env admin assetCode chain s
  | .setFeeTier admin chain tierIndex minAmount maxAmount feeBps =>
    setFeeTier env admin chain tierIndex minAmount maxAmount feeBps s
  | .lockAssets sender destChain assetCode amount destAddress sourceTxHash =>
    (lockAssets env sender destChain assetCode amount destAddress sourceTxHash s).map (·.2)
  | .approveTransaction validator txId chain signatureData =>
    (approveTransaction env validator txId chain signatureData s).map (·.2)
  | .completeTransaction admin txId destTxHash => completeTransaction env admin txId destTxHash s
  | .mintAssets sender sourceChain assetCode amount sourceTxHash merkleRoot =>
    (mintAssets env sender sourceChain assetCode amount sourceTxHash merkleRoot s).map (·.2)
  | .releaseAssets admin txId => releaseAssets env admin txId s
  | .createLiquidityPool admin assetCode chain =>
    (createLiquidityPool env admin assetCode chain s).map (·.2)
  | .addLiquidity provider poolId amount => (addLiquidity env provider poolId amount s).map (·.2)
  | .removeLiquidity provider poolId lpAmount =>
    (removeLiquidity env provider poolId lpAmount s).map (·.2)
  | .pauseBridge admin reason unpauseAfter => pauseBridge env admin reason unpauseAfter s
  | .unpauseBridge admin => unpauseBridge env admin s
  | .fileDispute disputer txId reason => (fileDispute env disputer txId reason s).map (·.2)
  | .resolveDispute admin disputeId resolution => resolveDispute env admin disputeId resolution s
  | .cancelTransaction caller txId => cancelTransaction env caller txId s

def next (a : Action) (s : State) : Result State := invoke a.env a.op s

/-- The state `storage::initialize_bridge` writes into empty storage. -/
def initialized (admin : Address) : State := initializeBridge admin deployed

end Bridge
