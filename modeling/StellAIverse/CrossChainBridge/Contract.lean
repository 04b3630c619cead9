import StellAIverse.Soroban.Mint

/-!
# The cross-chain token bridge

Tokens are locked or burned here for a transfer to another chain, and minted or
unlocked when a quorum of validators signed it. Storage and every entry point
that writes, in the order of the source; events and getters are left out.
-/

namespace CrossChainBridge

open Soroban

inductive ChainID where
  | stellar | ethereum | bsc | polygon | arbitrum | optimism
  deriving DecidableEq, Repr

/-- `chain as u32`. -/
def ChainID.code : ChainID → ℕ
  | stellar => 1
  | ethereum => 2
  | bsc => 3
  | polygon => 4
  | arbitrum => 5
  | optimism => 6

inductive TransactionStatus where
  | pending | locked | minted | burned | unlocked | failed | reverted
  deriving DecidableEq, Repr

/-- Direction of a transfer: lock here and mint there, or burn here and unlock there. -/
inductive TransferDirection where
  | lockAndMint | burnAndUnlock
  deriving DecidableEq, Repr

abbrev Bytes := List UInt8

structure BridgeTransfer where
  transferId : ℕ
  sourceChain : ChainID
  destinationChain : ChainID
  sender : Address
  recipient : Bytes
  tokenAddress : Address
  amount : ℤ
  fee : ℤ
  nonce : ℕ
  timestamp : ℕ
  status : TransactionStatus
  direction : TransferDirection
  signatures : List Bytes

structure Validator where
  address : Address
  publicKey : Bytes
  isActive : Bool
  power : ℕ
  joinedAt : ℕ

structure RateLimitConfig where
  dailyLimit : ℤ
  monthlyLimit : ℤ
  perTransactionMax : ℤ
  perTransactionMin : ℤ

structure RateLimitState where
  dailyUsed : ℤ
  monthlyUsed : ℤ
  lastDailyReset : ℕ
  lastMonthlyReset : ℕ
  perUserDaily : Store Address ℤ

structure SupportedToken where
  tokenAddress : Address
  symbol : String
  decimals : ℕ
  isMintable : Bool
  isLocked : Bool
  bridgeAddressOnOtherChains : List (ChainID × Bytes)

structure FeeConfig where
  basisPoints : ℕ
  minFee : ℤ
  feeCollector : Address

structure SignatureConfig where
  requiredSignatures : ℕ
  totalValidators : ℕ
  quorumPercentage : ℕ

inductive BridgeError where
  | unauthorized | alreadyInitialized | invalidArgument | bridgePaused | tokenNotSupported
  | transferNotFound | invalidTransferStatus | transferAlreadyProcessed | invalidChainPair
  | invalidAmount | nonceAlreadyUsed | invalidNonce | dailyLimitExceeded | monthlyLimitExceeded
  | perTransactionLimitExceeded | transactionBelowMinimum | validatorNotFound
  | validatorAlreadyExists | validatorAlreadyRemoved | invalidSignature | insufficientSignatures
  | alreadyPaused | alreadyUnpaused | invalidFeeConfiguration

def BridgeError.code : BridgeError → ℕ
  | unauthorized => 1
  | alreadyInitialized => 2
  | invalidArgument => 4
  | bridgePaused => 5
  | tokenNotSupported => 100
  | transferNotFound => 200
  | invalidTransferStatus => 201
  | transferAlreadyProcessed => 202
  | invalidChainPair => 203
  | invalidAmount => 204
  | nonceAlreadyUsed => 300
  | invalidNonce => 301
  | dailyLimitExceeded => 401
  | monthlyLimitExceeded => 402
  | perTransactionLimitExceeded => 403
  | transactionBelowMinimum => 404
  | validatorNotFound => 500
  | validatorAlreadyExists => 501
  | validatorAlreadyRemoved => 502
  | invalidSignature => 505
  | insufficientSignatures => 506
  | alreadyPaused => 600
  | alreadyUnpaused => 601
  | invalidFeeConfiguration => 701

instance : Coe BridgeError Fault := ⟨fun e => .contract e.code⟩

/-- Contract storage together with the token state. -/
structure State (τ : Type) where
  admin : Option Address
  paused : Option Bool
  initialized : Bool
  chainId : Option ChainID
  transferCounter : Option ℕ
  validatorCount : Option ℕ
  validatorList : Option (List Address)
  validator : Store Address Validator
  signatureConfig : Option SignatureConfig
  tokenCount : Option ℕ
  token : Store Address SupportedToken
  transfer : Store ℕ BridgeTransfer
  nonce : Store (Address × ℕ) Bool
  rateLimitConfig : Option RateLimitConfig
  rateLimitState : Option RateLimitState
  feeConfig : Option FeeConfig
  totalFees : Option ℤ
  tokens : τ

variable {τ : Type}

def deployed (tokens : τ) : State τ where
  admin := none
  paused := none
  initialized := false
  chainId := none
  transferCounter := none
  validatorCount := none
  validatorList := none
  validator := .empty
  signatureConfig := none
  tokenCount := none
  token := .empty
  transfer := .empty
  nonce := .empty
  rateLimitConfig := none
  rateLimitState := none
  feeConfig := none
  totalFees := none
  tokens := tokens

/-- What the host computes for the contract. -/
structure Host where
  /-- Public key, message and signature; the host traps on a signature that is not valid. -/
  ed25519Verify : Bytes → Bytes → Bytes → Bool
  /-- `Address::from_string_bytes`, which traps on bytes that name no address. -/
  addressFromStringBytes : Bytes → Option Address

def initializeContract (env : Env) (admin : Address) (chainId : ChainID)
    (signatureConfig : SignatureConfig) (feeConfig : FeeConfig) (rateLimitConfig : RateLimitConfig)
    (s : State τ) : Result (State τ) := do
  failIf (s.initialized = true) BridgeError.alreadyInitialized
  failIf (signatureConfig.quorumPercentage < 51 ∨ signatureConfig.quorumPercentage > 100)
    BridgeError.invalidArgument
  failIf (feeConfig.basisPoints > 1000) BridgeError.invalidFeeConfiguration
  .ok { s with
    admin := some admin
    chainId := some chainId
    signatureConfig := some signatureConfig
    feeConfig := some feeConfig
    rateLimitConfig := some rateLimitConfig
    rateLimitState := some ⟨0, 0, env.timestamp, env.timestamp, .empty⟩
    transferCounter := some 0
    validatorCount := some 0
    validatorList := some []
    tokenCount := some 0
    totalFees := some 0
    initialized := true
    paused := some false }

def ensureNotPaused (s : State τ) : Result Unit :=
  failIf (s.paused.getD false = true) BridgeError.bridgePaused

/-- The head of every call of the administrator. -/
def requireAdmin (env : Env) (s : State τ) : Result Unit := do
  let admin ← okOr s.admin BridgeError.unauthorized
  requireAuth env admin

/-- The signatures a percentage of the validators asks for, one at least. -/
def requiredOf (totalValidators quorumPercentage : ℕ) : ℕ :=
  max (totalValidators * quorumPercentage / 100 % 2 ^ 32) 1

def addValidator (env : Env) (validatorAddress : Address) (publicKey : Bytes) (power : ℕ)
    (s : State τ) : Result (State τ) := do
  requireAdmin env s
  ensureNotPaused s
  failIf ((s.validator.get? validatorAddress).isSome = true) BridgeError.validatorAlreadyExists
  let count ← U32.add (s.validatorCount.getD 0) 1
  let config ← okOr s.signatureConfig BridgeError.invalidArgument
  .ok { s with
    validator := s.validator.set validatorAddress
      ⟨validatorAddress, publicKey, true, power, env.timestamp⟩
    validatorList := some (s.validatorList.getD [] ++ [validatorAddress])
    validatorCount := some count
    signatureConfig := some { config with
      totalValidators := count
      requiredSignatures := requiredOf count config.quorumPercentage } }

def removeValidator (env : Env) (validatorAddress : Address) (s : State τ) : Result (State τ) := do
  requireAdmin env s
  ensureNotPaused s
  let validator ← okOr (s.validator.get? validatorAddress) BridgeError.validatorNotFound
  failIf (validator.isActive = false) BridgeError.validatorAlreadyRemoved
  let config ← okOr s.signatureConfig BridgeError.invalidArgument
  .ok { s with
    validator := s.validator.set validatorAddress { validator with isActive := false }
    signatureConfig := some { config with
      totalValidators := config.totalValidators - 1
      requiredSignatures := requiredOf (config.totalValidators - 1) config.quorumPercentage } }

def addSupportedToken (env : Env) (tokenAddress : Address) (symbol : String) (decimals : ℕ)
    (isMintable isLocked : Bool) (bridgeAddresses : List (ChainID × Bytes)) (s : State τ) :
    Result (State τ) := do
  requireAdmin env s
  ensureNotPaused s
  failIf ((s.token.get? tokenAddress).isSome = true) BridgeError.invalidArgument
  let count ← U32.add (s.tokenCount.getD 0) 1
  .ok { s with
    token := s.token.set tokenAddress
      ⟨tokenAddress, symbol, decimals, isMintable, isLocked, bridgeAddresses⟩
    tokenCount := some count }

def secondsPerDay : ℕ := 86400

def secondsPerMonth : ℕ := 2592000

/-- A day after the last reset the counters of the day start anew. -/
def resetDaily (now : ℕ) (state : RateLimitState) : Result RateLimitState := do
  let elapsed ← U64.sub now state.lastDailyReset
  .ok (if elapsed > secondsPerDay then
    { state with dailyUsed := 0, lastDailyReset := now, perUserDaily := .empty }
  else state)

def resetMonthly (now : ℕ) (state : RateLimitState) : Result RateLimitState := do
  let elapsed ← U64.sub now state.lastMonthlyReset
  .ok (if elapsed > secondsPerMonth then { state with monthlyUsed := 0, lastMonthlyReset := now }
  else state)

def checkRateLimits (env : Env) (user : Address) (amount : ℤ) (s : State τ) :
    Result (State τ) := do
  let config ← okOr s.rateLimitConfig BridgeError.invalidArgument
  let state ← okOr s.rateLimitState BridgeError.invalidArgument
  let state ← resetDaily env.timestamp state
  let state ← resetMonthly env.timestamp state
  failIf (amount > config.perTransactionMax) BridgeError.perTransactionLimitExceeded
  failIf (amount < config.perTransactionMin) BridgeError.transactionBelowMinimum
  let dailyUsed ← I128.add state.dailyUsed amount
  failIf (dailyUsed > config.dailyLimit) BridgeError.dailyLimitExceeded
  let monthlyUsed ← I128.add state.monthlyUsed amount
  failIf (monthlyUsed > config.monthlyLimit) BridgeError.monthlyLimitExceeded
  let userUsed ← I128.add (state.perUserDaily.amount user) amount
  .ok { s with rateLimitState := some { state with
    dailyUsed
    monthlyUsed
    perUserDaily := state.perUserDaily.set user userUsed } }

def feeOf (config : FeeConfig) (amount : ℤ) : Result ℤ := do
  let product ← I128.mul amount config.basisPoints
  let share ← I128.div product 10000
  .ok (max share config.minFee)

section Entries

variable (tok : MintToken τ) (host : Host) (self : Address)

/-- Tokens that are locked go to the bridge, others are burned. -/
def lockOrBurn (token : SupportedToken) (tokenAddress sender : Address) (amount : ℤ) (t : τ) :
    Result τ :=
  if token.isLocked = true then tok.pay t tokenAddress sender self amount
  else if token.isMintable = true then tok.destroy t tokenAddress sender amount
  else .error BridgeError.invalidArgument

def initiateTransfer (env : Env) (destinationChain : ChainID) (recipient : Bytes)
    (tokenAddress : Address) (amount : ℤ) (nonce : ℕ) (sender : Address) (s : State τ) :
    Result (ℕ × State τ) := do
  ensureNotPaused s
  requireAuth env sender
  failIf (nonce = 0) BridgeError.invalidNonce
  failIf ((s.nonce.get? (sender, nonce)).isSome = true) BridgeError.nonceAlreadyUsed
  let token ← okOr (s.token.get? tokenAddress) BridgeError.tokenNotSupported
  let sourceChain ← okOr s.chainId BridgeError.invalidArgument
  failIf (sourceChain = destinationChain) BridgeError.invalidChainPair
  failIf (amount ≤ 0) BridgeError.invalidAmount
  let s ← checkRateLimits env sender amount s
  let config ← okOr s.feeConfig BridgeError.invalidFeeConfiguration
  let fee ← feeOf config amount
  let totalAmount ← I128.add amount fee
  let tokens ← lockOrBurn tok self token tokenAddress sender totalAmount s.tokens
  let totalFees ← I128.add (s.totalFees.getD 0) fee
  let transferId ← U64.add (s.transferCounter.getD 0) 1
  let transfer : BridgeTransfer := {
    transferId, sourceChain, destinationChain, sender, recipient, tokenAddress, amount, fee, nonce
    timestamp := env.timestamp
    status := .locked
    direction := if token.isLocked = true then .lockAndMint else .burnAndUnlock
    signatures := [] }
  .ok (transferId, { s with
    tokens
    nonce := s.nonce.set (sender, nonce) true
    totalFees := some totalFees
    transfer := s.transfer.set transferId transfer
    transferCounter := some transferId })

/-- The big-endian bytes of a number. -/
def beBytes (width n : ℕ) : Bytes :=
  (List.range width).reverse.map fun i => UInt8.ofNat (n / 256 ^ i)

/-- What validators sign; the amount is written in two's complement. -/
def messageOf (transfer : BridgeTransfer) : Bytes :=
  beBytes 8 transfer.transferId ++ beBytes 4 transfer.sourceChain.code ++
    beBytes 4 transfer.destinationChain.code ++ beBytes 16 (transfer.amount % 2 ^ 128).toNat

/-- The first validator who is active and was not seen has to have signed. -/
def findSigner (s : State τ) (message signature : Bytes) (seen : List Address) :
    List Address → Result Address
  | [] => .error BridgeError.invalidSignature
  | address :: rest =>
    if seen.contains address = true then findSigner s message signature seen rest
    else do
      let validator ← okOr (s.validator.get? address) BridgeError.validatorNotFound
      if validator.isActive = false then findSigner s message signature seen rest
      else do
        failIf (validator.publicKey.length ≠ 32) BridgeError.invalidSignature
        failIf (host.ed25519Verify validator.publicKey message signature = false) .callFailed
        .ok address

/-- The number of signatures, each by another validator than those before. -/
def countSigners (s : State τ) (message : Bytes) : List Bytes → List Address → Result ℕ
  | [], seen => .ok seen.length
  | signature :: rest, seen => do
    failIf (signature.length ≠ 64) BridgeError.invalidSignature
    let signer ← findSigner host s message signature seen (s.validatorList.getD [])
    countSigners s message rest (seen ++ [signer])

def verifyTransferSignatures (transfer : BridgeTransfer) (signatures : List Bytes) (s : State τ) :
    Result Unit := do
  let config ← okOr s.signatureConfig BridgeError.invalidArgument
  failIf (signatures.length < config.requiredSignatures) BridgeError.insufficientSignatures
  let valid ← countSigners host s (messageOf transfer) signatures []
  failIf (valid < config.requiredSignatures) BridgeError.insufficientSignatures

/-- Tokens that can be minted are minted, others leave the bridge. -/
def mintOrUnlock (token : SupportedToken) (transfer : BridgeTransfer) (recipient : Address) (t : τ) :
    Result (TransactionStatus × τ) :=
  if token.isMintable = true then do
    let t ← tok.issue t transfer.tokenAddress recipient transfer.amount
    .ok (.minted, t)
  else if token.isLocked = true then do
    let t ← tok.pay t transfer.tokenAddress self recipient transfer.amount
    .ok (.unlocked, t)
  else .error BridgeError.invalidArgument

def completeTransfer (transferId : ℕ) (signatures : List Bytes) (s : State τ) :
    Result (State τ) := do
  ensureNotPaused s
  let transfer ← okOr (s.transfer.get? transferId) BridgeError.transferNotFound
  failIf (transfer.status ≠ .locked ∧ transfer.status ≠ .pending) BridgeError.invalidTransferStatus
  failIf (transfer.status ≠ .locked) BridgeError.transferAlreadyProcessed
  verifyTransferSignatures host transfer signatures s
  let currentChain ← okOr s.chainId BridgeError.invalidArgument
  failIf (currentChain ≠ transfer.destinationChain) BridgeError.invalidChainPair
  let token ← okOr (s.token.get? transfer.tokenAddress) BridgeError.tokenNotSupported
  let recipient ← okOr (host.addressFromStringBytes transfer.recipient) .callFailed
  let (status, tokens) ← mintOrUnlock tok self token transfer recipient s.tokens
  .ok { s with
    tokens
    transfer := s.transfer.set transferId { transfer with status, signatures } }

def pauseBridge (env : Env) (s : State τ) : Result (State τ) := do
  requireAdmin env s
  failIf (s.paused.getD false = true) BridgeError.alreadyPaused
  .ok { s with paused := some true }

def unpauseBridge (env : Env) (s : State τ) : Result (State τ) := do
  requireAdmin env s
  failIf (s.paused.getD false = false) BridgeError.alreadyUnpaused
  .ok { s with paused := some false }

def collectFees (env : Env) (tokenAddress : Address) (s : State τ) : Result (State τ) := do
  requireAdmin env s
  let config ← okOr s.feeConfig BridgeError.invalidFeeConfiguration
  if s.totalFees.getD 0 > 0 then do
    let tokens ← tok.pay s.tokens tokenAddress self config.feeCollector (s.totalFees.getD 0)
    .ok { s with tokens, totalFees := some 0 }
  else .ok s

inductive Op where
  | initializeContract (admin : Address) (chainId : ChainID) (signatureConfig : SignatureConfig)
      (feeConfig : FeeConfig) (rateLimitConfig : RateLimitConfig)
  | addValidator (validatorAddress : Address) (publicKey : Bytes) (power : ℕ)
  | removeValidator (validatorAddress : Address)
  | addSupportedToken (tokenAddress : Address) (symbol : String) (decimals : ℕ)
      (isMintable isLocked : Bool) (bridgeAddresses : List (ChainID × Bytes))
  | initiateTransfer (destinationChain : ChainID) (recipient : Bytes) (tokenAddress : Address)
      (amount : ℤ) (nonce : ℕ) (sender : Address)
  | completeTransfer (transferId : ℕ) (signatures : List Bytes)
  | pauseBridge
  | unpauseBridge
  | collectFees (tokenAddress : Address)

def invoke (env : Env) (op : Op) (s : State τ) : Result (State τ) :=
  match op with
  | .initializeContract admin chainId signatureConfig feeConfig rateLimitConfig =>
    initializeContract env admin chainId signatureConfig feeConfig rateLimitConfig s
  | .addValidator validatorAddress publicKey power =>
    addValidator env validatorAddress publicKey power s
  | .removeValidator validatorAddress => removeValidator env validatorAddress s
  | .addSupportedToken tokenAddress symbol decimals isMintable isLocked bridgeAddresses =>
    addSupportedToken env tokenAddress symbol decimals isMintable isLocked bridgeAddresses s
  | .initiateTransfer destinationChain recipient tokenAddress amount nonce sender =>
    (initiateTransfer tok self env destinationChain recipient tokenAddress amount nonce sender s).map
      Prod.snd
  | .completeTransfer transferId signatures =>
    completeTransfer tok host self transferId signatures s
  | .pauseBridge => pauseBridge env s
  | .unpauseBridge => unpauseBridge env s
  | .collectFees tokenAddress => collectFees tok self env tokenAddress s

/-- A call of the contract, or transfers elsewhere on the ledger. -/
inductive Action (τ : Type) where
  | call (env : Env) (op : Op)
  | transfers (tokens : τ)

def next (a : Action τ) (s : State τ) : Result (State τ) :=
  match a with
  | .call env op => invoke tok host self env op s
  | .transfers tokens => .ok { s with tokens }

def Action.time : Action τ → Option ℕ
  | .call env _ => some env.timestamp
  | .transfers _ => none

end Entries

end CrossChainBridge
