import StellAIverse.Soroban.Token

/-!
# The multi-signature wallet

Transfers out of the wallet are submitted and confirmed by signers and executed
in the order of their nonces, within a daily limit for each token. Storage, every
entry point that writes and the history getter, in the order of the source;
events and the other getters are left out.
-/

namespace MultiSigWallet

open Soroban

def maxSigners : ℕ := 20

def maxHistoryLimit : ℕ := 100

def maxMemoLength : ℕ := 128

def daySeconds : ℕ := 86400

structure WalletConfig where
  admin : Address
  requiredConfirmations : ℕ
  signerCount : ℕ
  dailyLimit : ℤ
  nextTxId : ℕ
  nextNonce : ℕ
  nextExecutableNonce : ℕ

structure WalletTransaction where
  txId : ℕ
  nonce : ℕ
  token : Address
  recipient : Address
  amount : ℤ
  submittedBy : Address
  executed : Bool
  createdAt : ℕ
  executedAt : ℕ
  memo : String

structure ExecutionReceipt where
  txId : ℕ
  nonce : ℕ
  token : Address
  recipient : Address
  amount : ℤ
  confirmationCount : ℕ
  executedAt : ℕ

/-- Contract storage together with the token state. -/
structure State (τ : Type) where
  config : Option WalletConfig
  signer : Store Address Bool
  signerList : Option (List Address)
  whitelist : Store Address Bool
  transaction : Store ℕ WalletTransaction
  confirmations : Store ℕ (List Address)
  executionHistory : Option (List ℕ)
  dailySpent : Store (Address × ℕ) ℤ
  reentrancyLock : Bool
  tokens : τ

variable {τ : Type}

def deployed (tokens : τ) : State τ where
  config := none
  signer := .empty
  signerList := none
  whitelist := .empty
  transaction := .empty
  confirmations := .empty
  executionHistory := none
  dailySpent := .empty
  reentrancyLock := false
  tokens := tokens

def getConfig (s : State τ) : Result WalletConfig := expect s.config "Wallet not initialized"

def signerList (s : State τ) : List Address := s.signerList.getD []

def historyIds (s : State τ) : List ℕ := s.executionHistory.getD []

def loadTransaction (s : State τ) (txId : ℕ) : Result WalletTransaction := do
  panicIf (txId = 0) "Invalid transaction ID"
  expect (s.transaction.get? txId) "Transaction not found"

def confirmations (s : State τ) (txId : ℕ) : Result (List Address) := do
  let _ ← loadTransaction s txId
  .ok ((s.confirmations.get? txId).getD [])

def assertAdmin (s : State τ) (caller : Address) : Result Unit := do
  let config ← getConfig s
  panicIf (caller ≠ config.admin) "Unauthorized: caller is not admin"

def isSignerInner (s : State τ) (address : Address) : Bool := (s.signer.get? address).getD false

def assertSigner (s : State τ) (caller : Address) : Result Unit :=
  panicIf (isSignerInner s caller = false) "Caller is not signer"

def isWhitelistedInner (s : State τ) (recipient : Address) : Bool :=
  (s.whitelist.get? recipient).getD false

def activeConfirmationCount (s : State τ) (confirmations : List Address) : ℕ :=
  confirmations.countP fun signer => isSignerInner s signer

def vecContainsAddress (addresses : List Address) (needle : Address) : Bool :=
  addresses.any (· = needle)

/-- Remove the first occurrence, and say whether there was one. -/
def removeAddress (needle : Address) : List Address → Bool × List Address
  | [] => (false, [])
  | address :: rest =>
    if address = needle then (true, rest)
    else ((removeAddress needle rest).1, address :: (removeAddress needle rest).2)

def validateAmount (amount : ℤ) : Result Unit := panicIf (amount ≤ 0) "Amount must be positive"

def validateDailyLimit (dailyLimit : ℤ) : Result Unit :=
  panicIf (dailyLimit ≤ 0) "Daily limit must be positive"

def validateMemo (memo : String) : Result Unit :=
  panicIf (memo.utf8ByteSize > maxMemoLength) "Memo exceeds maximum length"

/-- The loop refuses a signer that it has seen before. -/
def validateSignerSet (signers : List Address) (requiredConfirmations : ℕ) : Result Unit := do
  panicIf (signers = []) "At least one signer required"
  panicIf (signers.length > maxSigners) "Too many signers"
  panicIf (requiredConfirmations = 0 ∨ requiredConfirmations > signers.length)
    "Invalid confirmation requirement"
  panicIf (¬ signers.Nodup) "Duplicate signer"

def applyDailyLimit (env : Env) (transaction : WalletTransaction) (s : State τ) :
    Result (State τ) :=
  if isWhitelistedInner s transaction.recipient = true then .ok s
  else do
    let config ← getConfig s
    let key := (transaction.token, env.timestamp / daySeconds)
    let newSpent ← I128.checked (s.dailySpent.amount key + transaction.amount)
      "Daily spent overflow"
    panicIf (newSpent > config.dailyLimit) "Daily spending limit exceeded"
    .ok { s with dailySpent := s.dailySpent.set key newSpent }

def appendHistory (txId : ℕ) (s : State τ) : State τ :=
  { s with executionHistory := some (historyIds s ++ [txId]) }

variable (tok : Token τ) (self : Address)

/-- The transfer between `enter_non_reentrant` and `exit_non_reentrant`. -/
def transferToken (s : State τ) (token source target : Address) (amount : ℤ) :
    Result (State τ) := do
  panicIf (s.reentrancyLock = true) "Reentrant call blocked"
  let tokens ← tok.pay s.tokens token source target amount
  .ok { s with tokens, reentrancyLock := false }

def initializeContract (env : Env) (admin : Address) (signers : List Address)
    (requiredConfirmations : ℕ) (dailyLimit : ℤ) (s : State τ) : Result (State τ) := do
  panicIf (s.config.isSome = true) "Already initialized"
  requireAuth env admin
  validateDailyLimit dailyLimit
  validateSignerSet signers requiredConfirmations
  .ok { s with
    signer := signers.foldl (fun flags signer => flags.set signer true) s.signer
    signerList := some signers
    executionHistory := some []
    reentrancyLock := false
    config := some {
      admin, requiredConfirmations
      signerCount := signers.length
      dailyLimit
      nextTxId := 1
      nextNonce := 1
      nextExecutableNonce := 1 } }

def deposit (env : Env) (depositor token : Address) (amount : ℤ) (s : State τ) :
    Result (State τ) := do
  requireAuth env depositor
  validateAmount amount
  transferToken tok s token depositor self amount

def submitTransaction (env : Env) (signer token recipient : Address) (amount : ℤ) (memo : String)
    (s : State τ) : Result (ℕ × State τ) := do
  requireAuth env signer
  assertSigner s signer
  validateAmount amount
  validateMemo memo
  let config ← getConfig s
  let nextTxId ← U64.checked (config.nextTxId + 1) "Tx ID overflow"
  let nextNonce ← U64.checked (config.nextNonce + 1) "Nonce overflow"
  let transaction : WalletTransaction := {
    txId := config.nextTxId
    nonce := config.nextNonce
    token, recipient, amount
    submittedBy := signer
    executed := false
    createdAt := env.timestamp
    executedAt := 0
    memo }
  .ok (config.nextTxId, { s with
    transaction := s.transaction.set config.nextTxId transaction
    confirmations := s.confirmations.set config.nextTxId [signer]
    config := some { config with nextTxId, nextNonce } })

def confirmTransaction (env : Env) (signer : Address) (txId : ℕ) (s : State τ) :
    Result (ℕ × State τ) := do
  requireAuth env signer
  assertSigner s signer
  let transaction ← loadTransaction s txId
  panicIf (transaction.executed = true) "Transaction already executed"
  let confirmed ← confirmations s txId
  panicIf (vecContainsAddress confirmed signer = true) "Transaction already confirmed by signer"
  let confirmed := confirmed ++ [signer]
  .ok (activeConfirmationCount s confirmed,
    { s with confirmations := s.confirmations.set txId confirmed })

def revokeConfirmation (env : Env) (signer : Address) (txId : ℕ) (s : State τ) :
    Result (ℕ × State τ) := do
  requireAuth env signer
  assertSigner s signer
  let transaction ← loadTransaction s txId
  panicIf (transaction.executed = true) "Transaction already executed"
  let confirmed ← confirmations s txId
  panicIf ((removeAddress signer confirmed).1 = false) "Signer has not confirmed transaction"
  let confirmed := (removeAddress signer confirmed).2
  .ok (activeConfirmationCount s confirmed,
    { s with confirmations := s.confirmations.set txId confirmed })

def executeTransaction (env : Env) (signer : Address) (txId : ℕ) (s : State τ) :
    Result (ExecutionReceipt × State τ) := do
  requireAuth env signer
  assertSigner s signer
  let config ← getConfig s
  let transaction ← loadTransaction s txId
  panicIf (transaction.executed = true) "Transaction already executed"
  panicIf (transaction.nonce ≠ config.nextExecutableNonce) "Transaction nonce is not next"
  let confirmed ← confirmations s txId
  let confirmationCount := activeConfirmationCount s confirmed
  panicIf (confirmationCount < config.requiredConfirmations) "Insufficient confirmations"
  let s ← applyDailyLimit env transaction s
  let transaction := { transaction with executed := true, executedAt := env.timestamp }
  let nextExecutableNonce ←
    U64.checked (config.nextExecutableNonce + 1) "Executable nonce overflow"
  let s := { s with
    transaction := s.transaction.set txId transaction
    config := some { config with nextExecutableNonce } }
  let s ← transferToken tok s transaction.token self transaction.recipient transaction.amount
  .ok (⟨txId, transaction.nonce, transaction.token, transaction.recipient, transaction.amount,
    confirmationCount, transaction.executedAt⟩, appendHistory txId s)

def addSigner (env : Env) (admin newSigner : Address) (s : State τ) : Result (State τ) := do
  requireAuth env admin
  assertAdmin s admin
  panicIf (isSignerInner s newSigner = true) "Address is already signer"
  panicIf ((signerList s).length ≥ maxSigners) "Maximum signer count reached"
  let signers := signerList s ++ [newSigner]
  let config ← getConfig s
  .ok { s with
    signer := s.signer.set newSigner true
    signerList := some signers
    config := some { config with signerCount := signers.length } }

def removeSigner (env : Env) (admin signer : Address) (s : State τ) : Result (State τ) := do
  requireAuth env admin
  assertAdmin s admin
  panicIf (isSignerInner s signer = false) "Address is not signer"
  let signers := (removeAddress signer (signerList s)).2
  panicIf (signers = []) "Cannot remove last signer"
  let config ← getConfig s
  panicIf (config.requiredConfirmations > signers.length)
    "Required confirmations exceed signer count"
  .ok { s with
    signer := s.signer.set signer false
    signerList := some signers
    config := some { config with signerCount := signers.length } }

def changeRequirement (env : Env) (admin : Address) (requiredConfirmations : ℕ) (s : State τ) :
    Result (State τ) := do
  requireAuth env admin
  assertAdmin s admin
  let config ← getConfig s
  panicIf (requiredConfirmations = 0 ∨ requiredConfirmations > config.signerCount)
    "Invalid confirmation requirement"
  .ok { s with config := some { config with requiredConfirmations } }

def setDailyLimit (env : Env) (admin : Address) (dailyLimit : ℤ) (s : State τ) :
    Result (State τ) := do
  requireAuth env admin
  assertAdmin s admin
  validateDailyLimit dailyLimit
  let config ← getConfig s
  .ok { s with config := some { config with dailyLimit } }

def setWhitelist (env : Env) (admin recipient : Address) (allowed : Bool) (s : State τ) :
    Result (State τ) := do
  requireAuth env admin
  assertAdmin s admin
  .ok { s with whitelist := s.whitelist.set recipient allowed }

/-- The loop over the ids from `start` on. -/
def loadAll (s : State τ) : List ℕ → Result (List WalletTransaction)
  | [] => .ok []
  | txId :: rest => do
    let transaction ← loadTransaction s txId
    let history ← loadAll s rest
    .ok (transaction :: history)

def getTransactionHistory (limit : ℕ) (s : State τ) : Result (List WalletTransaction) := do
  panicIf (limit > maxHistoryLimit) "History limit too large"
  let ids := historyIds s
  let start := if ids.length > limit then ids.length - limit else 0
  loadAll s (ids.drop start)

inductive Op where
  | initializeContract (admin : Address) (signers : List Address) (requiredConfirmations : ℕ)
      (dailyLimit : ℤ)
  | deposit (depositor token : Address) (amount : ℤ)
  | submitTransaction (signer token recipient : Address) (amount : ℤ) (memo : String)
  | confirmTransaction (signer : Address) (txId : ℕ)
  | revokeConfirmation (signer : Address) (txId : ℕ)
  | executeTransaction (signer : Address) (txId : ℕ)
  | addSigner (admin newSigner : Address)
  | removeSigner (admin signer : Address)
  | changeRequirement (admin : Address) (requiredConfirmations : ℕ)
  | setDailyLimit (admin : Address) (dailyLimit : ℤ)
  | setWhitelist (admin recipient : Address) (allowed : Bool)

def invoke (env : Env) (op : Op) (s : State τ) : Result (State τ) :=
  match op with
  | .initializeContract admin signers requiredConfirmations dailyLimit =>
    initializeContract env admin signers requiredConfirmations dailyLimit s
  | .deposit depositor token amount => deposit tok self env depositor token amount s
  | .submitTransaction signer token recipient amount memo =>
    (submitTransaction env signer token recipient amount memo s).map (·.2)
  | .confirmTransaction signer txId => (confirmTransaction env signer txId s).map (·.2)
  | .revokeConfirmation signer txId => (revokeConfirmation env signer txId s).map (·.2)
  | .executeTransaction signer txId => (executeTransaction tok self env signer txId s).map (·.2)
  | .addSigner admin newSigner => addSigner env admin newSigner s
  | .removeSigner admin signer => removeSigner env admin signer s
  | .changeRequirement admin requiredConfirmations =>
    changeRequirement env admin requiredConfirmations s
  | .setDailyLimit admin dailyLimit => setDailyLimit env admin dailyLimit s
  | .setWhitelist admin recipient allowed => setWhitelist env admin recipient allowed s

/-- An invocation, or transfers of tokens in which the contract has no part. -/
inductive Action (τ : Type) where
  | call (env : Env) (op : Op)
  | transfers (tokens : τ)

def next (a : Action τ) (s : State τ) : Result (State τ) :=
  match a with
  | .call env op => invoke tok self env op s
  | .transfers tokens => .ok { s with tokens }

end MultiSigWallet
