import StellAIverse.Soroban.Token

/-!
# The escrow contract

Funds are held in escrows and leave them through queued transactions, which
need approvals of the signers, a time lock, a grace period and a rate limit.
Storage and every entry point that writes, in the order of the source; events
and getters are left out.
-/

namespace Escrow

open Soroban

def minAmount : ℤ := 1

def maxSigners : ℕ := 20

def zeroDelay : ℕ := 0

structure EscrowConfig where
  admin : Address
  accessControl : Option Address
  requiredApprovals : ℕ
  signerCount : ℕ
  timelockDelay : ℕ
  gracePeriod : ℕ
  rateLimitWindow : ℕ
  rateLimitMax : ℕ
  paused : Bool

structure EscrowRecord where
  id : ℕ
  token : Address
  isNative : Bool
  creator : Address
  purpose : String
  createdAt : ℕ
  active : Bool

structure EscrowTransaction where
  txId : ℕ
  escrowId : ℕ
  recipient : Address
  amount : ℤ
  submitter : Address
  approvers : List Address
  queuedAt : ℕ
  executed : Bool
  cancelled : Bool
  executedAt : ℕ

inductive EscrowError where
  | alreadyInitialized | notInitialized | unauthorized | invalidParam | notFound | alreadySigner
  | notASigner | paused | insufficientBalance | alreadyExecuted | alreadyCancelled | notApproved
  | timeLocked | graceExpired | rateLimited | inactiveEscrow | alreadyApproved | thresholdTooHigh

def EscrowError.code : EscrowError → ℕ
  | alreadyInitialized => 1
  | notInitialized => 2
  | unauthorized => 3
  | invalidParam => 4
  | notFound => 5
  | alreadySigner => 6
  | notASigner => 7
  | paused => 8
  | insufficientBalance => 9
  | alreadyExecuted => 10
  | alreadyCancelled => 11
  | notApproved => 12
  | timeLocked => 13
  | graceExpired => 14
  | rateLimited => 15
  | inactiveEscrow => 16
  | alreadyApproved => 17
  | thresholdTooHigh => 18

instance : Coe EscrowError Fault := ⟨fun e => .contract e.code⟩

/-- Contract storage together with the token state. -/
structure State (τ : Type) where
  config : Option EscrowConfig
  signer : Store Address Bool
  signerList : Option (List Address)
  escrow : Store ℕ EscrowRecord
  escrowBalance : Store ℕ ℤ
  transaction : Store ℕ EscrowTransaction
  globalExecutions : Option (List ℕ)
  recipientExecutions : Store Address (List ℕ)
  nextEscrowId : Option ℕ
  nextTxId : Option ℕ
  tokens : τ

variable {τ : Type}

def deployed (tokens : τ) : State τ where
  config := none
  signer := .empty
  signerList := none
  escrow := .empty
  escrowBalance := .empty
  transaction := .empty
  globalExecutions := none
  recipientExecutions := .empty
  nextEscrowId := none
  nextTxId := none
  tokens := tokens

/-- What the host and the linked AccessControl contract tell one invocation. -/
structure Ledger extends Env where
  /-- Whether the contract at the first address reports the Admin role for the second;
  `none` if that call fails. -/
  hasAdminRole : Address → Address → Option Bool

def getConfig (s : State τ) : Result EscrowConfig := okOr s.config EscrowError.notInitialized

def escrowRecord (s : State τ) (id : ℕ) : Result EscrowRecord :=
  okOr (s.escrow.get? id) EscrowError.notFound

def getTransaction (s : State τ) (id : ℕ) : Result EscrowTransaction :=
  okOr (s.transaction.get? id) EscrowError.notFound

def escrowBalanceRaw (s : State τ) (id : ℕ) : ℤ := s.escrowBalance.amount id

def isSigner (s : State τ) (who : Address) : Bool := (s.signer.get? who).getD false

def isAdmin (env : Ledger) (config : EscrowConfig) (who : Address) : Result Bool :=
  if who = config.admin then .ok true
  else
    match config.accessControl with
    | some ac =>
      match env.hasAdminRole ac who with
      | some answer => .ok answer
      | none => .error .callFailed
    | none => .ok false

def requireAdmin (env : Ledger) (config : EscrowConfig) (who : Address) : Result Unit := do
  requireAuth env.toEnv who
  let admin ← isAdmin env config who
  failIf (admin = false) EscrowError.unauthorized

def requireSigner (env : Ledger) (s : State τ) (who : Address) : Result Unit := do
  requireAuth env.toEnv who
  failIf (isSigner s who = false) EscrowError.notASigner

def requireSignerOrAdmin (env : Ledger) (config : EscrowConfig) (s : State τ) (who : Address) :
    Result Unit := do
  requireAuth env.toEnv who
  if isSigner s who = true then .ok ()
  else do
    let admin ← isAdmin env config who
    failIf (admin = false) EscrowError.unauthorized

def countInWindow (timestamps : List ℕ) (cutoff : ℕ) : ℕ := timestamps.countP (cutoff ≤ ·)

def pruneWindow (timestamps : List ℕ) (cutoff : ℕ) : List ℕ := timestamps.filter (cutoff ≤ ·)

def tryIndexOf (vec : List Address) (item : Address) : Option ℕ := vec.findIdx? (· = item)

def contains (vec : List Address) (item : Address) : Bool := (tryIndexOf vec item).isSome

def indexOf (vec : List Address) (item : Address) : Result ℕ :=
  expect (tryIndexOf vec item) "item not found"

def recipientLog (s : State τ) (recipient : Address) : List ℕ :=
  (s.recipientExecutions.get? recipient).getD []

def checkRateLimits (env : Ledger) (config : EscrowConfig) (s : State τ) (recipient : Address) :
    Result Unit := do
  let cutoff := env.timestamp - config.rateLimitWindow
  let global ← unwrap s.globalExecutions
  failIf (countInWindow global cutoff ≥ config.rateLimitMax) EscrowError.rateLimited
  failIf (countInWindow (recipientLog s recipient) cutoff ≥ config.rateLimitMax)
    EscrowError.rateLimited

/-- The nested loops refuse a signer that occurs twice. -/
def validateSignerSet (signers : List Address) (requiredApprovals : ℕ) : Result Unit := do
  failIf (requiredApprovals = 0 ∨ requiredApprovals > signers.length ∨ signers.length > maxSigners)
    EscrowError.invalidParam
  failIf (¬ signers.Nodup) EscrowError.invalidParam

/-- The settings of `initialize` beside the signers. -/
structure Settings where
  accessControl : Option Address
  timelockDelay : ℕ
  gracePeriod : ℕ
  rateLimitWindow : ℕ
  rateLimitMax : ℕ

def initializeContract (env : Ledger) (admin : Address) (signers : List Address)
    (requiredApprovals : ℕ) (settings : Settings) (s : State τ) : Result (State τ) := do
  failIf (s.config.isSome = true) EscrowError.alreadyInitialized
  requireAuth env.toEnv admin
  validateSignerSet signers requiredApprovals
  failIf (settings.gracePeriod = zeroDelay) EscrowError.invalidParam
  failIf (settings.rateLimitMax = 0 ∨ settings.rateLimitWindow = zeroDelay)
    EscrowError.invalidParam
  .ok { s with
    signer := signers.foldl (fun flags signer => flags.set signer true) s.signer
    signerList := some signers
    globalExecutions := some []
    nextEscrowId := some 1
    nextTxId := some 1
    config := some {
      admin
      accessControl := settings.accessControl
      requiredApprovals
      signerCount := signers.length
      timelockDelay := settings.timelockDelay
      gracePeriod := settings.gracePeriod
      rateLimitWindow := settings.rateLimitWindow
      rateLimitMax := settings.rateLimitMax
      paused := false } }

/-- One more signer; the threshold never exceeds the new count. -/
def EscrowConfig.withSigner (config : EscrowConfig) : EscrowConfig :=
  let signerCount := config.signerCount + 1
  { config with
    signerCount
    requiredApprovals :=
      if config.requiredApprovals > signerCount then signerCount else config.requiredApprovals }

def addSigner (env : Ledger) (caller signer : Address) (s : State τ) : Result (State τ) := do
  let config ← getConfig s
  requireAdmin env config caller
  failIf (isSigner s signer = true) EscrowError.alreadySigner
  failIf (config.signerCount ≥ maxSigners) EscrowError.invalidParam
  let list ← unwrap s.signerList
  .ok { s with
    signer := s.signer.set signer true
    signerList := some (list ++ [signer])
    config := some config.withSigner }

def removeSigner (env : Ledger) (caller signer : Address) (s : State τ) : Result (State τ) := do
  let config ← getConfig s
  requireAdmin env config caller
  failIf (isSigner s signer = false) EscrowError.notASigner
  failIf (config.signerCount ≤ config.requiredApprovals) EscrowError.thresholdTooHigh
  let list ← unwrap s.signerList
  let idx ← indexOf list signer
  .ok { s with
    signer := s.signer.remove signer
    signerList := some (list.eraseIdx idx)
    -- The count exceeds the threshold here, so it is not zero.
    config := some { config with signerCount := config.signerCount - 1 } }

def setThreshold (env : Ledger) (caller : Address) (m : ℕ) (s : State τ) : Result (State τ) := do
  let config ← getConfig s
  requireAdmin env config caller
  failIf (m = 0 ∨ m > config.signerCount) EscrowError.invalidParam
  .ok { s with config := some { config with requiredApprovals := m } }

def setTimelock (env : Ledger) (caller : Address) (delay gracePeriod : ℕ) (s : State τ) :
    Result (State τ) := do
  let config ← getConfig s
  requireAdmin env config caller
  failIf (gracePeriod = zeroDelay ∨ delay > U64.max - gracePeriod) EscrowError.invalidParam
  .ok { s with config := some { config with timelockDelay := delay, gracePeriod } }

def setRateLimit (env : Ledger) (caller : Address) (window max : ℕ) (s : State τ) :
    Result (State τ) := do
  let config ← getConfig s
  requireAdmin env config caller
  failIf (window = zeroDelay ∨ max = 0) EscrowError.invalidParam
  .ok { s with config := some { config with rateLimitWindow := window, rateLimitMax := max } }

/-- `pause` and `unpause` differ in the flag. -/
def setPaused (paused : Bool) (env : Ledger) (caller : Address) (s : State τ) :
    Result (State τ) := do
  let config ← getConfig s
  requireAdmin env config caller
  .ok { s with config := some { config with paused } }

def pause (env : Ledger) (caller : Address) (s : State τ) : Result (State τ) :=
  setPaused true env caller s

def unpause (env : Ledger) (caller : Address) (s : State τ) : Result (State τ) :=
  setPaused false env caller s

def createEscrow (env : Ledger) (creator token : Address) (isNative : Bool) (purpose : String)
    (s : State τ) : Result (ℕ × State τ) := do
  let config ← getConfig s
  failIf (config.paused = true) EscrowError.paused
  requireAuth env.toEnv creator
  let id := s.nextEscrowId.getD 1
  let following ← U64.add id 1
  .ok (id, { s with
    escrow := s.escrow.set id ⟨id, token, isNative, creator, purpose, env.timestamp, true⟩
    escrowBalance := s.escrowBalance.set id 0
    nextEscrowId := some following })

variable (tok : Token τ) (self : Address)

def deposit (env : Ledger) (escrowId : ℕ) (depositor : Address) (amount : ℤ) (s : State τ) :
    Result (State τ) := do
  requireAuth env.toEnv depositor
  failIf (amount < minAmount) EscrowError.invalidParam
  let record ← escrowRecord s escrowId
  failIf (record.active = false) EscrowError.inactiveEscrow
  let balance ← I128.add (escrowBalanceRaw s escrowId) amount
  let s := { s with escrowBalance := s.escrowBalance.set escrowId balance }
  if record.isNative = true then .ok s
  else do
    let tokens ← tok.pay s.tokens record.token depositor self amount
    .ok { s with tokens }

def submitTransaction (env : Ledger) (submitter : Address) (escrowId : ℕ) (recipient : Address)
    (amount : ℤ) (s : State τ) : Result (ℕ × State τ) := do
  let config ← getConfig s
  failIf (config.paused = true) EscrowError.paused
  requireSignerOrAdmin env config s submitter
  failIf (amount < minAmount) EscrowError.invalidParam
  let _ ← escrowRecord s escrowId
  failIf (escrowBalanceRaw s escrowId < amount) EscrowError.insufficientBalance
  let txId := s.nextTxId.getD 1
  let following ← U64.add txId 1
  .ok (txId, { s with
    transaction := s.transaction.set txId {
      txId, escrowId, recipient, amount, submitter
      approvers := [submitter]
      queuedAt := env.timestamp
      executed := false
      cancelled := false
      executedAt := 0 }
    nextTxId := some following })

def approveTransaction (env : Ledger) (signer : Address) (txId : ℕ) (s : State τ) :
    Result (State τ) := do
  let _ ← getConfig s
  requireSigner env s signer
  let tx ← getTransaction s txId
  failIf (tx.executed = true) EscrowError.alreadyExecuted
  failIf (tx.cancelled = true) EscrowError.alreadyCancelled
  failIf (contains tx.approvers signer = true) EscrowError.alreadyApproved
  .ok { s with
    transaction := s.transaction.set txId { tx with approvers := tx.approvers ++ [signer] } }

def revokeApproval (env : Ledger) (signer : Address) (txId : ℕ) (s : State τ) :
    Result (State τ) := do
  let _ ← getConfig s
  requireSigner env s signer
  let tx ← getTransaction s txId
  failIf (tx.executed = true ∨ tx.cancelled = true) EscrowError.notFound
  let i ← okOr (tryIndexOf tx.approvers signer) EscrowError.notApproved
  .ok { s with
    transaction := s.transaction.set txId { tx with approvers := tx.approvers.eraseIdx i } }

/-- The time-lock is over and the grace period is not. -/
def checkTimelock (env : Ledger) (config : EscrowConfig) (tx : EscrowTransaction) :
    Result Unit := do
  let unlockAt ← okOr (U64.checkedAdd tx.queuedAt config.timelockDelay) EscrowError.invalidParam
  failIf (env.timestamp < unlockAt) EscrowError.timeLocked
  let graceUntil ← okOr (U64.checkedAdd unlockAt config.gracePeriod) EscrowError.invalidParam
  failIf (env.timestamp > graceUntil) EscrowError.graceExpired

/-- The execution is entered in both logs, which are pruned to the window. -/
def logExecution (now cutoff : ℕ) (recipient : Address) (global : List ℕ) (s : State τ) :
    State τ :=
  { s with
    globalExecutions := some (pruneWindow (global ++ [now]) cutoff)
    recipientExecutions := s.recipientExecutions.set recipient
      (pruneWindow (recipientLog s recipient ++ [now]) cutoff) }

/-- Only token escrows move tokens out of the contract. -/
def payOut (record : EscrowRecord) (tokens : τ) (recipient : Address) (amount : ℤ) : Result τ :=
  if record.isNative = true then .ok tokens
  else tok.pay tokens record.token self recipient amount

def executeTransaction (env : Ledger) (txId : ℕ) (s : State τ) : Result (State τ) := do
  let config ← getConfig s
  failIf (config.paused = true) EscrowError.paused
  let tx ← getTransaction s txId
  failIf (tx.executed = true) EscrowError.alreadyExecuted
  failIf (tx.cancelled = true) EscrowError.alreadyCancelled
  failIf (tx.approvers.length < config.requiredApprovals) EscrowError.notApproved
  checkTimelock env config tx
  checkRateLimits env config s tx.recipient
  let record ← escrowRecord s tx.escrowId
  let balance := escrowBalanceRaw s tx.escrowId
  failIf (balance < tx.amount) EscrowError.insufficientBalance
  let rest ← I128.sub balance tx.amount
  let s := { s with escrowBalance := s.escrowBalance.set tx.escrowId rest }
  let tokens ← payOut tok self record s.tokens tx.recipient tx.amount
  let now := env.timestamp
  let s := { s with
    tokens
    transaction := s.transaction.set txId { tx with executed := true, executedAt := now } }
  let global ← unwrap s.globalExecutions
  .ok (logExecution now (now - config.rateLimitWindow) tx.recipient global s)

def cancelTransaction (env : Ledger) (caller : Address) (txId : ℕ) (s : State τ) :
    Result (State τ) := do
  requireAuth env.toEnv caller
  let config ← getConfig s
  let tx ← getTransaction s txId
  failIf (tx.executed = true) EscrowError.alreadyExecuted
  failIf (tx.cancelled = true) EscrowError.alreadyCancelled
  let admin ← isAdmin env config caller
  let unlockAt := U64.saturatingAdd tx.queuedAt config.timelockDelay
  failIf (admin = false ∧ caller ≠ tx.submitter ∧
      ¬ env.timestamp > U64.saturatingAdd unlockAt config.gracePeriod)
    EscrowError.unauthorized
  .ok { s with transaction := s.transaction.set txId { tx with cancelled := true } }

def closeEscrow (env : Ledger) (caller : Address) (escrowId : ℕ) (s : State τ) :
    Result (State τ) := do
  let config ← getConfig s
  requireAdmin env config caller
  let record ← escrowRecord s escrowId
  .ok { s with escrow := s.escrow.set escrowId { record with active := false } }

inductive Op where
  | initializeContract (admin : Address) (signers : List Address) (requiredApprovals : ℕ)
      (settings : Settings)
  | addSigner (caller signer : Address)
  | removeSigner (caller signer : Address)
  | setThreshold (caller : Address) (m : ℕ)
  | setTimelock (caller : Address) (delay gracePeriod : ℕ)
  | setRateLimit (caller : Address) (window max : ℕ)
  | pause (caller : Address)
  | unpause (caller : Address)
  | createEscrow (creator token : Address) (isNative : Bool) (purpose : String)
  | deposit (escrowId : ℕ) (depositor : Address) (amount : ℤ)
  | submitTransaction (submitter : Address) (escrowId : ℕ) (recipient : Address) (amount : ℤ)
  | approveTransaction (signer : Address) (txId : ℕ)
  | revokeApproval (signer : Address) (txId : ℕ)
  | executeTransaction (txId : ℕ)
  | cancelTransaction (caller : Address) (txId : ℕ)
  | closeEscrow (caller : Address) (escrowId : ℕ)

def invoke (env : Ledger) (op : Op) (s : State τ) : Result (State τ) :=
  match op with
  | .initializeContract admin signers requiredApprovals settings =>
    initializeContract env admin signers requiredApprovals settings s
  | .addSigner caller signer => addSigner env caller signer s
  | .removeSigner caller signer => removeSigner env caller signer s
  | .setThreshold caller m => setThreshold env caller m s
  | .setTimelock caller delay gracePeriod => setTimelock env caller delay gracePeriod s
  | .setRateLimit caller window max => setRateLimit env caller window max s
  | .pause caller => pause env caller s
  | .unpause caller => unpause env caller s
  | .createEscrow creator token isNative purpose =>
    (createEscrow env creator token isNative purpose s).map (·.2)
  | .deposit escrowId depositor amount => deposit tok self env escrowId depositor amount s
  | .submitTransaction submitter escrowId recipient amount =>
    (submitTransaction env submitter escrowId recipient amount s).map (·.2)
  | .approveTransaction signer txId => approveTransaction env signer txId s
  | .revokeApproval signer txId => revokeApproval env signer txId s
  | .executeTransaction txId => executeTransaction tok self env txId s
  | .cancelTransaction caller txId => cancelTransaction env caller txId s
  | .closeEscrow caller escrowId => closeEscrow env caller escrowId s

/-- An invocation, or transfers of tokens that are none. -/
inductive Action (τ : Type) where
  | call (env : Ledger) (op : Op)
  | transfers (tokens : τ)

def next (a : Action τ) (s : State τ) : Result (State τ) :=
  match a with
  | .call env op => invoke tok self env op s
  | .transfers tokens => .ok { s with tokens }

def Action.time : Action τ → Option ℕ
  | .call env _ => some env.timestamp
  | .transfers _ => none

end Escrow
