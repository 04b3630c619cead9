import StellAIverse.Soroban.Token

/-!
# The governance contract

Token holders propose, vote, queue and execute. The state of a proposal is not
stored: it is computed from the ledger sequence and time, the tallies and the
parameters then in force. Storage and every entry point that writes, in the order
of the source, and the query of a proposal's state; events and the other getters
are left out.
-/

namespace Governance

open Soroban

/-- A ledger also has a sequence number, the clock of the voting window. -/
structure Ledger extends Env where
  sequence : ℕ

inductive ProposalState where
  | pending | active | canceled | defeated | succeeded | queued | expired | executed
  deriving DecidableEq, Repr

inductive VoteType where
  | against | «for» | abstain
  deriving DecidableEq, Repr

inductive ProposalAction where
  | transfer (token target : Address) (amount : ℤ)

structure Proposal where
  id : ℕ
  proposer : Address
  description : String
  targets : List Address
  functions : List String
  calldatas : List (List UInt8)
  voteStart : ℕ
  voteEnd : ℕ
  eta : ℕ
  forVotes : ℤ
  againstVotes : ℤ
  abstainVotes : ℤ
  actions : List ProposalAction
  canceled : Bool
  executed : Bool
  createdAt : ℕ

structure ProposalVote where
  hasVoted : Bool
  voteType : VoteType
  weight : ℤ

structure Delegation where
  delegator : Address
  delegatee : Address
  amount : ℤ
  timestamp : ℕ

structure VeTokenLock where
  account : Address
  amount : ℤ
  lockEnd : ℕ
  createdAt : ℕ

inductive GovernanceError where
  | alreadyInitialized | unauthorized | proposalNotFound | proposalNotActive | alreadyVoted
  | insufficientVotingPower | timelockNotExpired | invalidProposalState | invalidInput
  | delegationToSelf | alreadyDelegated | cannotCancelExecuted | insufficientBalance
  | proposalNotQueued | lockAlreadyExists | lockNotExpired | noLockFound | lockAmountZero
  | invalidLockDuration

def GovernanceError.code : GovernanceError → ℕ
  | alreadyInitialized => 1
  | unauthorized => 2
  | proposalNotFound => 3
  | proposalNotActive => 5
  | alreadyVoted => 8
  | insufficientVotingPower => 9
  | timelockNotExpired => 12
  | invalidProposalState => 13
  | invalidInput => 14
  | delegationToSelf => 16
  | alreadyDelegated => 17
  | cannotCancelExecuted => 18
  | insufficientBalance => 20
  | proposalNotQueued => 22
  | lockAlreadyExists => 23
  | lockNotExpired => 24
  | noLockFound => 25
  | lockAmountZero => 26
  | invalidLockDuration => 27

/-- `panic!("{}", e as u32)`: the message is the number. -/
def GovernanceError.text (e : GovernanceError) : String := toString e.code

def maxLockDuration : ℕ := 4 * 365 * 24 * 60 * 60

def minLockDuration : ℕ := 7 * 24 * 60 * 60

/-- After its eta a proposal can be executed for 14 days. -/
def gracePeriod : ℕ := 14 * 24 * 60 * 60

def safeAdd (a b : ℤ) : Result ℤ := I128.checked (a + b) "Overflow in addition"

/-- Contract storage together with the token state. -/
structure State (τ : Type) where
  admin : Option Address
  votingToken : Option Address
  proposalCount : Option ℕ
  votingDelay : Option ℕ
  votingPeriod : Option ℕ
  timelockDelay : Option ℕ
  quorum : Option ℤ
  approvalThreshold : Option ℤ
  proposalThreshold : Option ℤ
  totalSupply : Option ℤ
  proposal : Store ℕ Proposal
  vote : Store (ℕ × Address) ProposalVote
  delegation : Store Address Delegation
  delegatedPower : Store Address ℤ
  veLock : Store Address VeTokenLock
  tokens : τ

variable {τ : Type}

def deployed (tokens : τ) : State τ where
  admin := none
  votingToken := none
  proposalCount := none
  votingDelay := none
  votingPeriod := none
  timelockDelay := none
  quorum := none
  approvalThreshold := none
  proposalThreshold := none
  totalSupply := none
  proposal := .empty
  vote := .empty
  delegation := .empty
  delegatedPower := .empty
  veLock := .empty
  tokens := tokens

def quorumReached (proposal : Proposal) (s : State τ) : Result Bool := do
  let part ← I128.add proposal.forVotes proposal.againstVotes
  let totalVotes ← I128.add part proposal.abstainVotes
  let totalSupply := s.totalSupply.getD 0
  let quorum ← unwrap s.quorum
  if totalSupply = 0 then .ok false
  else do
    let cast ← I128.mul totalVotes 10000
    let needed ← I128.mul totalSupply quorum
    .ok (decide (cast ≥ needed))

def thresholdReached (proposal : Proposal) (s : State τ) : Result Bool := do
  let totalVotesCast ← I128.add proposal.forVotes proposal.againstVotes
  if totalVotesCast = 0 then .ok false
  else do
    let threshold ← unwrap s.approvalThreshold
    let approving ← I128.mul proposal.forVotes 10000
    let needed ← I128.mul totalVotesCast threshold
    .ok (decide (approving ≥ needed))

/-- Whether a proposal passes; the threshold is looked at only when the quorum is reached. -/
def passes (proposal : Proposal) (s : State τ) : Result Bool := do
  let quorum ← quorumReached proposal s
  if quorum = true then thresholdReached proposal s else .ok false

def state (env : Ledger) (proposal : Proposal) (s : State τ) : Result ProposalState :=
  if proposal.canceled = true then .ok .canceled
  else if env.sequence < proposal.voteStart then .ok .pending
  else if env.sequence ≤ proposal.voteEnd then .ok .active
  else do
    let passed ← passes proposal s
    if passed = false then .ok .defeated
    else if proposal.executed = true then .ok .executed
    else if proposal.eta = 0 then .ok .succeeded
    else do
      let last ← U64.add proposal.eta gracePeriod
      if env.timestamp > last ∧ proposal.executed = false then .ok .expired
      else .ok .queued

def getProposalFromStorage (s : State τ) (proposalId : ℕ) : Result Proposal :=
  expect (s.proposal.get? proposalId) GovernanceError.proposalNotFound.text

def getProposalState (env : Ledger) (proposalId : ℕ) (s : State τ) : Result ProposalState := do
  let proposal ← getProposalFromStorage s proposalId
  state env proposal s

section Entries

variable (tok : Token τ) (self : Address)

def getTokenBalance (account : Address) (s : State τ) : Result ℤ := do
  let votingToken ← unwrap s.votingToken
  .ok (tok.balance s.tokens votingToken account)

/-- What a lock is worth falls from its amount to nothing at its end. -/
def calculateVeBalance (env : Ledger) (account : Address) (s : State τ) : Result ℤ :=
  match s.veLock.get? account with
  | none => .ok 0
  | some lock =>
    if env.timestamp ≥ lock.lockEnd then .ok 0
    else do
      let remaining ← U64.sub lock.lockEnd env.timestamp
      let totalDuration ← U64.sub lock.lockEnd lock.createdAt
      if totalDuration = 0 then .ok 0
      else do
        let product ← I128.mul lock.amount remaining
        I128.div product totalDuration

def getDelegatedPower (account : Address) (s : State τ) : ℤ := s.delegatedPower.amount account

def getVotingPower (env : Ledger) (account : Address) (s : State τ) : Result ℤ := do
  let tokenBalance ← getTokenBalance tok account s
  let veBalance ← calculateVeBalance env account s
  let held ← safeAdd tokenBalance veBalance
  safeAdd held (getDelegatedPower account s)

/-- The arguments of `initialize` after the administrator and the token. -/
structure Params where
  votingDelay : ℕ
  votingPeriod : ℕ
  timelockDelay : ℕ
  quorum : ℤ
  approvalThreshold : ℤ
  proposalThreshold : ℤ
  totalSupply : ℤ

def initializeContract (env : Ledger) (admin votingToken : Address) (params : Params)
    (s : State τ) : Result (State τ) := do
  panicIf (s.admin.isSome = true) GovernanceError.alreadyInitialized.text
  requireAuth env.toEnv admin
  .ok { s with
    admin := some admin
    votingToken := some votingToken
    votingDelay := some params.votingDelay
    votingPeriod := some params.votingPeriod
    timelockDelay := some params.timelockDelay
    quorum := some params.quorum
    approvalThreshold := some params.approvalThreshold
    proposalThreshold := some params.proposalThreshold
    proposalCount := some 0
    totalSupply := some params.totalSupply }

/-- What a proposal is about. -/
structure Draft where
  description : String
  targets : List Address
  functions : List String
  calldatas : List (List UInt8)
  actions : List ProposalAction

def propose (env : Ledger) (proposer : Address) (draft : Draft) (s : State τ) :
    Result (ℕ × State τ) := do
  requireAuth env.toEnv proposer
  let votingPower ← getVotingPower tok env proposer s
  let proposalThreshold ← unwrap s.proposalThreshold
  panicIf (votingPower < proposalThreshold) GovernanceError.insufficientVotingPower.text
  panicIf (draft.actions ≠ [] ∧ (draft.targets.length ≠ draft.functions.length ∨
    draft.targets.length ≠ draft.calldatas.length)) GovernanceError.invalidInput.text
  let votingDelay ← unwrap s.votingDelay
  let votingPeriod ← unwrap s.votingPeriod
  let voteStart ← U64.add env.sequence votingDelay
  let voteEnd ← U64.add voteStart votingPeriod
  let proposalId := s.proposalCount.getD 0
  let proposalCount ← U64.add proposalId 1
  .ok (proposalId, { s with
    proposalCount := some proposalCount
    proposal := s.proposal.set proposalId {
      id := proposalId
      proposer
      description := draft.description
      targets := draft.targets
      functions := draft.functions
      calldatas := draft.calldatas
      voteStart, voteEnd
      eta := 0
      forVotes := 0
      againstVotes := 0
      abstainVotes := 0
      actions := draft.actions
      canceled := false
      executed := false
      createdAt := env.timestamp } })

/-- The tallies with one more vote. -/
def countVote (proposal : Proposal) (voteType : VoteType) (votingPower : ℤ) : Result Proposal :=
  match voteType with
  | .for => do
    let forVotes ← safeAdd proposal.forVotes votingPower
    .ok { proposal with forVotes }
  | .against => do
    let againstVotes ← safeAdd proposal.againstVotes votingPower
    .ok { proposal with againstVotes }
  | .abstain => do
    let abstainVotes ← safeAdd proposal.abstainVotes votingPower
    .ok { proposal with abstainVotes }

def castVote (env : Ledger) (voter : Address) (proposalId : ℕ) (voteType : VoteType) (s : State τ) :
    Result (State τ) := do
  requireAuth env.toEnv voter
  let proposal ← getProposalFromStorage s proposalId
  let currentState ← state env proposal s
  panicIf (currentState ≠ .active) GovernanceError.proposalNotActive.text
  panicIf ((s.vote.get? (proposalId, voter)).isSome = true) GovernanceError.alreadyVoted.text
  let votingPower ← getVotingPower tok env voter s
  let proposal ← countVote proposal voteType votingPower
  .ok { s with
    vote := s.vote.set (proposalId, voter) ⟨true, voteType, votingPower⟩
    proposal := s.proposal.set proposalId proposal }

def queue (env : Ledger) (caller : Address) (proposalId : ℕ) (s : State τ) :
    Result (State τ) := do
  requireAuth env.toEnv caller
  let proposal ← getProposalFromStorage s proposalId
  let currentState ← state env proposal s
  panicIf (currentState ≠ .succeeded) GovernanceError.invalidProposalState.text
  let timelockDelay ← unwrap s.timelockDelay
  let eta ← U64.add env.timestamp timelockDelay
  .ok { s with proposal := s.proposal.set proposalId { proposal with eta } }

/-- The actions of a proposal in their order, paid by the contract. -/
def runActions : List ProposalAction → τ → Result τ
  | [], tokens => .ok tokens
  | .transfer token target amount :: rest, tokens => do
    let tokens ← tok.pay tokens token self target amount
    runActions rest tokens

def execute (env : Ledger) (caller : Address) (proposalId : ℕ) (s : State τ) :
    Result (State τ) := do
  requireAuth env.toEnv caller
  let proposal ← getProposalFromStorage s proposalId
  let currentState ← state env proposal s
  panicIf (currentState ≠ .queued) GovernanceError.proposalNotQueued.text
  panicIf (env.timestamp < proposal.eta) GovernanceError.timelockNotExpired.text
  let tokens ← runActions tok self proposal.actions s.tokens
  .ok { s with
    tokens
    proposal := s.proposal.set proposalId { proposal with executed := true } }

def cancel (env : Ledger) (caller : Address) (proposalId : ℕ) (s : State τ) :
    Result (State τ) := do
  requireAuth env.toEnv caller
  let proposal ← getProposalFromStorage s proposalId
  panicIf (proposal.executed = true) GovernanceError.cannotCancelExecuted.text
  let admin ← unwrap s.admin
  panicIf (caller ≠ proposal.proposer ∧ caller ≠ admin) GovernanceError.unauthorized.text
  .ok { s with proposal := s.proposal.set proposalId { proposal with canceled := true } }

def delegate (env : Ledger) (delegator delegatee : Address) (amount : ℤ) (s : State τ) :
    Result (State τ) := do
  requireAuth env.toEnv delegator
  panicIf (delegator = delegatee) GovernanceError.delegationToSelf.text
  panicIf ((s.delegation.get? delegator).isSome = true) GovernanceError.alreadyDelegated.text
  let balance ← getTokenBalance tok delegator s
  panicIf (balance < amount) GovernanceError.insufficientBalance.text
  let delegated ← safeAdd (s.delegatedPower.amount delegatee) amount
  .ok { s with
    delegation := s.delegation.set delegator ⟨delegator, delegatee, amount, env.timestamp⟩
    delegatedPower := s.delegatedPower.set delegatee delegated }

def revokeDelegation (env : Ledger) (delegator : Address) (s : State τ) : Result (State τ) := do
  requireAuth env.toEnv delegator
  let delegation ← expect (s.delegation.get? delegator) GovernanceError.proposalNotFound.text
  let delegated ← I128.sub (s.delegatedPower.amount delegation.delegatee) delegation.amount
  .ok { s with
    delegation := s.delegation.remove delegator
    delegatedPower := s.delegatedPower.set delegation.delegatee delegated }

def lockTokens (env : Ledger) (account : Address) (amount : ℤ) (lockDuration : ℕ) (s : State τ) :
    Result (State τ) := do
  requireAuth env.toEnv account
  panicIf (amount ≤ 0) GovernanceError.lockAmountZero.text
  panicIf (¬ (minLockDuration ≤ lockDuration ∧ lockDuration ≤ maxLockDuration))
    GovernanceError.invalidLockDuration.text
  panicIf ((s.veLock.get? account).isSome = true) GovernanceError.lockAlreadyExists.text
  let balance ← getTokenBalance tok account s
  panicIf (balance < amount) GovernanceError.insufficientBalance.text
  let lockEnd ← U64.add env.timestamp lockDuration
  .ok { s with veLock := s.veLock.set account ⟨account, amount, lockEnd, env.timestamp⟩ }

def withdrawTokens (env : Ledger) (account : Address) (s : State τ) : Result (State τ) := do
  requireAuth env.toEnv account
  let lock ← expect (s.veLock.get? account) GovernanceError.noLockFound.text
  panicIf (env.timestamp < lock.lockEnd) GovernanceError.lockNotExpired.text
  .ok { s with veLock := s.veLock.remove account }

/-- The parameters of `set_voting_params`; what is absent stays. -/
structure Changes where
  votingDelay : Option ℕ
  votingPeriod : Option ℕ
  timelockDelay : Option ℕ
  quorum : Option ℤ
  approvalThreshold : Option ℤ

def State.changed (changes : Changes) (s : State τ) : State τ :=
  { s with
    votingDelay := changes.votingDelay <|> s.votingDelay
    votingPeriod := changes.votingPeriod <|> s.votingPeriod
    timelockDelay := changes.timelockDelay <|> s.timelockDelay
    quorum := changes.quorum <|> s.quorum
    approvalThreshold := changes.approvalThreshold <|> s.approvalThreshold }

def setVotingParams (env : Ledger) (admin : Address) (changes : Changes) (s : State τ) :
    Result (State τ) := do
  requireAuth env.toEnv admin
  let storedAdmin ← unwrap s.admin
  panicIf (admin ≠ storedAdmin) GovernanceError.unauthorized.text
  .ok (s.changed changes)

inductive Op where
  | initializeContract (admin votingToken : Address) (params : Params)
  | propose (proposer : Address) (draft : Draft)
  | castVote (voter : Address) (proposalId : ℕ) (voteType : VoteType)
  | queue (caller : Address) (proposalId : ℕ)
  | execute (caller : Address) (proposalId : ℕ)
  | cancel (caller : Address) (proposalId : ℕ)
  | delegate (delegator delegatee : Address) (amount : ℤ)
  | revokeDelegation (delegator : Address)
  | lockTokens (account : Address) (amount : ℤ) (lockDuration : ℕ)
  | withdrawTokens (account : Address)
  | setVotingParams (admin : Address) (changes : Changes)
  | getProposalState (proposalId : ℕ)

def invoke (env : Ledger) (op : Op) (s : State τ) : Result (State τ) :=
  match op with
  | .initializeContract admin votingToken params => initializeContract env admin votingToken params s
  | .propose proposer draft => (propose tok env proposer draft s).map Prod.snd
  | .castVote voter proposalId voteType => castVote tok env voter proposalId voteType s
  | .queue caller proposalId => queue env caller proposalId s
  | .execute caller proposalId => execute tok self env caller proposalId s
  | .cancel caller proposalId => cancel env caller proposalId s
  | .delegate delegator delegatee amount => delegate tok env delegator delegatee amount s
  | .revokeDelegation delegator => revokeDelegation env delegator s
  | .lockTokens account amount lockDuration => lockTokens tok env account amount lockDuration s
  | .withdrawTokens account => withdrawTokens env account s
  | .setVotingParams admin changes => setVotingParams env admin changes s
  | .getProposalState proposalId => (getProposalState env proposalId s).map fun _ => s

/-- A call of the contract, or transfers elsewhere on the ledger. -/
inductive Action (τ : Type) where
  | call (env : Ledger) (op : Op)
  | transfers (tokens : τ)

def next (a : Action τ) (s : State τ) : Result (State τ) :=
  match a with
  | .call env op => invoke tok self env op s
  | .transfers tokens => .ok { s with tokens }

def Action.time : Action τ → Option ℕ
  | .call env _ => some env.timestamp
  | .transfers _ => none

def Action.sequence : Action τ → Option ℕ
  | .call env _ => some env.sequence
  | .transfers _ => none

end Entries

end Governance
