import StellAIverse.Soroban.History
import StellAIverse.Governance.Contract

/-!
# What each call does

Every completed invocation is one of the effects below, with the guards it
passed. Before its initialization the contract does nothing.
-/

namespace Governance

open Soroban

variable {τ : Type}

/-- The votes of a kind. -/
def Proposal.tally (proposal : Proposal) : VoteType → ℤ
  | .for => proposal.forVotes
  | .against => proposal.againstVotes
  | .abstain => proposal.abstainVotes

/-- The proposal with one more vote. -/
def Proposal.voted (voteType : VoteType) (power : ℤ) (proposal : Proposal) : Proposal :=
  match voteType with
  | .for => { proposal with forVotes := proposal.forVotes + power }
  | .against => { proposal with againstVotes := proposal.againstVotes + power }
  | .abstain => { proposal with abstainVotes := proposal.abstainVotes + power }

theorem voted_tally (voteType kind : VoteType) (power : ℤ) (proposal : Proposal) :
    (proposal.voted voteType power).tally kind =
      proposal.tally kind + if voteType = kind then power else 0 := by
  cases voteType <;> cases kind <;> simp [Proposal.voted, Proposal.tally]

@[simp] theorem voted_voteStart (voteType : VoteType) (power : ℤ) (proposal : Proposal) :
    (proposal.voted voteType power).voteStart = proposal.voteStart := by
  cases voteType <;> rfl

@[simp] theorem voted_voteEnd (voteType : VoteType) (power : ℤ) (proposal : Proposal) :
    (proposal.voted voteType power).voteEnd = proposal.voteEnd := by
  cases voteType <;> rfl

@[simp] theorem voted_canceled (voteType : VoteType) (power : ℤ) (proposal : Proposal) :
    (proposal.voted voteType power).canceled = proposal.canceled := by
  cases voteType <;> rfl

@[simp] theorem voted_executed (voteType : VoteType) (power : ℤ) (proposal : Proposal) :
    (proposal.voted voteType power).executed = proposal.executed := by
  cases voteType <;> rfl

@[simp] theorem voted_eta (voteType : VoteType) (power : ℤ) (proposal : Proposal) :
    (proposal.voted voteType power).eta = proposal.eta := by
  cases voteType <;> rfl

theorem safeAdd_bind {β : Type} {a b : ℤ} {f : ℤ → Result β} {r : β} :
    (safeAdd a b >>= f) = .ok r ↔ I128.InRange (a + b) ∧ f (a + b) = .ok r :=
  I128.checked_bind

theorem countVote_ok {proposal proposal' : Proposal} {voteType : VoteType} {power : ℤ}
    (h : countVote proposal voteType power = .ok proposal') :
    proposal' = proposal.voted voteType power := by
  cases voteType <;>
  · obtain ⟨-, h⟩ := safeAdd_bind.mp h
    exact (Except.ok.inj h).symm

/-- A proposal as it is stored first. -/
def drafted (env : Ledger) (proposer : Address) (draft : Draft) (id voteStart voteEnd : ℕ) :
    Proposal where
  id := id
  proposer := proposer
  description := draft.description
  targets := draft.targets
  functions := draft.functions
  calldatas := draft.calldatas
  voteStart := voteStart
  voteEnd := voteEnd
  eta := 0
  forVotes := 0
  againstVotes := 0
  abstainVotes := 0
  actions := draft.actions
  canceled := false
  executed := false
  createdAt := env.timestamp

inductive Effect (tok : Token τ) (self : Address) (s : State τ) : Action τ → State τ → Prop
  | initializeContract (env : Ledger) (admin votingToken : Address) (params : Params)
      (fresh : s.admin = none) :
      Effect tok self s (.call env (.initializeContract admin votingToken params))
        { s with
          admin := some admin
          votingToken := some votingToken
          votingDelay := some params.votingDelay
          votingPeriod := some params.votingPeriod
          timelockDelay := some params.timelockDelay
          quorum := some params.quorum
          approvalThreshold := some params.approvalThreshold
          proposalThreshold := some params.proposalThreshold
          proposalCount := some 0
          totalSupply := some params.totalSupply }
  | propose (env : Ledger) (proposer : Address) (draft : Draft) (voteStart voteEnd : ℕ)
      (opened : s.proposalThreshold.isSome = true) :
      Effect tok self s (.call env (.propose proposer draft))
        { s with
          proposalCount := some (s.proposalCount.getD 0 + 1)
          proposal := s.proposal.set (s.proposalCount.getD 0)
            (drafted env proposer draft (s.proposalCount.getD 0) voteStart voteEnd) }
  | castVote (env : Ledger) (voter : Address) (proposalId : ℕ) (voteType : VoteType)
      (proposal : Proposal) (power : ℤ) (found : s.proposal.get? proposalId = some proposal)
      (active : state env proposal s = .ok .active) (new : s.vote.get? (proposalId, voter) = none)
      (weighed : getVotingPower tok env voter s = .ok power) :
      Effect tok self s (.call env (.castVote voter proposalId voteType))
        { s with
          vote := s.vote.set (proposalId, voter) ⟨true, voteType, power⟩
          proposal := s.proposal.set proposalId (proposal.voted voteType power) }
  | queue (env : Ledger) (caller : Address) (proposalId : ℕ) (proposal : Proposal) (eta : ℕ)
      (found : s.proposal.get? proposalId = some proposal)
      (succeeded : state env proposal s = .ok .succeeded) :
      Effect tok self s (.call env (.queue caller proposalId))
        { s with proposal := s.proposal.set proposalId { proposal with eta } }
  | execute (env : Ledger) (caller : Address) (proposalId : ℕ) (proposal : Proposal) (tokens : τ)
      (found : s.proposal.get? proposalId = some proposal)
      (queued : state env proposal s = .ok .queued) (due : proposal.eta ≤ env.timestamp)
      (paid : runActions tok self proposal.actions s.tokens = .ok tokens) :
      Effect tok self s (.call env (.execute caller proposalId))
        { s with
          tokens := tokens
          proposal := s.proposal.set proposalId { proposal with executed := true } }
  | cancel (env : Ledger) (caller : Address) (proposalId : ℕ) (proposal : Proposal)
      (found : s.proposal.get? proposalId = some proposal) (pending : proposal.executed = false) :
      Effect tok self s (.call env (.cancel caller proposalId))
        { s with proposal := s.proposal.set proposalId { proposal with canceled := true } }
  | delegate (env : Ledger) (delegator delegatee : Address) (amount balance : ℤ)
      (new : s.delegation.get? delegator = none)
      (held : getTokenBalance tok delegator s = .ok balance) (covered : amount ≤ balance) :
      Effect tok self s (.call env (.delegate delegator delegatee amount))
        { s with
          delegation := s.delegation.set delegator ⟨delegator, delegatee, amount, env.timestamp⟩
          delegatedPower := s.delegatedPower.set delegatee
            (s.delegatedPower.amount delegatee + amount) }
  | revokeDelegation (env : Ledger) (delegator : Address) (delegation : Delegation)
      (found : s.delegation.get? delegator = some delegation) :
      Effect tok self s (.call env (.revokeDelegation delegator))
        { s with
          delegation := s.delegation.remove delegator
          delegatedPower := s.delegatedPower.set delegation.delegatee
            (s.delegatedPower.amount delegation.delegatee - delegation.amount) }
  | lockTokens (env : Ledger) (account : Address) (amount : ℤ) (lockDuration : ℕ)
      (opened : s.votingToken.isSome = true) (positive : 0 < amount) :
      Effect tok self s (.call env (.lockTokens account amount lockDuration))
        { s with
          veLock := s.veLock.set account
            ⟨account, amount, env.timestamp + lockDuration, env.timestamp⟩ }
  | withdrawTokens (env : Ledger) (account : Address) (lock : VeTokenLock)
      (found : s.veLock.get? account = some lock) :
      Effect tok self s (.call env (.withdrawTokens account))
        { s with veLock := s.veLock.remove account }
  | setVotingParams (env : Ledger) (admin : Address) (changes : Changes)
      (ruled : s.admin = some admin) :
      Effect tok self s (.call env (.setVotingParams admin changes)) (s.changed changes)
  | getProposalState (env : Ledger) (proposalId : ℕ) :
      Effect tok self s (.call env (.getProposalState proposalId)) s
  | transfers (tokens : τ) : Effect tok self s (.transfers tokens) { s with tokens }

section Calls

variable {tok : Token τ} {self : Address} {env : Ledger} {s s' : State τ} {id : ℕ}

theorem getProposalFromStorage_bind {β : Type} {f : Proposal → Result β} {r : β} :
    (getProposalFromStorage s id >>= f) = .ok r ↔
      ∃ proposal, s.proposal.get? id = some proposal ∧ f proposal = .ok r :=
  expect_bind

theorem getProposalState_ok {r : ProposalState} : getProposalState env id s = .ok r ↔
    ∃ proposal, s.proposal.get? id = some proposal ∧ state env proposal s = .ok r :=
  getProposalFromStorage_bind

theorem getTokenBalance_ok {account : Address} {balance : ℤ} :
    getTokenBalance tok account s = .ok balance ↔
      ∃ token, s.votingToken = some token ∧ tok.balance s.tokens token account = balance := by
  unfold getTokenBalance
  rw [unwrap_bind]
  simp

theorem initializeContract_effect {admin votingToken : Address} {params : Params}
    (h : initializeContract env admin votingToken params s = .ok s') :
    Effect tok self s (.call env (.initializeContract admin votingToken params)) s' := by
  unfold initializeContract at h
  obtain ⟨hfresh, h⟩ := panicIf_bind.mp h
  obtain ⟨-, h⟩ := requireAuth_bind.mp h
  cases h
  exact .initializeContract env admin votingToken params (by simpa using hfresh)

theorem propose_effect {proposer : Address} {draft : Draft} {n : ℕ}
    (h : propose tok env proposer draft s = .ok (n, s')) :
    Effect tok self s (.call env (.propose proposer draft)) s' := by
  unfold propose at h
  obtain ⟨-, h⟩ := requireAuth_bind.mp h
  obtain ⟨power, -, h⟩ := bind_ok.mp h
  obtain ⟨threshold, hthreshold, h⟩ := unwrap_bind.mp h
  obtain ⟨-, h⟩ := panicIf_bind.mp h
  obtain ⟨-, h⟩ := panicIf_bind.mp h
  obtain ⟨delay, -, h⟩ := unwrap_bind.mp h
  obtain ⟨period, -, h⟩ := unwrap_bind.mp h
  obtain ⟨-, h⟩ := U64.add_bind.mp h
  obtain ⟨-, h⟩ := U64.add_bind.mp h
  obtain ⟨-, h⟩ := U64.add_bind.mp h
  cases h
  exact .propose env proposer draft _ _ (by simp [hthreshold])

theorem castVote_effect {voter : Address} {voteType : VoteType}
    (h : castVote tok env voter id voteType s = .ok s') :
    Effect tok self s (.call env (.castVote voter id voteType)) s' := by
  unfold castVote at h
  obtain ⟨-, h⟩ := requireAuth_bind.mp h
  obtain ⟨proposal, hfound, h⟩ := getProposalFromStorage_bind.mp h
  obtain ⟨current, hstate, h⟩ := bind_ok.mp h
  obtain ⟨hactive, h⟩ := panicIf_bind.mp h
  obtain ⟨hnew, h⟩ := panicIf_bind.mp h
  obtain ⟨power, hpower, h⟩ := bind_ok.mp h
  obtain ⟨proposal', hcounted, h⟩ := bind_ok.mp h
  cases h
  rw [not_not.mp hactive] at hstate
  rw [countVote_ok hcounted]
  exact .castVote env voter id voteType proposal power hfound hstate (by simpa using hnew) hpower

theorem queue_effect {caller : Address} (h : queue env caller id s = .ok s') :
    Effect tok self s (.call env (.queue caller id)) s' := by
  unfold queue at h
  obtain ⟨-, h⟩ := requireAuth_bind.mp h
  obtain ⟨proposal, hfound, h⟩ := getProposalFromStorage_bind.mp h
  obtain ⟨current, hstate, h⟩ := bind_ok.mp h
  obtain ⟨hsucceeded, h⟩ := panicIf_bind.mp h
  obtain ⟨delay, -, h⟩ := unwrap_bind.mp h
  obtain ⟨-, h⟩ := U64.add_bind.mp h
  cases h
  rw [not_not.mp hsucceeded] at hstate
  exact .queue env caller id proposal _ hfound hstate

theorem execute_effect {caller : Address} (h : execute tok self env caller id s = .ok s') :
    Effect tok self s (.call env (.execute caller id)) s' := by
  unfold execute at h
  obtain ⟨-, h⟩ := requireAuth_bind.mp h
  obtain ⟨proposal, hfound, h⟩ := getProposalFromStorage_bind.mp h
  obtain ⟨current, hstate, h⟩ := bind_ok.mp h
  obtain ⟨hqueued, h⟩ := panicIf_bind.mp h
  obtain ⟨hdue, h⟩ := panicIf_bind.mp h
  obtain ⟨tokens, hpaid, h⟩ := bind_ok.mp h
  cases h
  rw [not_not.mp hqueued] at hstate
  exact .execute env caller id proposal tokens hfound hstate (not_lt.mp hdue) hpaid

theorem cancel_effect {caller : Address} (h : cancel env caller id s = .ok s') :
    Effect tok self s (.call env (.cancel caller id)) s' := by
  unfold cancel at h
  obtain ⟨-, h⟩ := requireAuth_bind.mp h
  obtain ⟨proposal, hfound, h⟩ := getProposalFromStorage_bind.mp h
  obtain ⟨hpending, h⟩ := panicIf_bind.mp h
  obtain ⟨admin, -, h⟩ := unwrap_bind.mp h
  obtain ⟨-, h⟩ := panicIf_bind.mp h
  cases h
  exact .cancel env caller id proposal hfound (by simpa using hpending)

theorem delegate_effect {delegator delegatee : Address} {amount : ℤ}
    (h : delegate tok env delegator delegatee amount s = .ok s') :
    Effect tok self s (.call env (.delegate delegator delegatee amount)) s' := by
  unfold delegate at h
  obtain ⟨-, h⟩ := requireAuth_bind.mp h
  obtain ⟨-, h⟩ := panicIf_bind.mp h
  obtain ⟨hnew, h⟩ := panicIf_bind.mp h
  obtain ⟨balance, hbalance, h⟩ := bind_ok.mp h
  obtain ⟨hcovered, h⟩ := panicIf_bind.mp h
  obtain ⟨-, h⟩ := safeAdd_bind.mp h
  cases h
  exact .delegate env delegator delegatee amount balance (by simpa using hnew) hbalance
    (not_lt.mp hcovered)

theorem revokeDelegation_effect {delegator : Address}
    (h : revokeDelegation env delegator s = .ok s') :
    Effect tok self s (.call env (.revokeDelegation delegator)) s' := by
  unfold revokeDelegation at h
  obtain ⟨-, h⟩ := requireAuth_bind.mp h
  obtain ⟨delegation, hfound, h⟩ := expect_bind.mp h
  obtain ⟨-, h⟩ := I128.sub_bind.mp h
  cases h
  exact .revokeDelegation env delegator delegation hfound

theorem lockTokens_effect {account : Address} {amount : ℤ} {lockDuration : ℕ}
    (h : lockTokens tok env account amount lockDuration s = .ok s') :
    Effect tok self s (.call env (.lockTokens account amount lockDuration)) s' := by
  unfold lockTokens at h
  obtain ⟨-, h⟩ := requireAuth_bind.mp h
  obtain ⟨hpositive, h⟩ := panicIf_bind.mp h
  obtain ⟨-, h⟩ := panicIf_bind.mp h
  obtain ⟨-, h⟩ := panicIf_bind.mp h
  obtain ⟨balance, hbalance, h⟩ := bind_ok.mp h
  obtain ⟨token, htoken, -⟩ := getTokenBalance_ok.mp hbalance
  obtain ⟨-, h⟩ := panicIf_bind.mp h
  obtain ⟨-, h⟩ := U64.add_bind.mp h
  cases h
  exact .lockTokens env account amount lockDuration (by simp [htoken]) (not_le.mp hpositive)

theorem withdrawTokens_effect {account : Address} (h : withdrawTokens env account s = .ok s') :
    Effect tok self s (.call env (.withdrawTokens account)) s' := by
  unfold withdrawTokens at h
  obtain ⟨-, h⟩ := requireAuth_bind.mp h
  obtain ⟨lock, hfound, h⟩ := expect_bind.mp h
  obtain ⟨-, h⟩ := panicIf_bind.mp h
  cases h
  exact .withdrawTokens env account lock hfound

theorem setVotingParams_effect {admin : Address} {changes : Changes}
    (h : setVotingParams env admin changes s = .ok s') :
    Effect tok self s (.call env (.setVotingParams admin changes)) s' := by
  unfold setVotingParams at h
  obtain ⟨-, h⟩ := requireAuth_bind.mp h
  obtain ⟨stored, hstored, h⟩ := unwrap_bind.mp h
  obtain ⟨hadmin, h⟩ := panicIf_bind.mp h
  cases h
  rw [← not_not.mp hadmin] at hstored
  exact .setVotingParams env admin changes hstored

theorem next_effect {a : Action τ} (h : next tok self a s = .ok s') : Effect tok self s a s' := by
  cases a with
  | transfers tokens =>
    cases h
    exact .transfers tokens
  | call env op =>
    cases op with
    | initializeContract => exact initializeContract_effect h
    | propose =>
      obtain ⟨⟨n, t⟩, hpropose, rfl⟩ := map_ok.mp h
      exact propose_effect hpropose
    | castVote => exact castVote_effect h
    | queue => exact queue_effect h
    | execute => exact execute_effect h
    | cancel => exact cancel_effect h
    | delegate => exact delegate_effect h
    | revokeDelegation => exact revokeDelegation_effect h
    | lockTokens => exact lockTokens_effect h
    | withdrawTokens => exact withdrawTokens_effect h
    | setVotingParams => exact setVotingParams_effect h
    | getProposalState id =>
      obtain ⟨current, -, rfl⟩ := map_ok.mp h
      exact .getProposalState env id

end Calls

/-- The storage is empty until the contract is initialized; proposals are numbered, and votes are
for proposals. -/
structure Ordered (s : State τ) : Prop where
  fresh : s.admin = none → s = deployed s.tokens
  numbered : ∀ id proposal, s.proposal.get? id = some proposal → id < s.proposalCount.getD 0
  ballots : ∀ key vote, s.vote.get? key = some vote → key.1 < s.proposalCount.getD 0

section Ordered

variable {tok : Token τ} {self : Address} {s s' : State τ} {a : Action τ}

/-- Who finds something stored finds the contract initialized. -/
theorem Ordered.initialized_of (h : Ordered s) {β : Type} (field : State τ → Option β)
    (hempty : field (deployed s.tokens) = none) (hfound : (field s).isSome = true) :
    s.admin ≠ none := by
  intro hadmin
  rw [h.fresh hadmin, hempty] at hfound
  cases hfound

/-- The next number is not taken. -/
theorem Ordered.unused (h : Ordered s) : s.proposal.get? (s.proposalCount.getD 0) = none := by
  cases hk : s.proposal.get? (s.proposalCount.getD 0) with
  | none => rfl
  | some proposal => exact absurd (h.numbered _ proposal hk) (lt_irrefl _)

/-- A write to a proposal that is there. -/
theorem Ordered.update (h : Ordered s) {id : ℕ} {proposal : Proposal} (proposal' : Proposal)
    (hfound : s.proposal.get? id = some proposal) :
    s.admin ≠ none ∧ ∀ id' p, (s.proposal.set id proposal').get? id' = some p →
      id' < s.proposalCount.getD 0 := by
  constructor
  · exact h.initialized_of (fun s => s.proposal.get? id) rfl (by simp [hfound])
  · exact Store.forall_set h.numbered (h.numbered id proposal hfound)

theorem ordered_step (h : Ordered s) (heffect : Effect tok self s a s') : Ordered s' := by
  cases heffect with
  | initializeContract env admin votingToken params fresh =>
    have hs := h.fresh fresh
    refine ⟨fun hnone => (by cases hnone), ?_, ?_⟩
    · intro id proposal hfound
      rw [hs] at hfound
      cases hfound
    · intro key vote hfound
      rw [hs] at hfound
      cases hfound
  | propose env proposer draft voteStart voteEnd opened =>
    refine ⟨fun hnone => ?_, ?_, fun key vote hfound => ?_⟩
    · exact absurd hnone (h.initialized_of State.proposalThreshold rfl opened)
    · refine Store.forall_set (fun id proposal hfound => ?_) (Nat.lt_succ_self _)
      exact Nat.lt_succ_of_lt (h.numbered id proposal hfound)
    · exact Nat.lt_succ_of_lt (h.ballots key vote hfound)
  | castVote env voter proposalId voteType proposal power found =>
    obtain ⟨hadmin, hnumbered⟩ := h.update (proposal.voted voteType power) found
    refine ⟨fun hnone => absurd hnone hadmin, hnumbered, ?_⟩
    exact Store.forall_set h.ballots (h.numbered proposalId proposal found)
  | queue env caller proposalId proposal eta found =>
    obtain ⟨hadmin, hnumbered⟩ := h.update { proposal with eta } found
    exact ⟨fun hnone => absurd hnone hadmin, hnumbered, h.ballots⟩
  | execute env caller proposalId proposal tokens found =>
    obtain ⟨hadmin, hnumbered⟩ := h.update { proposal with executed := true } found
    exact ⟨fun hnone => absurd hnone hadmin, hnumbered, h.ballots⟩
  | cancel env caller proposalId proposal found =>
    obtain ⟨hadmin, hnumbered⟩ := h.update { proposal with canceled := true } found
    exact ⟨fun hnone => absurd hnone hadmin, hnumbered, h.ballots⟩
  | delegate env delegator delegatee amount balance new held =>
    obtain ⟨token, htoken, -⟩ := getTokenBalance_ok.mp held
    have hadmin := h.initialized_of State.votingToken rfl (by simp [htoken])
    exact ⟨fun hnone => absurd hnone hadmin, h.numbered, h.ballots⟩
  | revokeDelegation env delegator delegation found =>
    have hadmin := h.initialized_of (fun s => s.delegation.get? delegator) rfl (by simp [found])
    exact ⟨fun hnone => absurd hnone hadmin, h.numbered, h.ballots⟩
  | lockTokens env account amount lockDuration opened =>
    have hadmin := h.initialized_of State.votingToken rfl opened
    exact ⟨fun hnone => absurd hnone hadmin, h.numbered, h.ballots⟩
  | withdrawTokens env account lock found =>
    have hadmin := h.initialized_of (fun s => s.veLock.get? account) rfl (by simp [found])
    exact ⟨fun hnone => absurd hnone hadmin, h.numbered, h.ballots⟩
  | setVotingParams env admin changes ruled =>
    have hadmin : s.admin ≠ none := by simp [ruled]
    exact ⟨fun hnone => absurd hnone hadmin, h.numbered, h.ballots⟩
  | getProposalState => exact h
  | transfers tokens =>
    refine ⟨fun hnone => ?_, h.numbered, h.ballots⟩
    rw [h.fresh hnone]
    rfl

theorem ordered_deployed (tokens : τ) : Ordered (deployed tokens) where
  fresh _ := rfl
  numbered _ _ hfound := by cases hfound
  ballots _ _ hfound := by cases hfound

/-- What every effect preserves in a storage that is in order, every run has. -/
theorem run_preserves {ok : List (State τ × Action τ) → State τ → Action τ → Prop} {start : τ}
    {log : List (State τ × Action τ)} {P : List (State τ × Action τ) → State τ → Prop}
    (hrun : History (next tok self) ok (deployed start) log s) (hstart : P [] (deployed start))
    (step : ∀ log s a s', Ordered s → ok log s a → Effect tok self s a s' → P log s →
      P ((s, a) :: log) s') : Ordered s ∧ P log s := by
  refine hrun.preserves (P := fun log s => Ordered s ∧ P log s)
    ⟨ordered_deployed start, hstart⟩ ?_
  rintro log s a s' hok hn ⟨hordered, hp⟩
  have heffect := next_effect hn
  exact ⟨ordered_step hordered heffect, step log s a s' hordered hok heffect hp⟩

end Ordered

end Governance
