import StellAIverse.InsuranceProtocol.Registry
import StellAIverse.InsuranceProtocol.Solvency

/-!
# Votes on claims

Large claims are voted on until their deadline, and decided from their deadline on.
At the deadline itself both is possible, in any order: a vote that follows the
decision is still counted, and the counts no longer say what was decided.
-/

namespace InsuranceProtocol

open Soroban

variable {τ : Type} {tok : Token τ} {self : Address} {env : Env} {s s' : State τ} {a : Action τ}
  {log : List (State τ × Action τ)} {id : ℕ} {claim : Claim} {entry : Option Entry}

def Action.time : Action τ → Option ℕ
  | .call env _ => some env.timestamp
  | .transfers _ => none

/-- The claim that is voted on, and who votes. -/
def Action.ballot : Action τ → Option (ℕ × Address)
  | .call _ (.voteOnClaim underwriter claimId _) => some (claimId, underwriter)
  | _ => none

/-- A claim with one more vote. -/
def Claim.counted (approve : Bool) (claim : Claim) : Claim :=
  { claim with
    votesFor := claim.votesFor + (if approve = true then 1 else 0)
    votesAgainst := claim.votesAgainst + (if approve = true then 0 else 1)
    totalVoters := claim.totalVoters + 1 }

/-- What the votes so far decide, where votes decide. -/
def Claim.outcome (claim : Claim) : ClaimStatus :=
  if claim.requiresVoting = true ∧ claim.votesFor ≤ claim.votesAgainst then .denied else .approved

theorem voteOnClaim_ok {underwriter : Address} {approve : Bool}
    (h : voteOnClaim env underwriter id approve s = .ok s') :
    ∃ claim, s.claim.get? id = some claim ∧ claim.requiresVoting = true ∧
      env.timestamp ≤ claim.votingDeadline ∧ s.voteRecord.get? (id, underwriter) = none ∧
      s'.claim = s.claim.set id (claim.counted approve) ∧
      s'.voteRecord =
        s.voteRecord.set (id, underwriter) ⟨underwriter, id, approve, env.timestamp⟩ := by
  unfold voteOnClaim at h
  obtain ⟨-, h⟩ := requireAuth_bind.mp h
  obtain ⟨claim, hclaim, h⟩ := okOr_bind.mp h
  obtain ⟨hvoting, h⟩ := failIf_bind.mp h
  obtain ⟨hearly, h⟩ := failIf_bind.mp h
  obtain ⟨hfirst, h⟩ := failIf_bind.mp h
  obtain ⟨uw, -, h⟩ := okOr_bind.mp h
  obtain ⟨-, h⟩ := failIf_bind.mp h
  obtain ⟨-, h⟩ := U32.add_bind.mp h
  obtain ⟨-, h⟩ := U32.add_bind.mp h
  obtain ⟨-, h⟩ := U32.add_bind.mp h
  cases h
  exact ⟨claim, hclaim, by simpa using hvoting, not_lt.mp hearly, by simpa using hfirst, rfl, rfl⟩

theorem outvoted_ok {denied : Bool} (h : outvoted claim = .ok denied) :
    claim.outcome = if denied = true then .denied else .approved := by
  unfold outvoted at h
  unfold Claim.outcome
  split at h
  · rename_i hvoting
    obtain ⟨-, h⟩ := U32.add_bind.mp h
    cases h
    by_cases hle : claim.votesFor ≤ claim.votesAgainst
    · simp [hvoting, hle]
    · have hsome : ¬ (claim.votesFor = 0 ∧ claim.votesAgainst = 0) := by omega
      simp [hvoting, hle, hsome]
  · rename_i hvoting
    cases h
    simp [hvoting]

theorem processClaim_ok (h : processClaim env id s = .ok s') :
    ∃ claim, s.claim.get? id = some claim ∧ claim.status = .pending ∧
      claim.votingDeadline ≤ env.timestamp ∧
      s'.claim = s.claim.set id { claim with status := claim.outcome } ∧
      s'.voteRecord = s.voteRecord := by
  unfold processClaim at h
  obtain ⟨claim, hclaim, h⟩ := okOr_bind.mp h
  obtain ⟨hwaiting, h⟩ := failIf_bind.mp h
  obtain ⟨hlate, h⟩ := failIf_bind.mp h
  obtain ⟨denied, hvotes, h⟩ := bind_ok.mp h
  have houtcome := outvoted_ok hvotes
  refine ⟨claim, hclaim, not_not.mp hwaiting, not_lt.mp hlate, ?_⟩
  split at h
  · rename_i hdenied
    rw [if_pos hdenied] at houtcome
    cases h
    exact ⟨by rw [houtcome], rfl⟩
  · rename_i happroved
    rw [if_neg happroved] at houtcome
    unfold approveClaim at h
    obtain ⟨-, h⟩ := U64.checked_bind.mp h
    cases h
    exact ⟨by rw [houtcome], rfl⟩

/-- What an invocation does to claims and votes. -/
inductive Handles (s : State τ) (a : Action τ) (s' : State τ) : Prop
  | other (quiet : a.ballot = none) (records : s'.voteRecord = s.voteRecord)
      (claims : s'.claim = s.claim)
  | submits (claimId : ℕ) (claim : Claim) (quiet : a.ballot = none)
      (records : s'.voteRecord = s.voteRecord) (new : s.claim.get? claimId = none)
      (waiting : claim.status = .pending) (votesFor : claim.votesFor = 0)
      (votesAgainst : claim.votesAgainst = 0) (totalVoters : claim.totalVoters = 0)
      (claims : s'.claim = s.claim.set claimId claim)
  | votes (claimId : ℕ) (who : Address) (approve : Bool) (record : VoteRecord) (now : ℕ)
      (claim : Claim) (ballot : a.ballot = some (claimId, who)) (time : a.time = some now)
      (records : s'.voteRecord = s.voteRecord.set (claimId, who) record)
      (stored : s.claim.get? claimId = some claim) (voting : claim.requiresVoting = true)
      (early : now ≤ claim.votingDeadline) (first : s.voteRecord.get? (claimId, who) = none)
      (claims : s'.claim = s.claim.set claimId (claim.counted approve))
  | decides (claimId now : ℕ) (claim : Claim) (quiet : a.ballot = none) (time : a.time = some now)
      (records : s'.voteRecord = s.voteRecord) (stored : s.claim.get? claimId = some claim)
      (waiting : claim.status = .pending) (late : claim.votingDeadline ≤ now)
      (claims : s'.claim = s.claim.set claimId { claim with status := claim.outcome })
  | pays (claimId : ℕ) (claim : Claim) (quiet : a.ballot = none)
      (records : s'.voteRecord = s.voteRecord) (stored : s.claim.get? claimId = some claim)
      (approved : claim.status = .approved)
      (claims : s'.claim = s.claim.set claimId { claim with status := .paid })

theorem handles_next (hregistry : Registry s) (hnext : next tok self a s = .ok s')
    (heffect : Effect tok self s a entry s') : Handles s a s' := by
  cases heffect with
  | claimed env claimant policyId amount evidence policy votingDeadline requiresVoting =>
    exact .submits _ _ rfl rfl hregistry.new_claim rfl rfl rfl rfl rfl
  | voted env underwriter claimId approve =>
    obtain ⟨claim, hstored, hvoting, hearly, hfirst, hclaims, hrecords⟩ := voteOnClaim_ok hnext
    exact .votes claimId underwriter approve _ env.timestamp claim rfl rfl hrecords hstored hvoting
      hearly hfirst hclaims
  | denied env claimId =>
    obtain ⟨claim, hstored, hwaiting, hlate, hclaims, hrecords⟩ := processClaim_ok hnext
    exact .decides claimId env.timestamp claim rfl rfl hrecords hstored hwaiting hlate hclaims
  | approved env claimId =>
    obtain ⟨claim, hstored, hwaiting, hlate, hclaims, hrecords⟩ := processClaim_ok hnext
    exact .decides claimId env.timestamp claim rfl rfl hrecords hstored hwaiting hlate hclaims
  | paid env admin queueId item claim pool policy requiredReserve reserveAmount token tokens listed
      waiting stored approved =>
    exact .pays item.claimId claim rfl rfl stored approved rfl
  | _ => exact .other rfl rfl rfl

/-- The number of votes recorded for a claim. -/
def voters (s : State τ) (id : ℕ) : ℤ := s.voteRecord.total fun vote _ => if vote.1 = id then 1 else 0

/-- The counts of a claim are those of its records. -/
structure Claim.Tally (s : State τ) (id : ℕ) (claim : Claim) : Prop where
  votes : claim.votesFor + claim.votesAgainst = claim.totalVoters
  records : (claim.totalVoters : ℤ) = voters s id

structure Tallied (log : List (State τ × Action τ)) (s : State τ) : Prop where
  counts : ∀ id claim, s.claim.get? id = some claim → claim.Tally s id
  recorded : ∀ vote record, s.voteRecord.get? vote = some record →
    (s.claim.get? vote.1).isSome = true
  once : ∀ vote, (log.countP fun e => e.2.ballot = some vote) =
    if (s.voteRecord.get? vote).isSome = true then 1 else 0

theorem Claim.Tally.keep (h : claim.Tally s id) {claim' : Claim}
    (hrecords : s'.voteRecord = s.voteRecord) (hfor : claim'.votesFor = claim.votesFor)
    (hagainst : claim'.votesAgainst = claim.votesAgainst)
    (htotal : claim'.totalVoters = claim.totalVoters) : claim'.Tally s' id where
  votes := by rw [hfor, hagainst, htotal, h.votes]
  records := by
    unfold voters
    rw [htotal, hrecords]
    exact h.records

theorem isSome_set {claimId : ℕ} (h : (s.claim.get? id).isSome = true) :
    ((s.claim.set claimId claim).get? id).isSome = true := by
  rw [Store.get?_set]
  split
  · rfl
  · exact h

/-- An invocation that is no vote and leaves the counts as they are. -/
theorem Tallied.keep (h : Tallied log s) (hquiet : a.ballot = none)
    (hrecords : s'.voteRecord = s.voteRecord)
    (hstored : ∀ id, (s.claim.get? id).isSome = true → (s'.claim.get? id).isSome = true)
    (hcounts : ∀ id claim, s'.claim.get? id = some claim → claim.Tally s' id) :
    Tallied ((s, a) :: log) s' where
  counts := hcounts
  recorded vote record hfound := by
    rw [hrecords] at hfound
    exact hstored vote.1 (h.recorded vote record hfound)
  once vote := by
    rw [List.countP_cons_of_neg (by simp [hquiet]), hrecords]
    exact h.once vote

theorem voters_set {vote : ℕ × Address} {record : VoteRecord}
    (hfirst : s.voteRecord.get? vote = none)
    (hrecords : s'.voteRecord = s.voteRecord.set vote record) (id : ℕ) :
    voters s' id = voters s id + if vote.1 = id then 1 else 0 := by
  unfold voters
  rw [hrecords, Store.total_set, Store.weight_none hfirst]
  omega

/-- A decision and a payment change the status alone. -/
theorem Tallied.restated (h : Tallied log s) (hquiet : a.ballot = none)
    (hrecords : s'.voteRecord = s.voteRecord) {claimId : ℕ} {status : ClaimStatus}
    (hstored : s.claim.get? claimId = some claim)
    (hclaims : s'.claim = s.claim.set claimId { claim with status }) :
    Tallied ((s, a) :: log) s' := by
  refine h.keep hquiet hrecords (fun id hid => hclaims ▸ isSome_set hid) ?_
  rw [hclaims]
  exact Store.forall_set
    (fun id claim hfound => (h.counts id claim hfound).keep hrecords rfl rfl rfl)
    ((h.counts claimId claim hstored).keep hrecords rfl rfl rfl)

/-- A first vote on a claim adds one to the counts of the claim, and one record. -/
theorem Tallied.voted (h : Tallied log s) {claimId : ℕ} {who : Address} {approve : Bool}
    {record : VoteRecord} (hballot : a.ballot = some (claimId, who))
    (hrecords : s'.voteRecord = s.voteRecord.set (claimId, who) record)
    (hstored : s.claim.get? claimId = some claim)
    (hfirst : s.voteRecord.get? (claimId, who) = none)
    (hclaims : s'.claim = s.claim.set claimId (claim.counted approve)) :
    Tallied ((s, a) :: log) s' := by
  have hvoters := voters_set hfirst hrecords
  constructor
  · rw [hclaims]
    intro id claim' hfound
    rw [Store.get?_set] at hfound
    split at hfound
    · rename_i heq
      cases hfound
      obtain ⟨htally, hcount⟩ := h.counts claimId claim hstored
      constructor
      · cases approve <;> simp [Claim.counted] <;> omega
      · rw [hvoters, if_pos heq.symm, heq, ← hcount]
        rfl
    · rename_i hne
      obtain ⟨htally, hcount⟩ := h.counts id claim' hfound
      exact ⟨htally, by rw [hvoters, if_neg (Ne.symm hne), add_zero, hcount]⟩
  · rw [hclaims, hrecords]
    refine Store.forall_set (fun vote record hfound => isSome_set ?_) ?_
    · exact h.recorded vote record hfound
    · rw [Store.get?_set_self]
      rfl
  · intro vote
    have honce := h.once vote
    rw [hrecords, Store.get?_set]
    by_cases heq : vote = (claimId, who)
    · subst heq
      rw [hfirst] at honce
      rw [List.countP_cons_of_pos (by simp [hballot]), honce, if_pos rfl]
      rfl
    · rw [List.countP_cons_of_neg (by simpa [hballot] using Ne.symm heq), honce, if_neg heq]

theorem tallied_step (h : Tallied log s) (hstep : Handles s a s') : Tallied ((s, a) :: log) s' := by
  cases hstep with
  | other quiet records claims =>
    refine h.keep quiet records (fun id hid => claims ▸ hid) fun id claim hfound => ?_
    rw [claims] at hfound
    exact (h.counts id claim hfound).keep records rfl rfl rfl
  | submits claimId claim quiet records new waiting votesFor votesAgainst totalVoters claims =>
    refine h.keep quiet records (fun id hid => claims ▸ isSome_set hid) ?_
    rw [claims]
    refine Store.forall_set (fun id claim hfound => ?_) ⟨?_, ?_⟩
    · exact (h.counts id claim hfound).keep records rfl rfl rfl
    · rw [votesFor, votesAgainst, totalVoters]
    · -- Nobody voted on a claim that was not there.
      rw [totalVoters]
      unfold voters
      rw [records]
      refine (Store.total_eq_zero fun vote record hfound => if_neg fun heq => ?_).symm
      have hstored := h.recorded vote record hfound
      rw [heq, new] at hstored
      cases hstored
  | votes claimId who approve record now claim ballot time records stored voting early first claims =>
    exact h.voted ballot records stored first claims
  | decides claimId now claim quiet time records stored waiting late claims =>
    exact h.restated quiet records stored claims
  | pays claimId claim quiet records stored approved claims =>
    exact h.restated quiet records stored claims

theorem tallied_deployed (tokens : τ) : Tallied [] (deployed tokens) :=
  ⟨fun _ _ hfound => (by cases hfound), fun _ _ hfound => (by cases hfound), fun _ => rfl⟩

/-- A decided claim is past its deadline, and decided by its counts. -/
structure Claim.Decided (now : ℕ) (claim : Claim) : Prop where
  late : claim.votingDeadline ≤ now
  upheld : claim.status = .approved ∨ claim.status = .paid ↔ claim.votesAgainst < claim.votesFor
  denied : claim.status = .denied ↔ claim.votesFor ≤ claim.votesAgainst

def Decided (log : List (State τ × Action τ)) (s : State τ) : Prop :=
  ∀ id claim, s.claim.get? id = some claim → claim.requiresVoting = true →
    claim.status ≠ .pending → claim.Decided (clock Action.time log)

/-- No vote comes at the deadline when the claim is already decided. -/
def Action.VotesInTime (s : State τ) (a : Action τ) : Prop :=
  ∀ vote ∈ a.ballot, ∀ claim ∈ s.claim.get? vote.1,
    claim.status = .pending ∨ a.time ≠ some claim.votingDeadline

instance (s : State τ) (a : Action τ) : Decidable (a.VotesInTime s) :=
  inferInstanceAs (Decidable (∀ vote ∈ a.ballot, ∀ claim ∈ s.claim.get? vote.1, _ ∨ _))

/-- Who votes finds the claim undecided. -/
theorem Decided.open_vote (h : Decided log s) (hontime : OnTime Action.time log a)
    (hintime : a.VotesInTime s) {who : Address} {now : ℕ} (ballot : a.ballot = some (id, who))
    (time : a.time = some now) (stored : s.claim.get? id = some claim)
    (voting : claim.requiresVoting = true) (early : now ≤ claim.votingDeadline) :
    claim.status = .pending := by
  by_contra hdone
  have hlate := (h id claim stored voting hdone).late
  have hclock := hontime now time
  have hnow : now = claim.votingDeadline := by omega
  rcases hintime _ ballot claim stored with hwaiting | hother
  · exact hdone hwaiting
  · exact hother (hnow ▸ time)

theorem outcome_decided {now : ℕ} (hvoting : claim.requiresVoting = true)
    (hlate : claim.votingDeadline ≤ now) :
    Claim.Decided now { claim with status := claim.outcome } := by
  by_cases hle : claim.votesFor ≤ claim.votesAgainst
  · have houtcome : claim.outcome = .denied := if_pos ⟨hvoting, hle⟩
    refine ⟨hlate, ?_, ?_⟩
    · simp [houtcome, hle]
    · simp [houtcome, hle]
  · have houtcome : claim.outcome = .approved := if_neg fun hdenied => hle hdenied.2
    refine ⟨hlate, ?_, ?_⟩
    · simpa [houtcome] using hle
    · simpa [houtcome] using hle

theorem decided_step (h : Decided log s) (hontime : OnTime Action.time log a)
    (hintime : a.VotesInTime s) (hstep : Handles s a s') : Decided ((s, a) :: log) s' := by
  have hlater : ∀ id claim, s.claim.get? id = some claim → claim.requiresVoting = true →
      claim.status ≠ .pending → claim.Decided (clock Action.time ((s, a) :: log)) :=
    fun id claim hfound hvoting hdone =>
      let hdecided := h id claim hfound hvoting hdone
      ⟨hdecided.late.trans (hontime.clock_le s), hdecided.upheld, hdecided.denied⟩
  unfold Decided
  cases hstep with
  | other quiet records claims =>
    rw [claims]
    exact hlater
  | submits claimId claim quiet records new waiting votesFor votesAgainst totalVoters claims =>
    rw [claims]
    exact Store.forall_set hlater fun _ hdone => absurd waiting hdone
  | votes claimId who approve record now claim ballot time records stored voting early first claims =>
    rw [claims]
    have hwaiting := h.open_vote hontime hintime ballot time stored voting early
    exact Store.forall_set hlater fun _ hdone => absurd hwaiting hdone
  | decides claimId now claim quiet time records stored waiting late claims =>
    rw [claims, clock_cons, time]
    rw [clock_cons, time] at hlater
    exact Store.forall_set hlater fun hvoting _ => outcome_decided hvoting late
  | pays claimId claim quiet records stored approved claims =>
    rw [claims]
    refine Store.forall_set hlater fun hvoting _ => ?_
    obtain ⟨hlate, hupheld, hdenied⟩ :=
      hlater claimId claim stored hvoting (by rw [approved]; decide)
    rw [approved] at hupheld hdenied
    exact ⟨hlate, by simpa using hupheld, by simpa using hdenied⟩

/-- A decided claim stays decided, with the votes that it has. -/
structure Claim.Stays (claim claim' : Claim) : Prop where
  done : claim'.status ≠ .pending
  votesFor : claim'.votesFor = claim.votesFor
  votesAgainst : claim'.votesAgainst = claim.votesAgainst
  totalVoters : claim'.totalVoters = claim.totalVoters

theorem ne_of_pending {other : ℕ} {waiting : Claim} (hstored : s.claim.get? id = some claim)
    (hdone : claim.status ≠ .pending) (hfound : s.claim.get? other = some waiting)
    (hpending : waiting.status = .pending) : id ≠ other := by
  rintro rfl
  obtain rfl := Option.some.inj (hstored.symm.trans hfound)
  exact hdone hpending

/-- A call changes a decided claim only by paying it. -/
theorem stays_step (h : Decided log s) (hontime : OnTime Action.time log a)
    (hintime : a.VotesInTime s) (hstep : Handles s a s') (hstored : s.claim.get? id = some claim)
    (hdone : claim.status ≠ .pending) :
    ∃ claim', s'.claim.get? id = some claim' ∧ claim.Stays claim' := by
  have hsame : claim.Stays claim := ⟨hdone, rfl, rfl, rfl⟩
  have hother {claimId : ℕ} {v : Claim} (claims : s'.claim = s.claim.set claimId v)
      (hne : id ≠ claimId) : ∃ claim', s'.claim.get? id = some claim' ∧ claim.Stays claim' :=
    ⟨claim, by rw [claims, Store.get?_set_ne _ _ hne, hstored], hsame⟩
  cases hstep with
  | other quiet records claims => exact ⟨claim, claims ▸ hstored, hsame⟩
  | submits claimId new quiet records hnew waiting votesFor votesAgainst totalVoters claims =>
    refine hother claims ?_
    rintro rfl
    rw [hnew] at hstored
    cases hstored
  | votes claimId who approve record now voted ballot time records stored voting early first claims =>
    have hwaiting := h.open_vote hontime hintime ballot time stored voting early
    exact hother claims (ne_of_pending hstored hdone stored hwaiting)
  | decides claimId now decided quiet time records stored waiting late claims =>
    exact hother claims (ne_of_pending hstored hdone stored waiting)
  | pays claimId paid quiet records stored approved claims =>
    by_cases hid : id = claimId
    · subst hid
      obtain rfl := Option.some.inj (hstored.symm.trans stored)
      refine ⟨{ claim with status := .paid }, ?_, by simp, rfl, rfl, rfl⟩
      rw [claims, Store.get?_set_self]
    · exact hother claims hid

/-- The claims of earlier states that were decided are still stored, with the same votes. -/
def Settled (log : List (State τ × Action τ)) (s : State τ) : Prop :=
  ∀ e ∈ log, ∀ id claim, e.1.claim.get? id = some claim → claim.status ≠ .pending →
    ∃ claim', s.claim.get? id = some claim' ∧ claim.Stays claim'

theorem settled_step (h : Settled log s) (hdecided : Decided log s)
    (hontime : OnTime Action.time log a) (hintime : a.VotesInTime s) (hstep : Handles s a s') :
    Settled ((s, a) :: log) s' := by
  intro e he id claim hfound hdone
  rcases List.mem_cons.mp he with rfl | he
  · exact stays_step hdecided hontime hintime hstep hfound hdone
  · obtain ⟨claim', hfound', hstays⟩ := h e he id claim hfound hdone
    obtain ⟨claim'', hfound'', hstays'⟩ :=
      stays_step hdecided hontime hintime hstep hfound' hstays.done
    exact ⟨claim'', hfound'', hstays'.done, hstays'.votesFor.trans hstays.votesFor,
      hstays'.votesAgainst.trans hstays.votesAgainst,
      hstays'.totalVoters.trans hstays.totalVoters⟩

/-- The votes of a claim are counted once each, and their counts say how it was decided and do
not change afterwards. -/
structure VoteDecides (log : List (State τ × Action τ)) (s : State τ) (id : ℕ) (claim : Claim) :
    Prop where
  votes : claim.votesFor + claim.votesAgainst = claim.totalVoters
  records : (claim.totalVoters : ℤ) = voters s id
  once : ∀ who, (log.countP fun e => e.2.ballot = some (id, who)) ≤ 1
  closed : ∀ e ∈ log, ∀ before, e.1.claim.get? id = some before → before.status ≠ .pending →
    claim.votesFor = before.votesFor ∧ claim.votesAgainst = before.votesAgainst ∧
      claim.totalVoters = before.totalVoters
  upheld : claim.status ≠ .pending →
    (claim.status = .approved ∨ claim.status = .paid ↔ claim.votesAgainst < claim.votesFor)
  denied : claim.status ≠ .pending →
    (claim.status = .denied ↔ ¬ claim.votesAgainst < claim.votesFor)

/-- The calls come in the order of ledger time, and none votes at the deadline on a claim that is
already decided. -/
def InTime (log : List (State τ × Action τ)) (s : State τ) (a : Action τ) : Prop :=
  OnTime Action.time log a ∧ a.VotesInTime s

instance (log : List (State τ × Action τ)) (s : State τ) (a : Action τ) :
    Decidable (InTime log s a) := inferInstanceAs (Decidable (_ ∧ _))

/-- In every run in which nobody votes at the deadline on a decided claim, the vote decides. -/
theorem votes_decide {tokens : τ} (hrun : History (next tok self) InTime (deployed tokens) log s)
    (hstored : s.claim.get? id = some claim) (hvoting : claim.requiresVoting = true) :
    VoteDecides log s id claim := by
  obtain ⟨-, htallied, hdecided, hsettled⟩ :=
    run_preserves (P := fun log s => Tallied log s ∧ Decided log s ∧ Settled log s) hrun
      ⟨tallied_deployed tokens, fun _ _ hfound => (by cases hfound), fun _ he => (by cases he)⟩
      fun log s a s' hregistry hok hnext heffect h => by
        have hstep := handles_next hregistry hnext heffect
        exact ⟨tallied_step h.1 hstep, decided_step h.2.1 hok.1 hok.2 hstep,
          settled_step h.2.2 h.2.1 hok.1 hok.2 hstep⟩
  obtain ⟨hvotes, hrecords⟩ := htallied.counts id claim hstored
  refine ⟨hvotes, hrecords, fun who => ?_, fun e he before hbefore hdone => ?_, fun hdone => ?_,
    fun hdone => ?_⟩
  · rw [htallied.once]
    split
    · exact le_rfl
    · exact Nat.zero_le 1
  · obtain ⟨claim', hfound, hstays⟩ := hsettled e he id before hbefore hdone
    obtain rfl := Option.some.inj (hstored.symm.trans hfound)
    exact ⟨hstays.votesFor, hstays.votesAgainst, hstays.totalVoters⟩
  · exact (hdecided id claim hstored hvoting hdone).upheld
  · exact (hdecided id claim hstored hvoting hdone).denied.trans not_lt.symm

section Runs

open Sample

/-- A large claim; two of three underwriters are for it. -/
def upheld : List (ℕ × Op) := opened ++ [
  (3, .purchaseCoverage carol "bridges" .standard 4000),
  (3, .depositAsUnderwriter bob "bridges" 2000),
  (3, .depositAsUnderwriter carol "bridges" 2000),
  (4, .submitClaim carol 1 2000 "exploit"),
  (5, .voteOnClaim alice 1 true),
  (6, .voteOnClaim bob 1 false),
  (604804, .voteOnClaim carol 1 true),
  (604804, .processClaim 1),
  (604805, .payClaim admin 1)]

theorem votes_decide_upheld :
    ∃ log s claim, History (next asset contract) InTime start log s ∧
      s.claim.get? 1 = some claim ∧ claim.status = .paid ∧ claim.votesFor = 2 ∧
      VoteDecides log s 1 claim := by
  have h : After (fun h => ∃ claim ∈ h.2.claim.get? 1, claim.requiresVoting = true ∧
        claim.status = .paid ∧ claim.votesFor = 2)
      (record (next asset contract) InTime (calls upheld) ([], start)) := by
    decide +kernel
  obtain ⟨⟨log, s⟩, hrec, claim, hclaim, hvoting, hpaid, hfor⟩ := h.exists_ok
  have hrun : History (next asset contract) InTime start log s := record_run hrec
  exact ⟨log, s, claim, hrun, hclaim, hpaid, hfor, votes_decide hrun hclaim hvoting⟩

/-- At the deadline a claim nobody voted on is denied, and then voted for. -/
def afterwards : List (ℕ × Op) := opened ++ [
  (3, .purchaseCoverage carol "bridges" .standard 4000),
  (4, .submitClaim carol 1 2000 "exploit"),
  (604804, .processClaim 1),
  (604804, .voteOnClaim alice 1 true)]

theorem denied_then_voted :
    ¬ ∀ (log : List (State Balances × Action Balances)) (s : State Balances) (id : ℕ)
        (claim : Claim),
      History (next asset contract) (fun log _ a => OnTime Action.time log a) start log s →
      s.claim.get? id = some claim → claim.requiresVoting = true → VoteDecides log s id claim := by
  have h : After (fun h => ∃ claim ∈ h.2.claim.get? 1, claim.requiresVoting = true ∧
        claim.status = .denied ∧ claim.votesAgainst < claim.votesFor)
      (record (next asset contract) (fun log _ a => OnTime Action.time log a) (calls afterwards)
        ([], start)) := by
    decide +kernel
  obtain ⟨⟨log, s⟩, hrec, claim, hclaim, hvoting, hdenied, hmore⟩ := h.exists_ok
  intro hall
  have hdecides := hall log s 1 claim (record_run hrec) hclaim hvoting
  exact (hdecides.denied (by rw [hdenied]; decide)).mp hdenied hmore

end Runs

end InsuranceProtocol
