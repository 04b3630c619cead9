import StellAIverse.Governance.Execution

/-!
# Tokens behind the votes

A vote weighs what the voter holds and what is delegated to it at that moment.
Tokens and delegations can move on and be counted again. As long as no account is
counted twice for a proposal, as a voter or behind one, and each still has what was
counted of it, the votes do not exceed the supply.
-/

namespace Governance

open Soroban

variable {τ : Type} {tok : Token τ} {self : Address} {s s' : State τ} {a : Action τ}
  {log : List (State τ × Action τ)} {supply : ℤ}

/-- What an account holds of the voting token. -/
def holding (tok : Token τ) (s : State τ) (account : Address) : ℤ :=
  match s.votingToken with
  | some token => tok.balance s.tokens token account
  | none => 0

/-- Whose tokens a vote counts, and how many: the voter's own and those of its delegators. -/
def parts (tok : Token τ) (voter : Address) (s : State τ) : List (Address × ℤ) :=
  (voter, holding tok s voter) ::
    (s.delegation.list.filter fun e => e.2.delegatee = voter).map fun e => (e.1, e.2.amount)

/-- Whose tokens were counted for a proposal. -/
def counted (tok : Token τ) (id : ℕ) : List (State τ × Action τ) → List (Address × ℤ)
  | [] => []
  | (s, .call _ (.castVote voter proposalId _)) :: log =>
    if proposalId = id then parts tok voter s ++ counted tok id log else counted tok id log
  | _ :: log => counted tok id log

theorem sum_parts (tok : Token τ) (voter : Address) (s : State τ) :
    ((parts tok voter s).map Prod.snd).sum = holding tok s voter + delegatedTo voter s := by
  have hdelegators (l : List (Address × Delegation)) :
      (((l.filter fun e => e.2.delegatee = voter).map fun e => (e.1, e.2.amount)).map
        Prod.snd).sum = (l.map fun e => if e.2.delegatee = voter then e.2.amount else 0).sum := by
    induction l with
    | nil => rfl
    | cons e l ih =>
      by_cases he : e.2.delegatee = voter
      · simp [he, ← ih]
      · simp [he, ← ih]
  rw [parts, List.map_cons, List.sum_cons, hdelegators, delegatedTo, Store.total_eq_list]

/-- Different accounts hold no more of the voting token than there is. -/
def Supplied (tok : Token τ) (supply : ℤ) (s : State τ) : Prop :=
  ∀ accounts : List Address, accounts.Nodup → (accounts.map (holding tok s)).sum ≤ supply

def Action.LocksNothing : Action τ → Prop
  | .call _ (.lockTokens _ _ _) => False
  | _ => True

/-- The accounts counted for the proposal are different, and each still holds what was counted
of it. -/
def Action.CountsOnce (tok : Token τ) (log : List (State τ × Action τ)) (s : State τ) :
    Action τ → Prop
  | .call _ (.castVote voter id _) =>
    ((parts tok voter s ++ counted tok id log).map Prod.fst).Nodup ∧
      ∀ part ∈ parts tok voter s ++ counted tok id log, part.2 ≤ holding tok s part.1
  | _ => True

instance : DecidablePred (Action.LocksNothing : Action τ → Prop)
  | .call _ (.lockTokens _ _ _) => .isFalse id
  | .call _ (.initializeContract _ _ _) => .isTrue trivial
  | .call _ (.propose _ _) => .isTrue trivial
  | .call _ (.castVote _ _ _) => .isTrue trivial
  | .call _ (.queue _ _) => .isTrue trivial
  | .call _ (.execute _ _) => .isTrue trivial
  | .call _ (.cancel _ _) => .isTrue trivial
  | .call _ (.delegate _ _ _) => .isTrue trivial
  | .call _ (.revokeDelegation _) => .isTrue trivial
  | .call _ (.withdrawTokens _) => .isTrue trivial
  | .call _ (.setVotingParams _ _) => .isTrue trivial
  | .call _ (.getProposalState _) => .isTrue trivial
  | .transfers _ => .isTrue trivial

instance (tok : Token τ) (log : List (State τ × Action τ)) (s : State τ) :
    DecidablePred (Action.CountsOnce tok log s)
  | .call _ (.castVote _ _ _) => inferInstanceAs (Decidable (_ ∧ _))
  | .call _ (.lockTokens _ _ _) => .isTrue trivial
  | .call _ (.initializeContract _ _ _) => .isTrue trivial
  | .call _ (.propose _ _) => .isTrue trivial
  | .call _ (.queue _ _) => .isTrue trivial
  | .call _ (.execute _ _) => .isTrue trivial
  | .call _ (.cancel _ _) => .isTrue trivial
  | .call _ (.delegate _ _ _) => .isTrue trivial
  | .call _ (.revokeDelegation _) => .isTrue trivial
  | .call _ (.withdrawTokens _) => .isTrue trivial
  | .call _ (.setVotingParams _ _) => .isTrue trivial
  | .call _ (.getProposalState _) => .isTrue trivial
  | .transfers _ => .isTrue trivial

/-- Parts of different accounts, each within what its account holds. -/
theorem Supplied.sum_le (h : Supplied tok supply s) {all : List (Address × ℤ)}
    (hnodup : (all.map Prod.fst).Nodup) (hheld : ∀ part ∈ all, part.2 ≤ holding tok s part.1) :
    (all.map Prod.snd).sum ≤ supply := by
  calc (all.map Prod.snd).sum
      ≤ (all.map fun part => holding tok s part.1).sum := List.sum_le_sum hheld
    _ = ((all.map Prod.fst).map (holding tok s)).sum := by rw [List.map_map]; rfl
    _ ≤ supply := h _ hnodup

/-- All votes of a proposal. -/
def Proposal.votes (proposal : Proposal) : ℤ :=
  proposal.forVotes + proposal.againstVotes + proposal.abstainVotes

theorem voted_votes (voteType : VoteType) (power : ℤ) (proposal : Proposal) :
    (proposal.voted voteType power).votes = proposal.votes + power := by
  cases voteType <;> simp only [Proposal.voted, Proposal.votes] <;> ring

/-- The votes of each proposal are the parts that were counted, and within the supply. -/
structure Covered (tok : Token τ) (supply : ℤ) (log : List (State τ × Action τ)) (s : State τ) :
    Prop where
  unlocked : ∀ who, s.veLock.get? who = none
  booked : Booked s
  unvoted : ∀ id, s.proposal.get? id = none → counted tok id log = []
  counted_eq : ∀ id proposal, s.proposal.get? id = some proposal →
    proposal.votes = ((counted tok id log).map Prod.snd).sum
  covered : ∀ id proposal, s.proposal.get? id = some proposal → proposal.votes ≤ supply

/-- A vote without locks weighs the parts it counts. -/
theorem Covered.power (h : Covered tok supply log s) {env : Ledger} {voter : Address} {power : ℤ}
    (hpower : getVotingPower tok env voter s = .ok power) :
    power = ((parts tok voter s).map Prod.snd).sum := by
  obtain ⟨token, veBalance, htoken, hve, rfl⟩ := getVotingPower_ok hpower
  have hnothing : veBalance = 0 := by
    unfold calculateVeBalance at hve
    rw [h.unlocked voter] at hve
    exact (Except.ok.inj hve).symm
  rw [sum_parts, ← h.booked voter, hnothing, add_zero]
  simp only [holding, htoken, getDelegatedPower]

/-- An invocation that counts nothing and writes proposals that are there, with the votes they
have. -/
theorem Covered.later (h : Covered tok supply log s) (heffect : Effect tok self s a s')
    (hlocks : ∀ who, s'.veLock.get? who = none)
    (hcounted : ∀ id, counted tok id ((s, a) :: log) = counted tok id log)
    (hgone : ∀ id, s'.proposal.get? id = none → s.proposal.get? id = none)
    (hvotes : ∀ id proposal, s'.proposal.get? id = some proposal →
      ∃ proposal₀, s.proposal.get? id = some proposal₀ ∧ proposal.votes = proposal₀.votes) :
    Covered tok supply ((s, a) :: log) s' := by
  refine ⟨hlocks, booked_step h.booked heffect, fun id hnone => ?_, fun id p hfound => ?_,
    fun id p hfound => ?_⟩
  · rw [hcounted id]
    exact h.unvoted id (hgone id hnone)
  · obtain ⟨p₀, hfound₀, hsame⟩ := hvotes id p hfound
    rw [hsame, hcounted id]
    exact h.counted_eq id p₀ hfound₀
  · obtain ⟨p₀, hfound₀, hsame⟩ := hvotes id p hfound
    rw [hsame]
    exact h.covered id p₀ hfound₀

/-- A write to one proposal that leaves its votes. -/
theorem votes_set {id₀ : ℕ} {proposal₀ : Proposal} (written : Proposal)
    (hfound₀ : s.proposal.get? id₀ = some proposal₀) (hvotes : written.votes = proposal₀.votes) :
    (∀ id, (s.proposal.set id₀ written).get? id = none → s.proposal.get? id = none) ∧
    ∀ id proposal, (s.proposal.set id₀ written).get? id = some proposal →
      ∃ p₀, s.proposal.get? id = some p₀ ∧ proposal.votes = p₀.votes := by
  constructor
  · intro id hnone
    rw [Store.get?_set] at hnone
    split at hnone
    · cases hnone
    · exact hnone
  · exact Store.forall_set (fun id p hfound => ⟨p, hfound, rfl⟩) ⟨proposal₀, hfound₀, hvotes⟩

theorem covered_step (h : Covered tok supply log s) (hordered : Ordered s)
    (hsupplied : Supplied tok supply s) (hlocks : a.LocksNothing) (honce : a.CountsOnce tok log s)
    (heffect : Effect tok self s a s') : Covered tok supply ((s, a) :: log) s' := by
  have hlater := h.later heffect
  have hbooked := booked_step h.booked heffect
  cases heffect with
  | propose env proposer draft voteStart voteEnd opened =>
    refine ⟨h.unlocked, hbooked, fun id hnone => ?_, Store.forall_set h.counted_eq ?_,
      Store.forall_set h.covered ?_⟩
    · simp only [Store.get?_set] at hnone
      split at hnone
      · cases hnone
      · exact h.unvoted id hnone
    · change _ = ((counted tok (s.proposalCount.getD 0) log).map Prod.snd).sum
      rw [h.unvoted _ hordered.unused]
      rfl
    · exact hsupplied [] List.nodup_nil
  | castVote env voter proposalId voteType proposal power found active new weighed =>
    have hcounted (id : ℕ) : counted tok id
        ((s, Action.call env (.castVote voter proposalId voteType)) :: log) =
        if proposalId = id then parts tok voter s ++ counted tok id log
        else counted tok id log := rfl
    have hvotes : (proposal.voted voteType power).votes =
        ((parts tok voter s ++ counted tok proposalId log).map Prod.snd).sum := by
      rw [voted_votes, h.counted_eq proposalId proposal found, h.power weighed, List.map_append,
        List.sum_append, add_comm]
    refine ⟨h.unlocked, hbooked, fun id hnone => ?_, fun id p hfound => ?_,
      Store.forall_set h.covered ?_⟩
    · simp only [Store.get?_set] at hnone
      split at hnone
      · cases hnone
      · rename_i hid
        rw [hcounted, if_neg (Ne.symm hid)]
        exact h.unvoted id hnone
    · simp only [Store.get?_set] at hfound
      split at hfound
      · rename_i hid
        cases hfound
        rw [hcounted, if_pos hid.symm, hid]
        exact hvotes
      · rename_i hid
        rw [hcounted, if_neg (Ne.symm hid)]
        exact h.counted_eq id p hfound
    · rw [hvotes]
      exact hsupplied.sum_le honce.1 honce.2
  | queue env caller proposalId proposal eta found =>
    obtain ⟨hgone, hvotes⟩ := votes_set { proposal with eta } found rfl
    exact hlater h.unlocked (fun _ => rfl) hgone hvotes
  | execute env caller proposalId proposal tokens found =>
    obtain ⟨hgone, hvotes⟩ := votes_set { proposal with executed := true } found rfl
    exact hlater h.unlocked (fun _ => rfl) hgone hvotes
  | cancel env caller proposalId proposal found =>
    obtain ⟨hgone, hvotes⟩ := votes_set { proposal with canceled := true } found rfl
    exact hlater h.unlocked (fun _ => rfl) hgone hvotes
  | lockTokens => exact absurd hlocks id
  | withdrawTokens env account lock found =>
    rw [h.unlocked account] at found
    cases found
  | _ =>
    exact hlater h.unlocked (fun _ => rfl) (fun _ hnone => hnone) fun _ p hfound => ⟨p, hfound, rfl⟩

/-- With a constant supply and no locks: in every run in which each vote counts accounts that were
not counted for the proposal before, while those that were still hold what was counted of them, no
proposal has more votes than there are tokens. -/
theorem votes_covered {start : τ} {id : ℕ} {proposal : Proposal}
    (hrun : History (next tok self)
      (fun log s a => Supplied tok supply s ∧ a.LocksNothing ∧ a.CountsOnce tok log s)
      (deployed start) log s)
    (hfound : s.proposal.get? id = some proposal) :
    proposal.forVotes + proposal.againstVotes + proposal.abstainVotes ≤ supply := by
  have hcovered := (run_preserves (P := Covered tok supply) hrun ?_ ?_).2
  · exact hcovered.covered id proposal hfound
  · exact ⟨fun _ => rfl, fun _ => rfl, fun _ _ => rfl, fun _ _ hnone => (by cases hnone),
      fun _ _ hnone => (by cases hnone)⟩
  · rintro log s a s' hordered ⟨hsupplied, hlocks, honce⟩ heffect h
    exact covered_step h hordered hsupplied hlocks honce heffect

section Runs

open Sample

/-- Issued tokens are not more than were issued. -/
theorem supplied_asset {s : State Balances} (hsupply : 0 ≤ supply)
    (h : ∀ token ∈ s.votingToken, s.tokens.supply token ≤ supply) : Supplied asset supply s := by
  intro accounts hnodup
  unfold holding
  cases htoken : s.votingToken with
  | none => simpa using hsupply
  | some token => exact (Balances.sum_le_supply s.tokens token hnodup).trans (h token htoken)

/-- Bob delegates to Carol, who votes for him, and Alice votes for herself. -/
def representing : List (ℕ × Op) := [
  (0, opening),
  (1, .propose alice draft),
  (2, .delegate bob carol 40),
  (3, .castVote carol 0 .for),
  (4, .castVote alice 0 .against)]

theorem votes_covered_representing :
    ∃ log s, History (next asset contract)
        (fun log s a => Supplied asset 100 s ∧ a.LocksNothing ∧ a.CountsOnce asset log s) start log s ∧
      ∃ proposal, s.proposal.get? 0 = some proposal ∧ proposal.forVotes = 40 ∧
        proposal.againstVotes = 60 ∧
        proposal.forVotes + proposal.againstVotes + proposal.abstainVotes ≤ 100 := by
  have h : After (fun h => ∃ p ∈ h.2.proposal.get? 0, p.forVotes = 40 ∧ p.againstVotes = 60)
      (record (next asset contract) (fun log s a =>
        (∀ token ∈ s.votingToken, s.tokens.supply token ≤ 100) ∧ a.LocksNothing ∧
          a.CountsOnce asset log s) (calls representing) ([], start)) := by
    decide +kernel
  obtain ⟨⟨log, s⟩, hrec, p, hfound, hfor, hagainst⟩ := h.exists_ok
  have hrun : History (next asset contract)
      (fun log s a => Supplied asset 100 s ∧ a.LocksNothing ∧ a.CountsOnce asset log s) start
      log s :=
    record_history _ (fun _ _ _ _ hok => ⟨supplied_asset (by decide) hok.1, hok.2⟩) .nil hrec
  exact ⟨log, s, hrun, p, hfound, hfor, hagainst, votes_covered hrun hfound⟩

/-- Alice votes, hands her tokens to Carol, and Carol votes with them. -/
def twice : List (Action Balances) := calls [
  (0, opening),
  (1, .propose alice draft),
  (2, .castVote alice 0 .for)] ++
  [.transfers (Balances.issue [(vote, carol, 60), (vote, bob, 40)])] ++
  calls [(3, .castVote carol 0 .for)]

theorem votes_exceed_supply :
    ¬ ∀ (log : List (State Balances × Action Balances)) (s : State Balances) (id : ℕ)
        (proposal : Proposal),
      History (next asset contract) (fun _ s a => Supplied asset 100 s ∧ a.LocksNothing) start log s →
      s.proposal.get? id = some proposal →
      proposal.forVotes + proposal.againstVotes + proposal.abstainVotes ≤ 100 := by
  have h : After (fun h => ∃ p ∈ h.2.proposal.get? 0,
        p.forVotes + p.againstVotes + p.abstainVotes = 120)
      (record (next asset contract) (fun _ s a =>
        (∀ token ∈ s.votingToken, s.tokens.supply token ≤ 100) ∧ a.LocksNothing) twice
        ([], start)) := by
    decide +kernel
  obtain ⟨⟨log, s⟩, hrec, p, hfound, hvotes⟩ := h.exists_ok
  have hrun : History (next asset contract) (fun _ s a => Supplied asset 100 s ∧ a.LocksNothing)
      start log s :=
    record_history _ (fun _ _ _ _ hok => ⟨supplied_asset (by decide) hok.1, hok.2⟩) .nil hrec
  intro hall
  have hle := hall log s 0 p hrun hfound
  rw [hvotes] at hle
  exact absurd hle (by decide)

end Runs

end Governance
