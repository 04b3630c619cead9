import StellAIverse.Governance.Delegation

/-!
# Votes and executions

The state of a proposal is computed anew at every call. What a call may still do
to a proposal therefore follows from the clock, the tallies and the two flags, and
from the parameters then in force.
-/

namespace Governance

open Soroban

variable {τ : Type} {tok : Token τ} {self : Address} {s s' : State τ} {a : Action τ}
  {log : List (State τ × Action τ)} {env : Ledger} {proposal : Proposal}

/-- The voting window is over. -/
structure Closed (env : Ledger) (proposal : Proposal) : Prop where
  kept : proposal.canceled = false
  started : proposal.voteStart ≤ env.sequence
  ended : proposal.voteEnd < env.sequence

/-- The states of a proposal, with what each of them means. -/
inductive Status (env : Ledger) (proposal : Proposal) (s : State τ) : ProposalState → Prop
  | canceled (dropped : proposal.canceled = true) : Status env proposal s .canceled
  | pending (kept : proposal.canceled = false) (early : env.sequence < proposal.voteStart) :
      Status env proposal s .pending
  | active (kept : proposal.canceled = false) (started : proposal.voteStart ≤ env.sequence)
      (running : env.sequence ≤ proposal.voteEnd) : Status env proposal s .active
  | defeated (closed : Closed env proposal) (failed : passes proposal s = .ok false) :
      Status env proposal s .defeated
  | executed (closed : Closed env proposal) (passed : passes proposal s = .ok true)
      (done : proposal.executed = true) : Status env proposal s .executed
  | succeeded (closed : Closed env proposal) (passed : passes proposal s = .ok true)
      (undone : proposal.executed = false) (unqueued : proposal.eta = 0) :
      Status env proposal s .succeeded
  | expired (closed : Closed env proposal) (passed : passes proposal s = .ok true)
      (undone : proposal.executed = false) (queued : proposal.eta ≠ 0)
      (bounded : proposal.eta + gracePeriod < 2 ^ 64)
      (late : proposal.eta + gracePeriod < env.timestamp) : Status env proposal s .expired
  | queued (closed : Closed env proposal) (passed : passes proposal s = .ok true)
      (undone : proposal.executed = false) (queued : proposal.eta ≠ 0)
      (bounded : proposal.eta + gracePeriod < 2 ^ 64)
      (in_time : env.timestamp ≤ proposal.eta + gracePeriod) : Status env proposal s .queued

theorem Status.of_state {r : ProposalState} (h : state env proposal s = .ok r) :
    Status env proposal s r := by
  unfold state at h
  split at h
  · cases h
    exact .canceled ‹_›
  rename_i hkept
  have hkept : proposal.canceled = false := by simpa using hkept
  split at h
  · cases h
    exact .pending hkept ‹_›
  rename_i hstarted
  split at h
  · cases h
    exact .active hkept (not_lt.mp hstarted) ‹_›
  rename_i hended
  have hclosed : Closed env proposal := ⟨hkept, not_lt.mp hstarted, not_le.mp hended⟩
  obtain ⟨passed, hpasses, h⟩ := bind_ok.mp h
  cases passed with
  | false =>
    cases h
    exact .defeated hclosed hpasses
  | true =>
    rw [if_neg (by simp)] at h
    split at h
    · cases h
      exact .executed hclosed hpasses ‹_›
    rename_i hundone
    have hundone : proposal.executed = false := by simpa using hundone
    split at h
    · cases h
      exact .succeeded hclosed hpasses hundone ‹_›
    rename_i hqueued
    obtain ⟨hbounded, h⟩ := U64.add_bind.mp h
    split at h
    · rename_i hlate
      cases h
      exact .expired hclosed hpasses hundone hqueued hbounded hlate.1
    · rename_i hin
      cases h
      exact .queued hclosed hpasses hundone hqueued hbounded
        (not_lt.mp fun hlate => hin ⟨hlate, hundone⟩)

theorem Status.state {r : ProposalState} (h : Status env proposal s r) :
    state env proposal s = .ok r := by
  have hopen (hclosed : Closed env proposal) : Governance.state env proposal s = (do
      let passed ← passes proposal s
      if passed = false then .ok .defeated
      else if proposal.executed = true then .ok .executed
      else if proposal.eta = 0 then .ok .succeeded
      else do
        let last ← U64.add proposal.eta gracePeriod
        if env.timestamp > last ∧ proposal.executed = false then .ok .expired
        else .ok .queued) := by
    unfold Governance.state
    rw [if_neg (by simp [hclosed.kept]), if_neg (not_lt.mpr hclosed.started),
      if_neg (not_le.mpr hclosed.ended)]
  cases h with
  | canceled dropped => exact if_pos dropped
  | pending kept early =>
    unfold Governance.state
    rw [if_neg (by simp [kept]), if_pos early]
  | active kept started running =>
    unfold Governance.state
    rw [if_neg (by simp [kept]), if_neg (not_lt.mpr started), if_pos running]
  | defeated closed failed => simp [hopen closed, failed]
  | executed closed passed done => simp [hopen closed, passed, done]
  | succeeded closed passed undone unqueued => simp [hopen closed, passed, undone, unqueued]
  | expired closed passed undone queued bounded late =>
    rw [hopen closed, passed, ok_bind, if_neg (by simp), if_neg (by simp [undone]), if_neg queued,
      U64.add_of_lt bounded, ok_bind, if_pos ⟨late, undone⟩]
  | queued closed passed undone queued bounded in_time =>
    rw [hopen closed, passed, ok_bind, if_neg (by simp), if_neg (by simp [undone]), if_neg queued,
      U64.add_of_lt bounded, ok_bind, if_neg fun hlate => not_lt.mpr in_time hlate.1]

/-- The window of a proposal is fixed, and what is canceled or executed stays so. -/
structure Later (proposal proposal' : Proposal) : Prop where
  voteStart : proposal'.voteStart = proposal.voteStart
  voteEnd : proposal'.voteEnd = proposal.voteEnd
  canceled : proposal.canceled = true → proposal'.canceled = true
  executed : proposal.executed = true → proposal'.executed = true

theorem Later.refl (proposal : Proposal) : Later proposal proposal := ⟨rfl, rfl, id, id⟩

theorem Later.trans {p p' p'' : Proposal} (h : Later p p') (h' : Later p' p'') : Later p p'' where
  voteStart := h'.voteStart.trans h.voteStart
  voteEnd := h'.voteEnd.trans h.voteEnd
  canceled hcanceled := h'.canceled (h.canceled hcanceled)
  executed hexecuted := h'.executed (h.executed hexecuted)

/-- A write under one number leaves each proposal where it was. -/
theorem later_set {id id₀ : ℕ} {proposal₀ written : Proposal}
    (hfound₀ : s.proposal.get? id₀ = some proposal₀) (hlater : Later proposal₀ written)
    (hfound : s.proposal.get? id = some proposal) :
    ∃ proposal', (s.proposal.set id₀ written).get? id = some proposal' ∧
      Later proposal proposal' := by
  rw [Store.get?_set]
  by_cases hid : id = id₀
  · subst hid
    obtain rfl : proposal = proposal₀ := Option.some.inj (hfound.symm.trans hfound₀)
    exact ⟨written, if_pos rfl, hlater⟩
  · exact ⟨proposal, by rw [if_neg hid]; exact hfound, .refl proposal⟩

theorem later_step (hordered : Ordered s) (heffect : Effect tok self s a s') {id : ℕ}
    (hfound : s.proposal.get? id = some proposal) :
    ∃ proposal', s'.proposal.get? id = some proposal' ∧ Later proposal proposal' := by
  cases heffect with
  | propose env proposer draft voteStart voteEnd opened =>
    have hlt := hordered.numbered id proposal hfound
    refine ⟨proposal, ?_, .refl proposal⟩
    simp only [Store.get?_set, hlt.ne, if_false]
    exact hfound
  | castVote env voter proposalId voteType proposal₀ power found =>
    refine later_set found ⟨?_, ?_, ?_, ?_⟩ hfound <;> simp
  | queue env caller proposalId proposal₀ eta found =>
    exact later_set found ⟨rfl, rfl, fun h => h, fun h => h⟩ hfound
  | execute env caller proposalId proposal₀ tokens found =>
    exact later_set found ⟨rfl, rfl, fun h => h, fun _ => rfl⟩ hfound
  | cancel env caller proposalId proposal₀ found =>
    exact later_set found ⟨rfl, rfl, fun _ => rfl, fun h => h⟩ hfound
  | _ => exact ⟨proposal, hfound, .refl proposal⟩

/-- The weights of the stored votes of a kind. -/
def votesOf (id : ℕ) (kind : VoteType) (s : State τ) : ℤ :=
  s.vote.total fun key vote => if key.1 = id ∧ vote.voteType = kind then vote.weight else 0

/-- The tallies are the votes that are stored. -/
def Tallied (s : State τ) : Prop :=
  ∀ id proposal, s.proposal.get? id = some proposal →
    ∀ kind, proposal.tally kind = votesOf id kind s

/-- The tallies do not depend on the rest of a proposal. -/
theorem Tallied.update (h : Tallied s) {id₀ : ℕ} {proposal₀ written : Proposal}
    (hfound₀ : s.proposal.get? id₀ = some proposal₀)
    (hsame : ∀ kind, written.tally kind = proposal₀.tally kind) :
    ∀ id proposal, (s.proposal.set id₀ written).get? id = some proposal →
      ∀ kind, proposal.tally kind = votesOf id kind s :=
  Store.forall_set h fun kind => (hsame kind).trans (h id₀ proposal₀ hfound₀ kind)

theorem votesOf_cast {id : ℕ} {voter : Address} {vote : ProposalVote}
    (hnew : s.vote.get? (id, voter) = none)
    (hset : s'.vote = s.vote.set (id, voter) vote) (id' : ℕ) (kind : VoteType) :
    votesOf id' kind s' =
      votesOf id' kind s + if id = id' ∧ vote.voteType = kind then vote.weight else 0 := by
  unfold votesOf
  rw [hset, Store.total_set, Store.weight_none hnew, sub_zero]

theorem tallied_step (h : Tallied s) (hordered : Ordered s) (heffect : Effect tok self s a s') :
    Tallied s' := by
  cases heffect with
  | propose env proposer draft voteStart voteEnd opened =>
    refine Store.forall_set h fun kind => ?_
    have hnone : votesOf (s.proposalCount.getD 0) kind s = 0 := by
      refine Store.total_eq_zero fun key vote hfound => if_neg ?_
      rintro ⟨hid, -⟩
      exact absurd hid (hordered.ballots key vote hfound).ne
    refine Eq.trans ?_ hnone.symm
    cases kind <;> rfl
  | castVote env voter proposalId voteType proposal power found active new =>
    intro id proposal' hfound kind
    rw [votesOf_cast new rfl]
    rw [Store.get?_set] at hfound
    by_cases hid : id = proposalId
    · subst hid
      rw [if_pos rfl] at hfound
      cases hfound
      rw [voted_tally, h id proposal found kind]
      simp
    · rw [if_neg hid] at hfound
      rw [h id proposal' hfound kind, if_neg fun hboth => hid hboth.1.symm, add_zero]
  | queue env caller proposalId proposal eta found =>
    exact h.update found fun kind => by cases kind <;> rfl
  | execute env caller proposalId proposal tokens found =>
    exact h.update found fun kind => by cases kind <;> rfl
  | cancel env caller proposalId proposal found =>
    exact h.update found fun kind => by cases kind <;> rfl
  | _ => exact h

/-- Who voted on what in an invocation. -/
def ballot (e : State τ × Action τ) : Option (ℕ × Address) :=
  match e.2 with
  | .call _ (.castVote voter proposalId _) => some (proposalId, voter)
  | _ => none

/-- Which proposal an invocation executed. -/
def execution (e : State τ × Action τ) : Option ℕ :=
  match e.2 with
  | .call _ (.execute _ proposalId) => some proposalId
  | _ => none

def Queues (id : ℕ) (e : State τ × Action τ) : Prop :=
  ∃ env caller, e.2 = .call env (.queue caller id)

def Cancels (id : ℕ) (e : State τ × Action τ) : Prop :=
  ∃ env caller, e.2 = .call env (.cancel caller id)

/-- Nobody voted twice, and every vote is stored. -/
structure Polled (log : List (State τ × Action τ)) (s : State τ) : Prop where
  once : (log.filterMap ballot).Nodup
  stored : ∀ key ∈ log.filterMap ballot, (s.vote.get? key).isSome = true

theorem polled_step (h : Polled log s) (heffect : Effect tok self s a s') :
    Polled ((s, a) :: log) s' := by
  cases heffect with
  | castVote env voter proposalId voteType proposal power found active new =>
    have hballots : ((s, Action.call env (.castVote voter proposalId voteType)) :: log).filterMap
        ballot = (proposalId, voter) :: log.filterMap ballot := rfl
    constructor
    · rw [hballots]
      refine List.nodup_cons.mpr ⟨fun hmem => ?_, h.once⟩
      have hstored := h.stored _ hmem
      rw [new] at hstored
      cases hstored
    · intro key hkey
      rw [hballots] at hkey
      simp only [Store.get?_set]
      split
      · rfl
      · rename_i hne
        rcases List.mem_cons.mp hkey with hkey | hkey
        · exact absurd hkey hne
        · exact h.stored key hkey
  | _ => exact ⟨h.once, h.stored⟩

/-- Nothing was executed twice. What has an eta was queued, and what was canceled says so. -/
structure Recorded (log : List (State τ × Action τ)) (s : State τ) : Prop where
  once : (log.filterMap execution).Nodup
  done : ∀ id ∈ log.filterMap execution,
    ∃ proposal, s.proposal.get? id = some proposal ∧ proposal.executed = true
  queued : ∀ id proposal, s.proposal.get? id = some proposal → proposal.eta ≠ 0 →
    ∃ e ∈ log, Queues id e
  dropped : ∀ id, (∃ e ∈ log, Cancels id e) →
    ∃ proposal, s.proposal.get? id = some proposal ∧ proposal.canceled = true

theorem recorded_step (h : Recorded log s) (hordered : Ordered s)
    (heffect : Effect tok self s a s') : Recorded ((s, a) :: log) s' := by
  -- What was executed, queued or canceled before is so later.
  have hdone : ∀ id ∈ log.filterMap execution,
      ∃ p, s'.proposal.get? id = some p ∧ p.executed = true := by
    intro id hid
    obtain ⟨p, hfound, hexecuted⟩ := h.done id hid
    obtain ⟨p', hfound', hlater⟩ := later_step hordered heffect hfound
    exact ⟨p', hfound', hlater.executed hexecuted⟩
  have hqueued : ∀ id p, s.proposal.get? id = some p → p.eta ≠ 0 →
      ∃ e ∈ (s, a) :: log, Queues id e := by
    intro id p hfound hset
    obtain ⟨e, he, hqueues⟩ := h.queued id p hfound hset
    exact ⟨e, List.mem_cons_of_mem _ he, hqueues⟩
  have hdropped : ∀ id, (¬ Cancels id (s, a)) → (∃ e ∈ (s, a) :: log, Cancels id e) →
      ∃ p, s'.proposal.get? id = some p ∧ p.canceled = true := by
    rintro id hnow ⟨e, he, hcancels⟩
    rcases List.mem_cons.mp he with rfl | he
    · exact absurd hcancels hnow
    · obtain ⟨p, hfound, hcanceled⟩ := h.dropped id ⟨e, he, hcancels⟩
      obtain ⟨p', hfound', hlater⟩ := later_step hordered heffect hfound
      exact ⟨p', hfound', hlater.canceled hcanceled⟩
  cases heffect with
  | propose env proposer draft voteStart voteEnd opened =>
    refine ⟨h.once, hdone, Store.forall_set hqueued fun hset => absurd rfl hset, ?_⟩
    exact fun id => hdropped id (by rintro ⟨env', caller', ⟨⟩⟩)
  | castVote env voter proposalId voteType proposal power found =>
    refine ⟨h.once, hdone, Store.forall_set hqueued fun hset => ?_, ?_⟩
    · exact hqueued proposalId proposal found (voted_eta voteType power proposal ▸ hset)
    · exact fun id => hdropped id (by rintro ⟨env', caller', ⟨⟩⟩)
  | queue env caller proposalId proposal eta found =>
    refine ⟨h.once, hdone, Store.forall_set hqueued fun _ => ?_, ?_⟩
    · exact ⟨_, List.mem_cons_self, env, caller, rfl⟩
    · exact fun id => hdropped id (by rintro ⟨env', caller', ⟨⟩⟩)
  | execute env caller proposalId proposal tokens found queued =>
    have hundone : proposal.executed = false := by
      cases Status.of_state queued
      assumption
    have hnew : proposalId ∉ log.filterMap execution := by
      intro hmem
      obtain ⟨p, hfound, hexecuted⟩ := h.done proposalId hmem
      obtain rfl : p = proposal := Option.some.inj (hfound.symm.trans found)
      rw [hundone] at hexecuted
      cases hexecuted
    refine ⟨List.nodup_cons.mpr ⟨hnew, h.once⟩, fun id hid => ?_, ?_, ?_⟩
    · rcases List.mem_cons.mp hid with rfl | hid
      · exact ⟨_, Store.get?_set_self _ _ _, rfl⟩
      · exact hdone id hid
    · exact Store.forall_set hqueued (hqueued proposalId proposal found)
    · exact fun id => hdropped id (by rintro ⟨env', caller', ⟨⟩⟩)
  | cancel env caller proposalId proposal found =>
    refine ⟨h.once, hdone, Store.forall_set hqueued (hqueued proposalId proposal found), ?_⟩
    intro id hcancels
    by_cases hid : id = proposalId
    · subst hid
      exact ⟨_, Store.get?_set_self _ _ _, rfl⟩
    · refine hdropped id ?_ hcancels
      rintro ⟨env', caller', heq⟩
      cases heq
      exact hid rfl
  | _ =>
    refine ⟨h.once, hdone, hqueued, ?_⟩
    exact fun id => hdropped id (by rintro ⟨env', caller', ⟨⟩⟩)

/-- Invocations come on time by both clocks. -/
def InOrder (log : List (State τ × Action τ)) (a : Action τ) : Prop :=
  OnTime Action.sequence log a ∧ OnTime Action.time log a

instance (log : List (State τ × Action τ)) (a : Action τ) : Decidable (InOrder log a) :=
  inferInstanceAs (Decidable (_ ∧ _))

/-- A vote counts for a proposal whose window is open. -/
theorem tally_step (hordered : Ordered s) (heffect : Effect tok self s a s') {id : ℕ}
    (hfound : s.proposal.get? id = some proposal)
    (hended : ∀ n, a.sequence = some n → proposal.voteEnd < n) :
    ∃ proposal', s'.proposal.get? id = some proposal' ∧ Later proposal proposal' ∧
      ∀ kind, proposal'.tally kind = proposal.tally kind := by
  obtain ⟨proposal', hfound', hlater⟩ := later_step hordered heffect hfound
  refine ⟨proposal', hfound', hlater, ?_⟩
  have hsame {id₀ : ℕ} {proposal₀ written : Proposal}
      (hfound₀ : s.proposal.get? id₀ = some proposal₀)
      (hset : (s.proposal.set id₀ written).get? id = some proposal')
      (htally : id = id₀ → ∀ kind, written.tally kind = proposal₀.tally kind) (kind : VoteType) :
      proposal'.tally kind = proposal.tally kind := by
    rw [Store.get?_set] at hset
    by_cases hid : id = id₀
    · rw [if_pos hid] at hset
      cases hset
      subst hid
      obtain rfl : proposal = proposal₀ := Option.some.inj (hfound.symm.trans hfound₀)
      exact htally rfl kind
    · rw [if_neg hid] at hset
      rw [Option.some.inj (hfound.symm.trans hset)]
  cases heffect with
  | propose env proposer draft voteStart voteEnd opened =>
    have hlt := hordered.numbered id proposal hfound
    simp only [Store.get?_set, hlt.ne, if_false] at hfound'
    rw [Option.some.inj (hfound.symm.trans hfound')]
    exact fun _ => rfl
  | castVote env voter proposalId voteType proposal₀ power found active =>
    refine hsame found hfound' ?_
    rintro rfl
    obtain rfl : proposal = proposal₀ := Option.some.inj (hfound.symm.trans found)
    have hlate := hended env.sequence rfl
    cases Status.of_state active with
    | active kept started running => omega
  | queue env caller proposalId proposal₀ eta found =>
    exact hsame found hfound' fun _ kind => by cases kind <;> rfl
  | execute env caller proposalId proposal₀ tokens found =>
    exact hsame found hfound' fun _ kind => by cases kind <;> rfl
  | cancel env caller proposalId proposal₀ found =>
    exact hsame found hfound' fun _ kind => by cases kind <;> rfl
  | _ =>
    rw [Option.some.inj (hfound.symm.trans hfound')]
    exact fun _ => rfl

/-- Since a call after the end of a window, the tallies are what they were. -/
def Frozen (log : List (State τ × Action τ)) (s : State τ) : Prop :=
  ∀ e ∈ log, ∀ n, e.2.sequence = some n → ∀ id proposal, e.1.proposal.get? id = some proposal →
    proposal.voteEnd < n → ∃ proposal', s.proposal.get? id = some proposal' ∧
      Later proposal proposal' ∧ ∀ kind, proposal'.tally kind = proposal.tally kind

theorem frozen_step (h : Frozen log s) (hordered : Ordered s) (hontime : OnTime Action.sequence log a)
    (hclock : Timed Action.sequence log) (heffect : Effect tok self s a s') : Frozen ((s, a) :: log) s' := by
  intro e he n hn id proposal hfound hended
  rcases List.mem_cons.mp he with rfl | he
  · refine tally_step hordered heffect hfound fun m hm => ?_
    obtain rfl : n = m := Option.some.inj (hn.symm.trans hm)
    exact hended
  · obtain ⟨p, hp, hlater, htally⟩ := h e he n hn id proposal hfound hended
    have hpast := hclock e he n hn
    obtain ⟨p', hp', hlater', htally'⟩ := tally_step hordered heffect hp fun m hm => by
      have hnow := hontime m hm
      have hsame := hlater.voteEnd
      omega
    exact ⟨p', hp', hlater.trans hlater', fun kind => (htally' kind).trans (htally kind)⟩

theorem passes_true (h : passes proposal s = .ok true) :
    quorumReached proposal s = .ok true ∧ thresholdReached proposal s = .ok true := by
  unfold passes at h
  obtain ⟨quorum, hquorum, h⟩ := bind_ok.mp h
  split at h
  · rename_i hreached
    exact ⟨hreached ▸ hquorum, h⟩
  · cases h

/-- What a run with two clocks has. -/
structure Audited (log : List (State τ × Action τ)) (s : State τ) : Prop where
  tallied : Tallied s
  polled : Polled log s
  recorded : Recorded log s
  timed : Timed Action.sequence log
  frozen : Frozen log s

theorem audited_deployed (tokens : τ) : Audited [] (deployed tokens) where
  tallied _ _ hfound := by cases hfound
  polled := ⟨List.nodup_nil, fun _ hkey => (by cases hkey)⟩
  recorded := ⟨List.nodup_nil, fun _ hid => (by cases hid), fun _ _ hfound => (by cases hfound),
    fun _ ⟨_, he, _⟩ => (by cases he)⟩
  timed _ he := by cases he
  frozen _ he := by cases he

theorem history_audited {start : τ}
    (hrun : History (next tok self) (fun log _ a => InOrder log a) (deployed start) log s) :
    Audited log s := by
  refine (run_preserves hrun (audited_deployed start) ?_).2
  intro log s a s' hordered hclocks heffect h
  exact ⟨tallied_step h.tallied hordered heffect, polled_step h.polled heffect,
    recorded_step h.recorded hordered heffect, h.timed.cons hclocks.1 s,
    frozen_step h.frozen hordered hclocks.1 h.timed heffect⟩

/-- In every run with clocks that do not go back, each proposal is executed at most once, after its
voting window, queued before and never canceled, with quorum and threshold met under the parameters
of that moment and between its eta and the end of the grace period. The tallies are the sums of the
stored votes, one for each address, and stay as they are when the window is over. -/
theorem execution_safe {start : τ}
    (hrun : History (next tok self) (fun log _ a => InOrder log a) (deployed start) log s) :
    (log.filterMap execution).Nodup ∧
    (∀ env caller id s', next tok self (.call env (.execute caller id)) s = .ok s' →
      ∃ proposal, s.proposal.get? id = some proposal ∧ proposal.voteEnd < env.sequence ∧
        (∃ e ∈ log, Queues id e) ∧ (∀ e ∈ log, ¬ Cancels id e) ∧
        quorumReached proposal s = .ok true ∧ thresholdReached proposal s = .ok true ∧
        proposal.eta ≤ env.timestamp ∧ env.timestamp ≤ proposal.eta + gracePeriod) ∧
    (∀ id proposal, s.proposal.get? id = some proposal →
      proposal.forVotes = votesOf id .for s ∧ proposal.againstVotes = votesOf id .against s ∧
      proposal.abstainVotes = votesOf id .abstain s) ∧
    (log.filterMap ballot).Nodup ∧
    ∀ e ∈ log, ∀ n, e.2.sequence = some n → ∀ id proposal,
      e.1.proposal.get? id = some proposal → proposal.voteEnd < n →
      ∃ proposal', s.proposal.get? id = some proposal' ∧ proposal'.forVotes = proposal.forVotes ∧
        proposal'.againstVotes = proposal.againstVotes ∧
        proposal'.abstainVotes = proposal.abstainVotes := by
  have haudited := history_audited hrun
  refine ⟨haudited.recorded.once, ?_, ?_, haudited.polled.once, ?_⟩
  · intro env caller id s' hexecute
    cases next_effect hexecute with
    | execute _ _ _ proposal tokens found queued due =>
      cases Status.of_state queued with
      | queued closed passed undone hqueued bounded in_time =>
        obtain ⟨hquorum, hthreshold⟩ := passes_true passed
        refine ⟨proposal, found, closed.ended, haudited.recorded.queued id proposal found hqueued,
          ?_, hquorum, hthreshold, due, in_time⟩
        intro e he hcancels
        obtain ⟨p, hfound, hcanceled⟩ := haudited.recorded.dropped id ⟨e, he, hcancels⟩
        obtain rfl : p = proposal := Option.some.inj (hfound.symm.trans found)
        rw [closed.kept] at hcanceled
        cases hcanceled
  · intro id proposal hfound
    have htally := haudited.tallied id proposal hfound
    exact ⟨htally .for, htally .against, htally .abstain⟩
  · intro e he n hn id proposal hfound hended
    obtain ⟨proposal', hfound', -, htally⟩ := haudited.frozen e he n hn id proposal hfound hended
    exact ⟨proposal', hfound', htally .for, htally .against, htally .abstain⟩

section Runs

open Sample

/-- A proposal to pay Carol is voted on, queued and executed. -/
def passing : List (ℕ × Op) := [
  (0, opening),
  (1, .propose alice { draft with actions := [.transfer vote carol 0] }),
  (2, .castVote alice 0 .for),
  (3, .castVote bob 0 .against),
  (13, .queue carol 0)]

theorem execution_safe_passing :
    ∃ log s s', History (next asset contract) (fun log _ a => InOrder log a) start log s ∧
      next asset contract (.call (ledger 113) (.execute carol 0)) s = .ok s' ∧
      (log.filterMap ballot).Nodup ∧ ∃ proposal, s.proposal.get? 0 = some proposal ∧
        proposal.forVotes = 60 ∧ votesOf 0 .for s = 60 ∧ quorumReached proposal s = .ok true := by
  have h : After (fun h => (∃ p ∈ h.2.proposal.get? 0, p.forVotes = 60) ∧
        After (fun _ => True) (next asset contract (.call (ledger 113) (.execute carol 0)) h.2))
      (record (next asset contract) (fun log _ a => InOrder log a) (calls passing)
        ([], start)) := by
    decide +kernel
  obtain ⟨⟨log, s⟩, hrec, ⟨p, hfound, hfor⟩, hexecute⟩ := h.exists_ok
  obtain ⟨s', hexecute, -⟩ := hexecute.exists_ok
  have hrun : History (next asset contract) (fun log _ a => InOrder log a) start log s :=
    record_run hrec
  obtain ⟨-, hsafe, htallies, hballots, -⟩ := execution_safe hrun
  obtain ⟨p', hfound', -, -, -, hquorum, -⟩ := hsafe _ carol 0 s' hexecute
  obtain rfl : p = p' := Option.some.inj (hfound.symm.trans hfound')
  exact ⟨log, s, s', hrun, hexecute, hballots, p, hfound, hfor,
    (htallies 0 p hfound).1.symm.trans hfor, hquorum⟩

end Runs

end Governance
