import StellAIverse.Governance.Execution

/-!
# Decided proposals

Quorum and threshold are checked anew with the parameters in force, before it is
looked at whether the proposal was executed. So new parameters can bring back what
was defeated or defeat what was executed, and a proposal can be canceled after it
was defeated or has expired. As long as neither happens, a decision stands.
-/

namespace Governance

open Soroban

variable {τ : Type} {tok : Token τ} {self : Address} {s s' : State τ} {a : Action τ}
  {log : List (State τ × Action τ)} {env env' : Ledger} {proposal : Proposal} {r : ProposalState}

/-- Nothing is expected to happen to the proposal any more. -/
def ProposalState.Decided (r : ProposalState) : Prop :=
  r = .executed ∨ r = .defeated ∨ r = .expired ∨ r = .canceled

/-- What is decided stays decided as time passes. -/
theorem Status.later (h : Status env proposal s r) (hdecided : r.Decided)
    (hsequence : env.sequence ≤ env'.sequence) (htime : env.timestamp ≤ env'.timestamp) :
    Status env' proposal s r := by
  have hclosed (h : Closed env proposal) : Closed env' proposal :=
    ⟨h.kept, h.started.trans hsequence, h.ended.trans_le hsequence⟩
  cases h with
  | canceled dropped => exact .canceled dropped
  | defeated closed failed => exact .defeated (hclosed closed) failed
  | executed closed passed done => exact .executed (hclosed closed) passed done
  | expired closed passed undone queued bounded late =>
    exact .expired (hclosed closed) passed undone queued bounded (late.trans_le htime)
  | pending => simp [ProposalState.Decided] at hdecided
  | active => simp [ProposalState.Decided] at hdecided
  | succeeded => simp [ProposalState.Decided] at hdecided
  | queued => simp [ProposalState.Decided] at hdecided

/-- The parameters matter for whether the proposal passes. -/
theorem Status.congr (h : Status env proposal s r) (hsame : passes proposal s' = passes proposal s) :
    Status env proposal s' r := by
  cases h with
  | canceled dropped => exact .canceled dropped
  | pending kept early => exact .pending kept early
  | active kept started running => exact .active kept started running
  | defeated closed failed => exact .defeated closed (hsame.trans failed)
  | executed closed passed done => exact .executed closed (hsame.trans passed) done
  | succeeded closed passed undone unqueued =>
    exact .succeeded closed (hsame.trans passed) undone unqueued
  | expired closed passed undone queued bounded late =>
    exact .expired closed (hsame.trans passed) undone queued bounded late
  | queued closed passed undone queued bounded in_time =>
    exact .queued closed (hsame.trans passed) undone queued bounded in_time

theorem Status.unique {r' : ProposalState} (h : Status env proposal s r)
    (h' : Governance.state env proposal s = .ok r') : r = r' :=
  Except.ok.inj (h.state.symm.trans h')

/-- New parameters leave it as it is whether a proposal passes that is executed, defeated or
expired, and no proposal is canceled that is defeated or expired. -/
def Action.KeepsDecisions (s : State τ) : Action τ → Prop
  | .call env (.setVotingParams _ changes) =>
    ∀ id < s.proposalCount.getD 0, ∀ proposal ∈ s.proposal.get? id,
      (state env proposal s).toOption ∈ [some .executed, some .defeated, some .expired] →
      passes proposal (s.changed changes) = passes proposal s
  | .call env (.cancel _ id) =>
    (getProposalState env id s).toOption ∉ [some .defeated, some .expired]
  | _ => True

instance (s : State τ) : DecidablePred (Action.KeepsDecisions s)
  | .call env (.setVotingParams _ changes) =>
    inferInstanceAs (Decidable (∀ id < s.proposalCount.getD 0, ∀ proposal ∈ s.proposal.get? id,
      (state env proposal s).toOption ∈ [some .executed, some .defeated, some .expired] →
      passes proposal (s.changed changes) = passes proposal s))
  | .call env (.cancel _ id) =>
    inferInstanceAs (Decidable
      ((getProposalState env id s).toOption ∉ [some .defeated, some .expired]))
  | .call _ (.initializeContract _ _ _) => .isTrue trivial
  | .call _ (.propose _ _) => .isTrue trivial
  | .call _ (.castVote _ _ _) => .isTrue trivial
  | .call _ (.queue _ _) => .isTrue trivial
  | .call _ (.execute _ _) => .isTrue trivial
  | .call _ (.delegate _ _ _) => .isTrue trivial
  | .call _ (.revokeDelegation _) => .isTrue trivial
  | .call _ (.lockTokens _ _ _) => .isTrue trivial
  | .call _ (.withdrawTokens _) => .isTrue trivial
  | .call _ (.getProposalState _) => .isTrue trivial
  | .transfers _ => .isTrue trivial

/-- A call that only concerns proposals that are not decided. -/
theorem decided_set {id id₀ : ℕ} {proposal₀ written : Proposal} {r₀ : ProposalState}
    (h : Status env proposal s r) (hdecided : r.Decided)
    (hfound : s.proposal.get? id = some proposal)
    (hfound₀ : s.proposal.get? id₀ = some proposal₀) (hstate₀ : state env proposal₀ s = .ok r₀)
    (hopen : ¬ r₀.Decided) :
    (s.proposal.set id₀ written).get? id = some proposal := by
  have hid : id ≠ id₀ := by
    rintro rfl
    obtain rfl : proposal = proposal₀ := Option.some.inj (hfound.symm.trans hfound₀)
    rw [h.unique hstate₀] at hdecided
    exact hopen hdecided
  rw [Store.get?_set_ne _ _ hid]
  exact hfound

theorem decided_step (hordered : Ordered s) {op : Op} {id : ℕ}
    (heffect : Effect tok self s (.call env op) s') (hkeeps : (Action.call env op).KeepsDecisions s)
    (hfound : s.proposal.get? id = some proposal) (h : Status env proposal s r)
    (hdecided : r.Decided) :
    ∃ proposal', s'.proposal.get? id = some proposal' ∧ Status env proposal' s' r := by
  cases heffect with
  | initializeContract _ admin votingToken params fresh =>
    rw [hordered.fresh fresh] at hfound
    cases hfound
  | propose _ proposer draft voteStart voteEnd opened =>
    have hlt := hordered.numbered id proposal hfound
    exact ⟨proposal, (Store.get?_set_ne _ _ hlt.ne).trans hfound, h.congr rfl⟩
  | castVote _ voter proposalId voteType proposal₀ power found active =>
    refine ⟨proposal, decided_set h hdecided hfound found active ?_, h.congr rfl⟩
    simp [ProposalState.Decided]
  | queue _ caller proposalId proposal₀ eta found succeeded =>
    refine ⟨proposal, decided_set h hdecided hfound found succeeded ?_, h.congr rfl⟩
    simp [ProposalState.Decided]
  | execute _ caller proposalId proposal₀ tokens found queued =>
    refine ⟨proposal, decided_set h hdecided hfound found queued ?_, h.congr rfl⟩
    simp [ProposalState.Decided]
  | cancel _ caller proposalId proposal₀ found pending =>
    by_cases hid : id = proposalId
    · subst hid
      obtain rfl : proposal = proposal₀ := Option.some.inj (hfound.symm.trans found)
      refine ⟨_, Store.get?_set_self _ _ _, ?_⟩
      have hstate : getProposalState env id s = .ok r :=
        getProposalState_ok.mpr ⟨proposal, hfound, h.state⟩
      have hkeeps : (getProposalState env id s).toOption ∉
          [some ProposalState.defeated, some .expired] := hkeeps
      rw [hstate] at hkeeps
      rcases hdecided with rfl | rfl | rfl | rfl
      · cases h with
        | executed closed passed done =>
          rw [pending] at done
          cases done
      · simp [Except.toOption] at hkeeps
      · simp [Except.toOption] at hkeeps
      · exact .canceled rfl
    · exact ⟨proposal, (Store.get?_set_ne _ _ hid).trans hfound, h.congr rfl⟩
  | setVotingParams _ admin changes ruled =>
    refine ⟨proposal, hfound, ?_⟩
    have hsame := hkeeps id (hordered.numbered id proposal hfound) proposal hfound
    rw [h.state] at hsame
    rcases hdecided with rfl | rfl | rfl | rfl
    · exact h.congr (hsame (by simp [Except.toOption]))
    · exact h.congr (hsame (by simp [Except.toOption]))
    · exact h.congr (hsame (by simp [Except.toOption]))
    · cases h with
      | canceled dropped => exact .canceled dropped
  | _ => exact ⟨proposal, hfound, h.congr rfl⟩

/-- The state of a proposal at the time of an invocation. -/
def seen (id : ℕ) (e : State τ × Action τ) : Option ProposalState :=
  match e.2 with
  | .call env _ => (getProposalState env id e.1).toOption
  | .transfers _ => none

/-- From the time of the ledger on, the proposal is in this state. -/
def Final (log : List (State τ × Action τ)) (s : State τ) (id : ℕ) (r : ProposalState) : Prop :=
  ∃ proposal, s.proposal.get? id = some proposal ∧ ∀ env : Ledger,
    clock Action.sequence log ≤ env.sequence → clock Action.time log ≤ env.timestamp →
    Status env proposal s r

theorem Final.step {id : ℕ} (h : Final log s id r) (hdecided : r.Decided) (hordered : Ordered s)
    (hclocks : InOrder log a) (hkeeps : a.KeepsDecisions s) (heffect : Effect tok self s a s') :
    Final ((s, a) :: log) s' id r := by
  obtain ⟨proposal, hfound, hstatus⟩ := h
  cases a with
  | call env op =>
    have hnow := hstatus env (hclocks.1 _ rfl) (hclocks.2 _ rfl)
    obtain ⟨proposal', hfound', hstatus'⟩ :=
      decided_step hordered heffect hkeeps hfound hnow hdecided
    exact ⟨proposal', hfound', fun env' hs ht => hstatus'.later hdecided hs ht⟩
  | transfers tokens =>
    cases heffect
    exact ⟨proposal, hfound, fun env hs ht => (hstatus env hs ht).congr rfl⟩

theorem Final.now {id : ℕ} (hseen : seen id (s, a) = some r) (hdecided : r.Decided)
    (hordered : Ordered s) (hkeeps : a.KeepsDecisions s) (heffect : Effect tok self s a s') :
    Final ((s, a) :: log) s' id r := by
  cases a with
  | call env op =>
    have hstate : getProposalState env id s = .ok r := by
      simp only [seen] at hseen
      cases hs : getProposalState env id s with
      | error e => simp [hs, Except.toOption] at hseen
      | ok r' =>
        rw [hs] at hseen
        rw [Option.some.inj hseen]
    obtain ⟨proposal, hfound, hstate⟩ := getProposalState_ok.mp hstate
    obtain ⟨proposal', hfound', hstatus'⟩ :=
      decided_step hordered heffect hkeeps hfound (Status.of_state hstate) hdecided
    exact ⟨proposal', hfound', fun env' hs ht => hstatus'.later hdecided hs ht⟩
  | transfers tokens => cases hseen

/-- In every run with clocks that do not go back, whose new parameters do not change whether a
decided proposal passes and which cancels nothing that is defeated or expired, a proposal that was
executed, defeated, expired or canceled at some call is so at every later time. -/
theorem decided_stays {start : τ} {id : ℕ} {e : State τ × Action τ}
    (hrun : History (next tok self) (fun log s a => InOrder log a ∧ a.KeepsDecisions s)
      (deployed start) log s)
    (he : e ∈ log) (hseen : seen id e = some r) (hdecided : r.Decided)
    (hsequence : clock Action.sequence log ≤ env.sequence)
    (htime : clock Action.time log ≤ env.timestamp) : getProposalState env id s = .ok r := by
  have hfinal : ∀ e ∈ log, seen id e = some r → Final log s id r := by
    refine (run_preserves (P := fun log s => ∀ e ∈ log, seen id e = some r → Final log s id r)
      hrun (fun e he => (by cases he)) ?_).2
    rintro log s a s' hordered ⟨hclocks, hkeeps⟩ heffect h e he hseen
    rcases List.mem_cons.mp he with rfl | he
    · exact .now hseen hdecided hordered hkeeps heffect
    · exact (h e he hseen).step hdecided hordered hclocks hkeeps heffect
  obtain ⟨proposal, hfound, hstatus⟩ := hfinal e he hseen
  exact getProposalState_ok.mpr ⟨proposal, hfound, (hstatus env hsequence htime).state⟩

section Runs

open Sample

/-- A quorum of 30 percent instead of 20 defeats nothing that was executed with all votes. -/
def milder : List (ℕ × Op) := passing ++ [
  (113, .execute carol 0),
  (114, .getProposalState 0),
  (115, .setVotingParams admin ⟨none, none, none, some 3000, none⟩)]

theorem decided_stays_milder :
    ∃ log s, History (next asset contract) (fun log s a => InOrder log a ∧ a.KeepsDecisions s) start
        log s ∧ getProposalState (ledger 116) 0 s = .ok .executed := by
  have h : After (fun h => (∃ e ∈ h.1, seen 0 e = some .executed) ∧
        clock Action.sequence h.1 ≤ 116 ∧ clock Action.time h.1 ≤ 116)
      (record (next asset contract) (fun log s a => InOrder log a ∧ a.KeepsDecisions s)
        (calls milder) ([], start)) := by
    decide +kernel
  obtain ⟨⟨log, s⟩, hrec, ⟨e, he, hseen⟩, hsequence, htime⟩ := h.exists_ok
  have hrun : History (next asset contract) (fun log s a => InOrder log a ∧ a.KeepsDecisions s)
      start log s := record_run hrec
  exact ⟨log, s, hrun, decided_stays hrun he hseen (.inl rfl) hsequence htime⟩

/-- Nobody can reach the new quorum. -/
def stricter : List (ℕ × Op) := passing ++ [
  (113, .execute carol 0),
  (114, .getProposalState 0),
  (115, .setVotingParams admin ⟨none, none, none, some 10001, none⟩)]

theorem executed_then_defeated :
    ¬ ∀ (log : List (State Balances × Action Balances)) (s : State Balances) (id : ℕ)
        (e : State Balances × Action Balances) (r : ProposalState) (env : Ledger),
      History (next asset contract) (fun log _ a => InOrder log a) start log s →
      e ∈ log → seen id e = some r → r.Decided → clock Action.sequence log ≤ env.sequence →
      clock Action.time log ≤ env.timestamp → getProposalState env id s = .ok r := by
  have h : After (fun h => (∃ e ∈ h.1, seen 0 e = some .executed) ∧
        clock Action.sequence h.1 ≤ 116 ∧ clock Action.time h.1 ≤ 116 ∧
        getProposalState (ledger 116) 0 h.2 = .ok .defeated)
      (record (next asset contract) (fun log _ a => InOrder log a) (calls stricter)
        ([], start)) := by
    decide +kernel
  obtain ⟨⟨log, s⟩, hrec, ⟨e, he, hseen⟩, hsequence, htime, hdefeated⟩ := h.exists_ok
  have hrun : History (next asset contract) (fun log _ a => InOrder log a) start log s :=
    record_run hrec
  intro hall
  have hexecuted := hall log s 0 e _ (ledger 116) hrun he hseen (.inl rfl) hsequence htime
  cases hdefeated.symm.trans hexecuted

end Runs

end Governance
