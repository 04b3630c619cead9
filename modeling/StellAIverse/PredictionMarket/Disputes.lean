import StellAIverse.PredictionMarket.Invariants

/-!
# Disputes and the verdict of a market

A dispute keeps its terms from `open_dispute` on and is settled once. The
verdict of a market is the outcome it is resolved to.
-/

namespace PredictionMarket

open Soroban

variable {τ : Type} {tok : Token τ} {self : Address} {s s' : State τ} {a : Action τ}

/-- Still open or voted on, so its stake is still held. -/
def Dispute.Live (d : Dispute) : Prop := d.status = .open ∨ d.status = .voted

instance (d : Dispute) : Decidable d.Live := inferInstanceAs (Decidable (_ ∨ _))

theorem Dispute.live_iff {d : Dispute} :
    d.Live ↔ d.status ≠ .resolvedUpheld ∧ d.status ≠ .resolvedRejected := by
  unfold Dispute.Live
  cases d.status <;> simp

/-- How a stored dispute can evolve. -/
structure Dispute.Continues (old new : Dispute) : Prop where
  marketId : new.marketId = old.marketId
  disputeId : new.disputeId = old.disputeId
  claimedOutcome : new.claimedOutcome = old.claimedOutcome
  stakeAmount : new.stakeAmount = old.stakeAmount

theorem Dispute.Continues.refl (d : Dispute) : Dispute.Continues d d := ⟨rfl, rfl, rfl, rfl⟩

/-- Disputes sit under their own ids, claim an outcome that has a pool, and a recorded
vote belongs to a dispute. -/
structure Disputes (s : State τ) : Prop where
  key : ∀ k d, s.dispute.get? k = some d → (d.marketId, d.disputeId) = k
  counter : ∀ k d, s.dispute.get? k = some d → k.2 < getDisputeCounter s k.1
  staked : ∀ k d, s.dispute.get? k = some d → 0 < d.stakeAmount
  claim : ∀ k d, s.dispute.get? k = some d →
    ∃ p, s.outcomePool.get? (k.1, d.claimedOutcome) = some p
  vote : ∀ k w, s.disputeVote.get? k = some w → ∃ d, s.dispute.get? (k.1, k.2.1) = some d

theorem Disputes.fresh (h : Disputes s) (m : ℕ) :
    s.dispute.get? (m, getDisputeCounter s m) = none := by
  cases hk : s.dispute.get? (m, getDisputeCounter s m) with
  | none => rfl
  | some d => exact absurd (h.counter _ _ hk) (lt_irrefl _)

/-- A dispute of the new state was there before, or was just opened. -/
theorem dispute_back (hk : Keyed s) (hd : Disputes s) (h : Effect tok self s a s') {k : ℕ × ℕ}
    {d' : Dispute} (hd' : s'.dispute.get? k = some d') :
    (∃ d, s.dispute.get? k = some d ∧ Dispute.Continues d d') ∨
    (k = (d'.marketId, d'.disputeId) ∧ d'.disputeId = getDisputeCounter s d'.marketId ∧
      0 < d'.stakeAmount ∧ getDisputeCounter s' d'.marketId = d'.disputeId + 1 ∧
      ∃ p, s.outcomePool.get? (d'.marketId, d'.claimedOutcome) = some p) := by
  have rewritten : ∀ {m d₀ : ℕ} {old new : Dispute}, s.dispute.get? (m, d₀) = some old →
      (s.dispute.set (old.marketId, old.disputeId) new).get? k = some d' →
      Dispute.Continues old new →
      ∃ d, s.dispute.get? k = some d ∧ Dispute.Continues d d' := by
    intro m d₀ old new hold hset hnew
    rw [hd.key _ _ hold, Store.get?_set] at hset
    split at hset
    · rename_i he
      cases hset
      exact ⟨old, by rw [he, hold], hnew⟩
    · exact ⟨d', hset, .refl d'⟩
  cases h with
  | openDispute _ dispute market _ stored resolved valid staked fresh =>
    simp only [Store.get?_set] at hd'
    split at hd'
    · rename_i he
      cases hd'
      exact .inr ⟨he, fresh, staked, by simp [getDisputeCounter],
        hk.listed _ _ ⟨market, stored, valid⟩⟩
    · exact .inl ⟨d', hd', .refl d'⟩
  | voteDispute _ _ _ _ _ _ _ _ stored => exact .inl (rewritten stored hd' ⟨rfl, rfl, rfl, rfl⟩)
  | upholdDispute _ _ _ _ _ _ _ stored => exact .inl (rewritten stored hd' ⟨rfl, rfl, rfl, rfl⟩)
  | rejectDispute _ _ _ _ _ _ _ stored => exact .inl (rewritten stored hd' ⟨rfl, rfl, rfl, rfl⟩)
  | _ => exact .inl ⟨d', hd', .refl d'⟩

/-- A stored dispute stays stored. -/
theorem dispute_step (h : Effect tok self s a s') {k : ℕ × ℕ} {d : Dispute}
    (hk : s.dispute.get? k = some d) : ∃ d', s'.dispute.get? k = some d' := by
  have kept : ∀ {k₀ : ℕ × ℕ} {new : Dispute}, ∃ d', (s.dispute.set k₀ new).get? k = some d' := by
    intro k₀ new
    rw [Store.get?_set]
    split
    · exact ⟨new, rfl⟩
    · exact ⟨d, hk⟩
  cases h with
  | openDispute => exact kept
  | voteDispute => exact kept
  | upholdDispute => exact kept
  | rejectDispute => exact kept
  | _ => exact ⟨d, hk⟩

theorem getDisputeCounter_le (h : Effect tok self s a s') (m : ℕ) :
    getDisputeCounter s m ≤ getDisputeCounter s' m := by
  cases h with
  | openDispute _ dispute _ _ _ _ _ _ fresh =>
    simp only [getDisputeCounter, Store.get?_set] at fresh ⊢
    split
    · rename_i he
      rw [he, ← fresh]
      simp
    · exact le_rfl
  | _ => exact le_rfl

/-- A pool that is stored stays stored. -/
theorem pool_kept (h : Effect tok self s a s') {m i : ℕ}
    (hp : ∃ p, s.outcomePool.get? (m, i) = some p) : ∃ p, s'.outcomePool.get? (m, i) = some p :=
  (pool_step h).mpr (.inl hp)

theorem disputes_step (hkeyed : Keyed s) (hd : Disputes s) (h : Effect tok self s a s') :
    Disputes s' where
  key k d hk := by
    obtain ⟨d₀, hk₀, hc⟩ | ⟨he, -⟩ := dispute_back hkeyed hd h hk
    · rw [hc.marketId, hc.disputeId]
      exact hd.key k d₀ hk₀
    · exact he.symm
  counter k d hk := by
    obtain ⟨d₀, hk₀, -⟩ | ⟨he, -, -, hcount, -⟩ := dispute_back hkeyed hd h hk
    · exact (hd.counter k d₀ hk₀).trans_le (getDisputeCounter_le h k.1)
    · rw [he, hcount]
      exact Nat.lt_succ_self _
  staked k d hk := by
    obtain ⟨d₀, hk₀, hc⟩ | ⟨-, -, hstake, -⟩ := dispute_back hkeyed hd h hk
    · rw [hc.stakeAmount]
      exact hd.staked k d₀ hk₀
    · exact hstake
  claim k d hk := by
    obtain ⟨d₀, hk₀, hc⟩ | ⟨he, -, -, -, hp⟩ := dispute_back hkeyed hd h hk
    · rw [hc.claimedOutcome]
      exact pool_kept h (hd.claim k d₀ hk₀)
    · rw [he]
      exact pool_kept h hp
  vote k w hk := by
    have kept : ∀ {d}, s.dispute.get? (k.1, k.2.1) = some d →
        ∃ d', s'.dispute.get? (k.1, k.2.1) = some d' := fun hd => dispute_step h hd
    have old : s.disputeVote.get? k = some w → ∃ d', s'.dispute.get? (k.1, k.2.1) = some d' := by
      intro hk
      obtain ⟨d, hd⟩ := hd.vote k w hk
      exact kept hd
    cases h with
    | voteDispute _ _ _ _ _ _ _ _ stored =>
      simp only [Store.get?_set] at hk
      split at hk
      · rename_i he
        rw [he] at kept ⊢
        exact kept stored
      · exact old hk
    | _ => exact old hk

theorem Reachable.disputes (h : Reachable tok self s) : Disputes s := by
  refine ReachableVia.induction ?_ ?_ h
  · rintro s ⟨tokens, rfl⟩
    exact ⟨by simp [deployed], by simp [deployed], by simp [deployed], by simp [deployed],
      by simp [deployed]⟩
  · intro s a s' hr _ heff hd
    exact disputes_step hr.keyed hd heff

/-- A market is only ever resolved to an outcome that has a pool. -/
theorem Reachable.verdict (h : Reachable tok self s) {m w : ℕ} {market : Market}
    (hm : s.market.get? m = some market) (hw : market.resolvedOutcome = some w) :
    ∃ pool, s.outcomePool.get? (m, w) = some pool := by
  have hall : ∀ m market, s.market.get? m = some market → market.resolvedOutcome = some w →
      ∃ pool, s.outcomePool.get? (m, w) = some pool := by
    refine ReachableVia.induction (P := fun s => ∀ m market, s.market.get? m = some market →
      market.resolvedOutcome = some w → ∃ pool, s.outcomePool.get? (m, w) = some pool) ?_ ?_ h
    · rintro s ⟨tokens, rfl⟩
      simp [deployed]
    · intro s a s' hr _ heff ih
      have old : ∀ m market, s.market.get? m = some market → market.resolvedOutcome = some w →
          ∃ pool, s'.outcomePool.get? (m, w) = some pool :=
        fun m market hm hw => pool_kept heff (ih m market hm hw)
      cases heff with
      | createMarket => exact Store.forall_set old (by simp [newMarket])
      | resolveMarket _ _ m₀ _ market₀ stored _ valid =>
        refine Store.forall_set old ?_
        intro he
        cases he
        rw [hr.ids _ _ stored]
        exact hr.keyed.listed m₀ w ⟨market₀, stored, valid⟩
      | closeMarketEarly _ _ m₀ market₀ stored =>
        rw [hr.ids _ _ stored]
        exact Store.forall_set old (old m₀ market₀ stored)
      | openDispute _ _ market₀ _ stored =>
        rw [hr.ids _ _ stored]
        exact Store.forall_set old (old _ market₀ stored)
      | upholdDispute _ _ m₀ d dispute _ _ stored _ known =>
        rw [hr.ids _ _ known]
        refine Store.forall_set old ?_
        intro he
        cases he
        exact hr.disputes.claim _ _ stored
      | rejectDispute _ _ m₀ _ _ market₀ _ _ _ known =>
        rw [hr.ids _ _ known]
        exact Store.forall_set old (old m₀ market₀ known)
      | _ => exact old
  exact hall m market hm hw

/-- The invocations that do not give market `m` a verdict other than `w` and do not
overwrite it, judged before they run. -/
def Action.KeepsVerdict (s : State τ) (m w : ℕ) : Action τ → Prop
  | .call _ (.createMarket ..) => s.marketCounter ≠ m
  | .call _ (.resolveMarket _ m' outcome) => m' = m → outcome = w
  | .call _ (.resolveDispute _ m' d) => m' = m → ∀ dispute,
      s.dispute.get? (m, d) = some dispute → dispute.votesAgainst < dispute.votesFor →
      dispute.claimedOutcome = w
  | _ => True

/-- Market `m` has been resolved to `w`. -/
def Verdict (s : State τ) (m w : ℕ) : Prop :=
  ∃ market, s.market.get? m = some market ∧ market.resolvedOutcome = some w

theorem verdict_step {m w : ℕ} (hi : Ids s) (ha : a.KeepsVerdict s m w)
    (h : Effect tok self s a s') (hv : Verdict s m w) : Verdict s' m w := by
  obtain ⟨market, hm, hw⟩ := hv
  have written : ∀ {m₀ : ℕ} {old new : Market}, s.market.get? m₀ = some old →
      (m₀ = m → old = market → new.resolvedOutcome = some w) →
      ∃ market', (s.market.set old.marketId new).get? m = some market' ∧
        market'.resolvedOutcome = some w := by
    intro m₀ old new hold hnew
    rw [hi m₀ old hold]
    by_cases he : m₀ = m
    · subst he
      exact ⟨new, Store.get?_set_self _ _ _, hnew rfl (Option.some.inj (hold.symm.trans hm))⟩
    · exact ⟨market, by rw [Store.get?_set_ne _ _ (Ne.symm he), hm], hw⟩
  cases h with
  | createMarket => exact ⟨market, by rw [Store.get?_set_ne _ _ (Ne.symm ha), hm], hw⟩
  | resolveMarket _ _ _ outcome _ stored =>
    refine written stored fun he _ => ?_
    rw [ha he]
  | closeMarketEarly _ _ _ _ stored => exact written stored fun _ he => he ▸ hw
  | openDispute _ _ _ _ stored => exact written stored fun _ he => he ▸ hw
  | upholdDispute _ _ m₀ d dispute _ _ stored _ known upheld =>
    refine written known fun he _ => ?_
    subst he
    rw [ha rfl dispute stored upheld]
  | rejectDispute _ _ _ _ _ _ _ _ _ known => exact written known fun _ he => he ▸ hw
  | _ => exact ⟨market, hm, hw⟩

/-- After a redemption of outcome `w`, along any run in which no other verdict is given
and the market is not overwritten, the verdict stays `w` and every redemption takes
tokens of `w`. -/
theorem verdict_final {m w : ℕ} {s₀ s₁ s₂ : State τ} {env : Env} {user : Address} {payout : ℤ}
    (hs : Reachable tok self s₀) (hw : Verdict s₀ m w)
    (hredeem : redeemWinningTokens tok self env user m s₀ = .ok (payout, s₁))
    (hrun : Steps (next tok self) (fun s a => a.KeepsVerdict s m w) s₁ s₂) :
    Verdict s₂ m w ∧
      ∀ env' user' payout' s₃, redeemWinningTokens tok self env' user' m s₂ = .ok (payout', s₃) →
        s₃.outcomeBalance = s₂.outcomeBalance.put (m, w, user') 0 := by
  have hnext : next tok self (.call env (.redeemWinningTokens user m)) s₀ = .ok s₁ := by
    simp [next, invoke, hredeem, Except.map]
  have hw₂ : Verdict s₂ m w := by
    have hw₁ : Verdict s₁ m w :=
      verdict_step (a := .call env (.redeemWinningTokens user m)) hs.ids trivial
        (next_effect hnext) hw
    refine (hs.next hnext).preserves (P := fun s => Verdict s m w) hrun ?_ hw₁
    intro s a s' hr ha heff hv
    exact verdict_step hr.ids ha heff hv
  refine ⟨hw₂, ?_⟩
  intro env' user' payout' s₃ hredeem'
  obtain ⟨market, hm, hwin⟩ := hw₂
  have heff : Effect tok self s₂ (.call env' (.redeemWinningTokens user' m)) s₃ := by
    obtain ⟨-, -, -, -, -, -, -, -, heff⟩ := redeemWinningTokens_ok hredeem'
    exact heff
  cases heff with
  | redeemWinningTokens _ _ _ w' market' _ _ stored _ winner =>
    cases hm.symm.trans stored
    cases hwin.symm.trans winner
    rfl

section Runs

open Sample

/-- Bob holds the first outcome, carol the second, and the first wins. -/
def bobWins : List (Action Balances) := [
  call (.createMarket alice (params 100 1000 30)),
  call (.buyOutcome bob 0 0 100 0),
  call (.buyOutcome carol 0 1 100 0),
  lateCall (.resolveMarket admin 0 0)]

/-- Carol disputes the verdict and outvotes bob, who has redeemed. -/
def overturned : List (Action Balances) := [
  lateCall (.openDispute carol 0 1 "it did not rain" 10),
  lateCall (.voteDispute carol 0 0 true),
  lateCall (.resolveDispute admin 0 0)]

/-- Bob redeems, carol opens a dispute: the verdict still stands. -/
theorem verdict_final_while_disputed : ∃ s₀ s₁ s₂ : State Balances,
    Reachable asset contract s₀ ∧
    redeemWinningTokens asset contract (env 100) bob 0 s₀ = .ok (49, s₁) ∧
    invoke asset contract (env 100) (.openDispute carol 0 1 "it did not rain" 10) s₁ = .ok s₂ ∧
    Verdict s₂ 0 0 := by
  have h : After (fun s₀ => (∃ market ∈ s₀.market.get? 0, market.resolvedOutcome = some 0) ∧
      After (fun r => r.1 = 49 ∧ After (fun _ => True)
          (invoke asset contract (env 100) (.openDispute carol 0 1 "it did not rain" 10) r.2))
        (redeemWinningTokens asset contract (env 100) bob 0 s₀)) (run bobWins) := by
    decide +kernel
  obtain ⟨s₀, hs, hw, h⟩ := h.exists_ok
  obtain ⟨⟨payout, s₁⟩, hredeem, rfl, h⟩ := h.exists_ok
  obtain ⟨s₂, hopen, -⟩ := h.exists_ok
  have hrun : Steps (next asset contract) (fun s a => a.KeepsVerdict s 0 0) s₁ s₂ :=
    .tail (a := lateCall (.openDispute carol 0 1 "it did not rain" 10)) (.refl s₁) trivial hopen
  exact ⟨s₀, s₁, s₂, run_reachable hs, hredeem, hopen,
    (verdict_final (run_reachable hs) hw hredeem hrun).1⟩

/-- An upheld dispute replaces the verdict after bob has redeemed, and carol
redeems the other outcome. -/
theorem verdict_overturned : ∃ (s₀ s₁ s₂ s₃ : State Balances) (payout payout' : ℤ),
    Reachable asset contract s₀ ∧ Verdict s₀ 0 0 ∧
    redeemWinningTokens asset contract (env 100) bob 0 s₀ = .ok (payout, s₁) ∧
    Steps (next asset contract) (fun _ _ => True) s₁ s₂ ∧ Verdict s₂ 0 1 ∧
    redeemWinningTokens asset contract (env 100) carol 0 s₂ = .ok (payout', s₃) := by
  have h : After (fun s₀ => (∃ market ∈ s₀.market.get? 0, market.resolvedOutcome = some 0) ∧
      After (fun r => After (fun s₂ =>
          (∃ market ∈ s₂.market.get? 0, market.resolvedOutcome = some 1) ∧
          After (fun _ => True) (redeemWinningTokens asset contract (env 100) carol 0 s₂))
          (execute (next asset contract) overturned r.2))
        (redeemWinningTokens asset contract (env 100) bob 0 s₀)) (run bobWins) := by
    decide +kernel
  obtain ⟨s₀, hs, hw, h⟩ := h.exists_ok
  obtain ⟨⟨payout, s₁⟩, hredeem, h⟩ := h.exists_ok
  obtain ⟨s₂, hrun, hw', h⟩ := h.exists_ok
  obtain ⟨⟨payout', s₃⟩, hredeem', -⟩ := h.exists_ok
  exact ⟨s₀, s₁, s₂, s₃, payout, payout', run_reachable hs, hw, hredeem,
    execute_steps overturned (fun _ _ _ => trivial) hrun, hw', hredeem'⟩

end Runs

end PredictionMarket
