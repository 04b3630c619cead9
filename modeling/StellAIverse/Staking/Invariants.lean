import StellAIverse.Staking.Effects

/-!
# Stored positions over a run

How one completed call may change a stored position, and what every stored
position and tier satisfies in every reachable state.
-/

namespace Staking

open Soroban

variable {τ : Type} {tok : Token τ} {self : Address} {s s' : State τ} {a : Action τ}

/-- Reached from empty storage by invocations that `ok` admits. -/
def ReachableVia (tok : Token τ) (self : Address) (ok : State τ → Action τ → Prop)
    (s : State τ) : Prop :=
  ∃ tokens, Steps (next tok self) ok (deployed tokens) s

def Reachable (tok : Token τ) (self : Address) (s : State τ) : Prop :=
  ReachableVia tok self (fun _ _ => True) s

theorem ReachableVia.reachable {ok : State τ → Action τ → Prop} (h : ReachableVia tok self ok s) :
    Reachable tok self s := by
  obtain ⟨tokens, hrun⟩ := h
  exact ⟨tokens, hrun.mono fun _ _ _ => trivial⟩

/-- A position after it may have been paid or closed. -/
structure StakePosition.Later (rpt : ℤ) (p p' : StakePosition) : Prop where
  same : p' = { p with rewardPerTokenPaid := p'.rewardPerTokenPaid, active := p'.active }
  active : p'.active = true → p.active = true
  paid : p'.rewardPerTokenPaid = p.rewardPerTokenPaid ∨ p'.rewardPerTokenPaid = rpt

namespace StakePosition.Later

variable {rpt : ℤ} {p p' p'' : StakePosition}

theorem refl (p : StakePosition) : p.Later rpt p := ⟨rfl, id, .inl rfl⟩

theorem closes (p : StakePosition) : p.Later rpt { p with active := false } :=
  ⟨rfl, nofun, .inl rfl⟩

theorem pays (p : StakePosition) : p.Later rpt { p with rewardPerTokenPaid := rpt } :=
  ⟨rfl, id, .inr rfl⟩

theorem trans (h : p.Later rpt p') (h' : p'.Later rpt p'') : p.Later rpt p'' := by
  refine ⟨?_, fun ha => h.active (h'.active ha), ?_⟩
  · rw [h'.same, h.same]
  · rcases h'.paid with hp | hp
    · rw [hp]
      exact h.paid
    · exact .inr hp

theorem amount (h : p.Later rpt p') : p'.amount = p.amount := by rw [h.same]

theorem tierId (h : p.Later rpt p') : p'.tierId = p.tierId := by rw [h.same]

theorem user (h : p.Later rpt p') : p'.user = p.user := by rw [h.same]

end StakePosition.Later

/-- Every position of the second store is a later form of one of the first. -/
def LaterStore (rpt : ℤ) (positions positions' : Store ℕ StakePosition) : Prop :=
  ∀ id p', positions'.get? id = some p' →
    ∃ p, positions.get? id = some p ∧ p.Later rpt p'

namespace LaterStore

variable {rpt : ℤ} {positions positions' positions'' : Store ℕ StakePosition}

theorem refl (positions : Store ℕ StakePosition) : LaterStore rpt positions positions :=
  fun _ p hk => ⟨p, hk, .refl p⟩

theorem trans (h : LaterStore rpt positions positions')
    (h' : LaterStore rpt positions' positions'') : LaterStore rpt positions positions'' := by
  intro id p'' hk
  obtain ⟨p', hp', hl'⟩ := h' id p'' hk
  obtain ⟨p, hp, hl⟩ := h id p' hp'
  exact ⟨p, hp, hl.trans hl'⟩

theorem set {id : ℕ} {p p' : StakePosition} (hk : positions.get? id = some p)
    (hl : p.Later rpt p') : LaterStore rpt positions (positions.set id p') :=
  Store.forall_set (P := fun id p' => ∃ p, positions.get? id = some p ∧ p.Later rpt p')
    (fun _ q hq => ⟨q, hq, .refl q⟩) ⟨p, hk, hl⟩

theorem settleStore (list : List (ℕ × ℤ)) (positions : Store ℕ StakePosition) :
    LaterStore rpt positions (settleStore rpt list positions) := by
  induction list generalizing positions with
  | nil => exact refl positions
  | cons entry rest ih =>
    obtain ⟨id, pending⟩ := entry
    unfold Staking.settleStore
    split
    · cases hk : positions.get? id with
      | none => exact ih positions
      | some p => exact (set hk (.pays p)).trans (ih _)
    · exact ih positions

end LaterStore

theorem Closings.later {user : Address} {ids : List ℕ} {total rpt : ℤ}
    (h : Closings user ids s total s') : LaterStore rpt s.stakePosition s'.stakePosition := by
  induction h with
  | nil => exact .refl _
  | skip _ _ _ _ _ _ _ _ _ ih => exact ih
  | close _ _ position _ _ _ _ stored _ _ _ _ ih =>
    exact (LaterStore.set stored (.closes position)).trans ih

/-- A stored position was there before, or has just been staked. -/
theorem position_back (h : Effect tok self s a s') {id : ℕ} {p' : StakePosition}
    (hk : s'.stakePosition.get? id = some p') :
    (∃ p, s.stakePosition.get? id = some p ∧ p.Later s'.rewardPerTokenStored p') ∨
      (id = s.stakeCounter + 1 ∧ ∃ env user amount tierId, ∃ tier : StakingTier,
        a = .call env (.stake user amount tierId) ∧ 0 < amount ∧ tierId ≠ 0 ∧
        s.tier.get? tierId = some tier ∧
        p' = ⟨s.stakeCounter + 1, user, amount, tierId, env.timestamp,
          env.timestamp + tier.lockDurationSeconds, s'.rewardPerTokenStored, true⟩) := by
  cases h with
  | stake env user _ amount tierId tier _ positive stored nonzero =>
    rw [Store.get?_set] at hk
    split at hk
    · rename_i he
      cases hk
      exact .inr ⟨he, env, user, amount, tierId, tier, rfl, positive, nonzero, stored, rfl⟩
    · exact .inl ⟨p', hk, .refl p'⟩
  | unstake _ _ _ id' position _ _ _ _ _ _ stored =>
    exact .inl (LaterStore.set stored (.closes position) id p' hk)
  | claimRewards _ _ _ id' position _ _ _ stored =>
    exact .inl (LaterStore.set stored (.pays position) id p' hk)
  | claimRewardsBatch => exact .inl (LaterStore.settleStore _ _ id p' hk)
  | emergencyWithdraw _ _ _ _ id' position _ _ _ stored =>
    exact .inl (LaterStore.set stored (.closes position) id p' hk)
  | emergencyWithdrawAll _ _ _ _ _ _ _ _ closings => exact .inl (closings.later id p' hk)
  | _ => exact .inl ⟨p', hk, .refl p'⟩

/-- Before `initialize` nothing is staked. -/
structure Untouched (s : State τ) : Prop where
  positions : s.admin = none → ∀ id, s.stakePosition.get? id = none
  tiers : s.admin = none → ∀ id, s.tier.get? id = none
  token : s.admin = none → s.rewardToken = none

theorem untouched_step (hu : Untouched s) (h : Effect tok self s a s') : Untouched s' := by
  have admin_some : ∀ {x : Address}, s.admin = some x → s.admin = none → False := by
    intro x hs hn
    rw [hn] at hs
    cases hs
  have stored_some : ∀ {id : ℕ} {p : StakePosition}, s.stakePosition.get? id = some p →
      s.admin = none → False := by
    intro id p hs hn
    rw [hu.positions hn] at hs
    cases hs
  cases h with
  | initializeContract => exact ⟨nofun, nofun, nofun⟩
  | addTier _ _ _ _ _ _ _ authorized =>
    exact ⟨hu.positions, fun hn => (admin_some authorized hn).elim, hu.token⟩
  | updateTier _ _ _ _ _ authorized =>
    exact ⟨hu.positions, fun hn => (admin_some authorized hn).elim, hu.token⟩
  | deactivateTier _ _ _ _ authorized =>
    exact ⟨hu.positions, fun hn => (admin_some authorized hn).elim, hu.token⟩
  | stake _ _ _ _ _ _ _ _ stored =>
    refine ⟨fun hn => ?_, hu.tiers, hu.token⟩
    rw [hu.tiers hn] at stored
    cases stored
  | unstake _ _ _ _ _ _ _ _ _ _ _ stored =>
    exact ⟨fun hn => (stored_some stored hn).elim, hu.tiers, hu.token⟩
  | claimRewards _ _ _ _ _ _ _ _ stored =>
    exact ⟨fun hn => (stored_some stored hn).elim, hu.tiers, hu.token⟩
  | claimRewardsBatch _ _ _ _ _ _ _ _ _ asset =>
    refine ⟨fun hn => ?_, hu.tiers, hu.token⟩
    rw [hu.token hn] at asset
    cases asset
  | emergencyWithdraw _ _ _ _ _ _ _ _ authorized =>
    exact ⟨fun hn => (admin_some authorized hn).elim, hu.tiers, hu.token⟩
  | emergencyWithdrawAll _ _ _ _ s₁ _ _ authorized closings =>
    have hadmin : s₁.admin = s.admin := by rw [closings.frame]
    refine ⟨fun hn => ?_, fun hn => ?_, fun hn => ?_⟩ <;>
      exact (admin_some authorized (hadmin ▸ hn)).elim
  | _ => exact ⟨hu.positions, hu.tiers, hu.token⟩

/-- What every stored position and tier satisfies. -/
structure WellFormed (s : State τ) : Prop where
  positions : ∀ id p, s.stakePosition.get? id = some p →
    1 ≤ id ∧ id ≤ s.stakeCounter ∧ 0 < p.amount
  tiered : ∀ id p, s.stakePosition.get? id = some p →
    p.tierId ≠ 0 ∧ ∃ tier, s.tier.get? p.tierId = some tier
  tiers : ∀ id tier, s.tier.get? id = some tier → 1 ≤ id ∧ id ≤ s.tierCounter
  penalties : ∀ id tier, s.tier.get? id = some tier → tier.penaltyBps ≤ maxPenaltyBps
  listed : ∀ id p, s.stakePosition.get? id = some p → id ∈ getUserStakeIds s p.user

theorem WellFormed.of_untouched (hp : ∀ id, s.stakePosition.get? id = none)
    (ht : ∀ id, s.tier.get? id = none) : WellFormed s where
  positions id p hk := by simp [hp] at hk
  tiered id p hk := by simp [hp] at hk
  tiers id tier hk := by simp [ht] at hk
  penalties id tier hk := by simp [ht] at hk
  listed id p hk := by simp [hp] at hk

/-- Positions that are later forms of stored ones, with the same owners' lists. -/
theorem WellFormed.later (hw : WellFormed s) {rpt : ℤ}
    (hl : LaterStore rpt s.stakePosition s'.stakePosition)
    (hcount : s'.stakeCounter = s.stakeCounter) (htier : s'.tier = s.tier)
    (htiers : s'.tierCounter = s.tierCounter) (hids : s'.userStakeIds = s.userStakeIds) :
    WellFormed s' where
  positions id p' hk := by
    obtain ⟨p, hp, hlater⟩ := hl id p' hk
    rw [hcount, hlater.amount]
    exact hw.positions id p hp
  tiered id p' hk := by
    obtain ⟨p, hp, hlater⟩ := hl id p' hk
    rw [htier, hlater.tierId]
    exact hw.tiered id p hp
  tiers := by
    rw [htier, htiers]
    exact hw.tiers
  penalties := by
    rw [htier]
    exact hw.penalties
  listed id p' hk := by
    obtain ⟨p, hp, hlater⟩ := hl id p' hk
    rw [getUserStakeIds, hids, hlater.user]
    exact hw.listed id p hp

/-- One tier written, under an id that is stored or the next. -/
theorem WellFormed.writeTier (hw : WellFormed s) {id count : ℕ} {tier : StakingTier}
    {ids : List ℕ} (hid : 1 ≤ id ∧ id ≤ count) (hcount : s.tierCounter ≤ count)
    (hpenalty : tier.penaltyBps ≤ maxPenaltyBps) :
    WellFormed { s with tier := s.tier.set id tier, tierCounter := count, tierIds := ids } where
  positions := hw.positions
  tiered id' p hk := by
    obtain ⟨hne, t, ht⟩ := hw.tiered id' p hk
    refine ⟨hne, ?_⟩
    simp only [Store.get?_set]
    split
    · exact ⟨tier, rfl⟩
    · exact ⟨t, ht⟩
  tiers := by
    refine Store.forall_set (fun id' t ht => ?_) hid
    have := hw.tiers id' t ht
    exact ⟨this.1, this.2.trans hcount⟩
  penalties := Store.forall_set hw.penalties hpenalty
  listed := hw.listed

theorem wellFormed_step (hu : Untouched s) (hw : WellFormed s) (h : Effect tok self s a s') :
    WellFormed s' := by
  cases h with
  | initializeContract _ _ _ _ fresh => exact .of_untouched (hu.positions fresh) (hu.tiers fresh)
  | addTier _ _ _ _ _ _ _ _ _ bounded =>
    exact hw.writeTier ⟨by omega, le_rfl⟩ (by omega) bounded
  | updateTier _ _ id new tier _ stored _ _ bounded =>
    refine hw.writeTier (hw.tiers id tier stored) le_rfl ?_
    exact updated_field (P := (· ≤ maxPenaltyBps)) (hw.penalties id tier stored) bounded
  | deactivateTier _ _ id tier _ stored =>
    exact hw.writeTier (hw.tiers id tier stored) le_rfl (hw.penalties id tier stored)
  | stake env user _ amount tierId tier _ positive stored nonzero =>
    refine ⟨?_, ?_, hw.tiers, hw.penalties, ?_⟩
    · refine Store.forall_set (fun id p hk => ?_) ⟨by omega, le_rfl, positive⟩
      have := hw.positions id p hk
      exact ⟨this.1, by simp only; omega, this.2.2⟩
    · exact Store.forall_set hw.tiered ⟨nonzero, tier, stored⟩
    · -- The new id is appended to its owner's list; the others' ids stay.
      refine Store.forall_set (fun id p hk => ?_) ?_
      · have hold := hw.listed id p hk
        simp only [getUserStakeIds, Store.get?_set] at hold ⊢
        split
        · rename_i he
          rw [he] at hold
          exact List.mem_append_left _ hold
        · exact hold
      · simp [getUserStakeIds]
  | unstake _ _ _ _ position _ _ _ _ _ _ stored =>
    have hl : LaterStore 0 s.stakePosition _ := .set stored (.closes position)
    exact hw.later hl rfl rfl rfl rfl
  | claimRewards _ _ _ _ position _ _ _ stored =>
    exact hw.later (LaterStore.set stored (.pays position)) rfl rfl rfl rfl
  | claimRewardsBatch => exact hw.later (LaterStore.settleStore _ _) rfl rfl rfl rfl
  | emergencyWithdraw _ _ _ _ _ position _ _ _ stored =>
    have hl : LaterStore 0 s.stakePosition _ := .set stored (.closes position)
    exact hw.later hl rfl rfl rfl rfl
  | emergencyWithdrawAll _ _ _ _ s₁ _ _ _ closings =>
    have hl : LaterStore 0 s.stakePosition s₁.stakePosition := closings.later
    refine hw.later hl ?_ ?_ ?_ ?_ <;>
    · simp only
      rw [closings.frame]
  | _ => exact ⟨hw.positions, hw.tiered, hw.tiers, hw.penalties, hw.listed⟩

/-- The accumulator is a 128-bit integer that only grows, and every snapshot was
taken from it. -/
structure Accrued (s : State τ) : Prop where
  rate : 0 ≤ s.rewardRatePerSecond
  rpt : 0 ≤ s.rewardPerTokenStored ∧ s.rewardPerTokenStored ≤ I128.max
  paid : ∀ id p, s.stakePosition.get? id = some p →
    0 ≤ p.rewardPerTokenPaid ∧ p.rewardPerTokenPaid ≤ s.rewardPerTokenStored

theorem incrementOf_nonneg {rate W : ℤ} {elapsed : ℕ} (hrate : 0 ≤ rate) (hW : 0 < W) :
    0 ≤ incrementOf rate elapsed W := by
  refine Int.tdiv_nonneg (mul_nonneg (mul_nonneg hrate (Int.natCast_nonneg _)) ?_) hW.le
  decide

theorem rptAt_ge (hrate : 0 ≤ s.rewardRatePerSecond) (now : ℕ) :
    s.rewardPerTokenStored ≤ rptAt now s := by
  unfold rptAt
  split
  · rename_i hc
    have hgain : 0 ≤ incrementOf _ (now - s.lastRewardTime) _ := incrementOf_nonneg hrate hc.2
    omega
  · exact le_rfl

theorem updatePool_le_max {env : Env} (h : updatePool env s = .ok s')
    (hr : s.rewardPerTokenStored ≤ I128.max) : s'.rewardPerTokenStored ≤ I128.max := by
  unfold updatePool at h
  split at h
  · cases h
    exact hr
  · split at h
    · cases h
      exact hr
    · obtain ⟨increment, -, h⟩ := bind_ok.mp h
      rw [I128.checked_bind] at h
      cases h.2
      exact h.1.2

/-- Apart from `initialize`, no call lowers the accumulator. -/
theorem rpt_step (ha : Accrued s) (hinit : s.admin = none → s'.admin = none)
    (h : Effect tok self s a s') :
    0 ≤ s'.rewardRatePerSecond ∧ s.rewardPerTokenStored ≤ s'.rewardPerTokenStored ∧
      s'.rewardPerTokenStored ≤ I128.max := by
  have pool : ∀ {env : Env}, updatePool env s = .ok (settled env.timestamp s) →
      s.rewardPerTokenStored ≤ (settled env.timestamp s).rewardPerTokenStored ∧
      (settled env.timestamp s).rewardPerTokenStored ≤ I128.max :=
    fun hp => ⟨rptAt_ge ha.rate _, updatePool_le_max hp ha.rpt.2⟩
  cases h with
  | initializeContract _ _ _ _ fresh => cases hinit fresh
  | setRewardRate _ _ _ _ nonneg settles => exact ⟨nonneg, pool settles⟩
  | stake _ _ _ _ _ _ _ _ _ _ settles => exact ⟨ha.rate, pool settles⟩
  | unstake _ _ _ _ _ _ _ _ _ _ _ _ _ _ _ _ settles => exact ⟨ha.rate, pool settles⟩
  | claimRewards _ _ _ _ _ _ _ _ _ _ _ _ _ _ settles => exact ⟨ha.rate, pool settles⟩
  | claimRewardsBatch _ _ _ _ _ _ _ _ settles => exact ⟨ha.rate, pool settles⟩
  | emergencyWithdrawAll _ _ _ _ _ _ _ _ closings =>
    simp only
    rw [closings.frame]
    exact ⟨ha.rate, le_rfl, ha.rpt.2⟩
  | _ => exact ⟨ha.rate, le_rfl, ha.rpt.2⟩

theorem accrued_step (hu : Untouched s) (ha : Accrued s) (h : Effect tok self s a s') :
    Accrued s' := by
  by_cases hinit : s.admin = none ∧ s'.admin ≠ none
  · cases h with
    | initializeContract _ _ _ _ fresh nonneg =>
      refine ⟨nonneg, ⟨le_rfl, I128.inRange_zero.2⟩, fun id p hk => ?_⟩
      rw [hu.positions fresh] at hk
      cases hk
    | emergencyWithdrawAll _ _ _ _ s₁ _ _ _ closings =>
      have hadmin : s₁.admin = s.admin := by rw [closings.frame]
      exact (hinit.2 (hadmin.trans hinit.1)).elim
    | _ => exact (hinit.2 hinit.1).elim
  · have hkeep : s.admin = none → s'.admin = none := by
      intro hn
      by_contra hs
      exact hinit ⟨hn, hs⟩
    obtain ⟨hrate, hle, hmax⟩ := rpt_step ha hkeep h
    have hrpt := ha.rpt.1
    refine ⟨hrate, ⟨by omega, hmax⟩, fun id p' hk => ?_⟩
    obtain ⟨p, hp, hlater⟩ | ⟨-, env, user, amount, tierId, tier, -, -, -, -, rfl⟩ :=
      position_back h hk
    · have hpaid := ha.paid id p hp
      rcases hlater.paid with he | he
      · omega
      · omega
    · exact ⟨by simp only; omega, le_rfl⟩

theorem Reachable.invariants (hs : Reachable tok self s) :
    Untouched s ∧ WellFormed s ∧ Accrued s := by
  obtain ⟨tokens, hrun⟩ := hs
  refine Steps.preserves (P := fun s => Untouched s ∧ WellFormed s ∧ Accrued s) ?_ hrun
    ⟨?_, ?_, ?_⟩
  · rintro s a s' - hn ⟨hu, hw, ha⟩
    have heff := next_effect hn
    exact ⟨untouched_step hu heff, wellFormed_step hu hw heff, accrued_step hu ha heff⟩
  · exact ⟨fun _ _ => rfl, fun _ _ => rfl, fun _ => rfl⟩
  · exact .of_untouched (fun _ => rfl) (fun _ => rfl)
  · exact ⟨le_rfl, ⟨le_rfl, I128.inRange_zero.2⟩, nofun⟩

theorem Reachable.wellFormed (hs : Reachable tok self s) : WellFormed s := hs.invariants.2.1

theorem Reachable.accrued (hs : Reachable tok self s) : Accrued s := hs.invariants.2.2

theorem Reachable.step (hs : Reachable tok self s) (h : next tok self a s = .ok s') :
    Reachable tok self s' := by
  obtain ⟨tokens, hrun⟩ := hs
  exact ⟨tokens, hrun.tail trivial h⟩

/-- What holds initially and is preserved in reachable states holds along every
restricted run. -/
theorem ReachableVia.induction {ok : State τ → Action τ → Prop} {P : State τ → Prop}
    (start : ∀ tokens, P (deployed tokens))
    (step : ∀ s a s', Reachable tok self s → ok s a → Effect tok self s a s' → P s → P s')
    (h : ReachableVia tok self ok s) : P s := by
  obtain ⟨tokens, hrun⟩ := h
  have hall : Reachable tok self s ∧ P s := by
    refine Steps.preserves (P := fun s => Reachable tok self s ∧ P s) ?_ hrun
      ⟨⟨tokens, .refl _⟩, start tokens⟩
    rintro s a s' hok hn ⟨hs, hp⟩
    exact ⟨hs.step hn, step s a s' hs hok (next_effect hn) hp⟩
  exact hall.2

end Staking
