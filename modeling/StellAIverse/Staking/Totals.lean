import StellAIverse.Staking.Invariants

/-!
# The stake totals

The contract keeps the sum of all active stakes and the sum of their weights. A
weight is not stored with its position: it is computed from the tier, when the
position enters and again when it leaves, and `update_tier` may change the
multiplier in between.
-/

namespace Staking

open Soroban

variable {τ : Type} {tok : Token τ} {self : Address} {s s' : State τ} {a : Action τ}

/-- Sum of `v` over the active positions. -/
def activeTotal (v : StakePosition → ℤ) (positions : Store ℕ StakePosition) : ℤ :=
  positions.total fun _ p => if p.active = true then v p else 0

section ActiveTotal

variable {v : StakePosition → ℤ} {positions : Store ℕ StakePosition} {id : ℕ} {p : StakePosition}

theorem activeTotal_close (hk : positions.get? id = some p) (hactive : p.active = true) :
    activeTotal v (positions.set id { p with active := false }) = activeTotal v positions - v p := by
  unfold activeTotal
  rw [Store.total_set, Store.weight_some hk, if_pos hactive]
  simp

theorem activeTotal_open (hk : positions.get? id = none) (hactive : p.active = true) :
    activeTotal v (positions.set id p) = activeTotal v positions + v p := by
  unfold activeTotal
  rw [Store.total_set, Store.weight_none hk, if_pos hactive, sub_zero]

/-- Replacing a position by one that is as active. -/
theorem activeTotal_replace {p' : StakePosition} (hk : positions.get? id = some p)
    (hactive : p.active = true) (hactive' : p'.active = true) :
    activeTotal v (positions.set id p') = activeTotal v positions - v p + v p' := by
  unfold activeTotal
  rw [Store.total_set, Store.weight_some hk, if_pos hactive, if_pos hactive']

theorem activeTotal_nonneg (h : ∀ id p, positions.get? id = some p → p.active = true → 0 ≤ v p) :
    0 ≤ activeTotal v positions := by
  refine Store.total_nonneg fun id p hk => ?_
  split
  · rename_i hactive
    exact h id p hk hactive
  · exact le_rfl

theorem le_activeTotal (h : ∀ id p, positions.get? id = some p → p.active = true → 0 ≤ v p)
    (hk : positions.get? id = some p) (hactive : p.active = true) :
    v p ≤ activeTotal v positions := by
  have hle := Store.weight_le_total (w := fun _ p => if p.active = true then v p else 0)
    (s := positions) id fun id' p' hk' => by
      split
      · rename_i hactive'
        exact h id' p' hk' hactive'
      · exact le_rfl
  rw [Store.weight_some hk, if_pos hactive] at hle
  exact hle

theorem activeTotal_congr {v' : StakePosition → ℤ}
    (h : ∀ id p, positions.get? id = some p → p.active = true → v p = v' p) :
    activeTotal v positions = activeTotal v' positions := by
  refine Store.total_congr fun id p hk => ?_
  split
  · rename_i hactive
    exact h id p hk hactive
  · rfl

theorem activeTotal_eq_zero (h : ∀ id p, positions.get? id = some p → p.active = false) :
    activeTotal v positions = 0 := by
  refine Store.total_eq_zero fun id p hk => ?_
  simp [h id p hk]

/-- Moving snapshots leaves every sum that does not read them. -/
theorem activeTotal_settleStore {rpt : ℤ} (list : List (ℕ × ℤ))
    (hv : ∀ (p : StakePosition) (r : ℤ), v { p with rewardPerTokenPaid := r } = v p) :
    activeTotal v (settleStore rpt list positions) = activeTotal v positions := by
  induction list generalizing positions with
  | nil => rfl
  | cons entry rest ih =>
    obtain ⟨id, pending⟩ := entry
    unfold settleStore
    split
    · cases hk : positions.get? id with
      | none => exact ih
      | some p =>
        refine ih.trans ?_
        unfold activeTotal
        rw [Store.total_set, Store.weight_some hk]
        simp only [hv]
        ring
    · exact ih

end ActiveTotal

def multiplierOf (tiers : Store ℕ StakingTier) (tierId : ℕ) : ℕ :=
  match tiers.get? tierId with
  | some tier => tier.rewardMultiplierBps
  | none => 0

theorem multiplierOf_some {tiers : Store ℕ StakingTier} {tierId : ℕ} {tier : StakingTier}
    (h : tiers.get? tierId = some tier) : multiplierOf tiers tierId = tier.rewardMultiplierBps := by
  simp [multiplierOf, h]

theorem multiplierOf_set (tiers : Store ℕ StakingTier) (id tierId : ℕ) (tier : StakingTier) :
    multiplierOf (tiers.set id tier) tierId =
      if tierId = id then tier.rewardMultiplierBps else multiplierOf tiers tierId := by
  unfold multiplierOf
  rw [Store.get?_set]
  by_cases he : tierId = id <;> simp [he]

/-- The weight of a position under the present tiers. -/
def positionWeight (tiers : Store ℕ StakingTier) (p : StakePosition) : ℤ :=
  weightOf p.amount (multiplierOf tiers p.tierId)

def stakedSum (s : State τ) : ℤ := activeTotal (·.amount) s.stakePosition

def weightSum (s : State τ) : ℤ := activeTotal (positionWeight s.tier) s.stakePosition

/-- An update of a tier leaves the weight of every active position of the tier. -/
def Action.KeepsWeights (s : State τ) : Action τ → Prop
  | .call _ (.updateTier _ tierId new) =>
    ∀ tier multiplier, s.tier.get? tierId = some tier → new.rewardMultiplierBps = some multiplier →
      ∀ id p, s.stakePosition.get? id = some p → p.active = true → p.tierId = tierId →
        weightOf p.amount multiplier = weightOf p.amount tier.rewardMultiplierBps
  | _ => True

structure StakeLedger (s : State τ) : Prop where
  staked : s.totalStaked = stakedSum s
  staked_le : s.totalStaked ≤ I128.max

structure WeightLedger (s : State τ) : Prop where
  weighted : s.totalWeightedStake = weightSum s
  weighted_le : s.totalWeightedStake ≤ I128.max

theorem weightOf_nonneg {amount : ℤ} (h : 0 ≤ amount) (bps : ℕ) : 0 ≤ weightOf amount bps :=
  Int.tdiv_nonneg (mul_nonneg h (Int.natCast_nonneg _)) (by decide)

theorem WellFormed.weight_nonneg (hw : WellFormed s) {id : ℕ} {p : StakePosition}
    (hk : s.stakePosition.get? id = some p) : 0 ≤ positionWeight s.tier p :=
  weightOf_nonneg (hw.positions id p hk).2.2.le _

theorem WellFormed.fresh (hw : WellFormed s) : s.stakePosition.get? (s.stakeCounter + 1) = none := by
  cases hk : s.stakePosition.get? (s.stakeCounter + 1) with
  | none => rfl
  | some p =>
    have := (hw.positions _ p hk).2.1
    omega

/-- Closing a position takes as much from each total as from its sum. -/
theorem closed_totals {id : ℕ} {p : StakePosition} {tier : StakingTier}
    (hk : s.stakePosition.get? id = some p) (hactive : p.active = true)
    (htier : s.tier.get? p.tierId = some tier) :
    stakedSum (closed s id p tier.rewardMultiplierBps) = stakedSum s - p.amount ∧
    weightSum (closed s id p tier.rewardMultiplierBps) =
      weightSum s - weightOf p.amount tier.rewardMultiplierBps := by
  refine ⟨activeTotal_close hk hactive, ?_⟩
  have hclose : weightSum (closed s id p tier.rewardMultiplierBps) =
      weightSum s - positionWeight s.tier p := activeTotal_close hk hactive
  rw [hclose, positionWeight, multiplierOf_some htier]

theorem Closings.totals {user : Address} {ids : List ℕ} {total : ℤ}
    (h : Closings user ids s total s') (hw : WellFormed s) :
    s'.totalStaked - stakedSum s' = s.totalStaked - stakedSum s ∧
    s'.totalWeightedStake - weightSum s' = s.totalWeightedStake - weightSum s ∧
    s'.totalStaked = s.totalStaked - total ∧ 0 ≤ total ∧
    s'.totalWeightedStake ≤ s.totalWeightedStake := by
  induction h with
  | nil => simp
  | skip _ _ _ _ _ _ _ _ _ ih => exact ih hw
  | close id rest p tier s s' total stored mine active tiered tail ih =>
    have hl : LaterStore 0 s.stakePosition _ := .set stored (.closes p)
    have hw' : WellFormed (closed s id p tier.rewardMultiplierBps) := hw.later hl rfl rfl rfl rfl
    obtain ⟨h1, h2, h3, h4, h5⟩ := ih hw'
    obtain ⟨hs, hwt⟩ := closed_totals stored active tiered
    have hamount := (hw.positions id p stored).2.2
    have hweight := weightOf_nonneg hamount.le tier.rewardMultiplierBps
    have htotal : (closed s id p tier.rewardMultiplierBps).totalStaked =
      s.totalStaked - p.amount := rfl
    have hweighted : (closed s id p tier.rewardMultiplierBps).totalWeightedStake =
      s.totalWeightedStake - weightOf p.amount tier.rewardMultiplierBps := rfl
    exact ⟨by omega, by omega, by omega, by omega, by omega⟩

theorem stakeLedger_step (hu : Untouched s) (hw : WellFormed s) (hl : StakeLedger s)
    (h : Effect tok self s a s') : StakeLedger s' := by
  obtain ⟨hsum, hle⟩ := hl
  cases h with
  | initializeContract _ _ _ _ fresh =>
    refine ⟨(activeTotal_eq_zero fun id p hk => ?_).symm, I128.inRange_zero.2⟩
    rw [hu.positions fresh] at hk
    cases hk
  | stake env user _ amount tierId tier _ _ _ _ _ _ fits =>
    refine ⟨?_, fits.1.2⟩
    simp only [stakedSum] at hsum ⊢
    rw [activeTotal_open hw.fresh rfl, hsum]
  | unstake _ _ _ id p tier _ _ _ _ _ stored _ active =>
    have hamount := (hw.positions id p stored).2.2
    refine ⟨?_, by simp only [closed, settled]; omega⟩
    simp only [stakedSum, closed, settled] at hsum ⊢
    rw [activeTotal_close stored active, hsum]
  | claimRewards _ _ _ id p _ _ _ stored _ active =>
    refine ⟨?_, hle⟩
    simp only [stakedSum, settled] at hsum ⊢
    rw [activeTotal_replace stored active (by exact active), hsum]
    ring
  | claimRewardsBatch =>
    refine ⟨?_, hle⟩
    simp only [stakedSum, settled] at hsum ⊢
    rw [activeTotal_settleStore _ fun _ _ => rfl, hsum]
  | emergencyWithdraw _ _ _ _ id p tier _ _ stored _ active =>
    have hamount := (hw.positions id p stored).2.2
    refine ⟨?_, by simp only [closed]; omega⟩
    simp only [stakedSum, closed] at hsum ⊢
    rw [activeTotal_close stored active, hsum]
  | emergencyWithdrawAll _ _ _ total s₁ _ _ _ closings =>
    obtain ⟨hstaked, -, htotal, hnonneg, -⟩ := closings.totals hw
    have hsum' : s₁.totalStaked = stakedSum s₁ := by omega
    exact ⟨hsum', by simp only; omega⟩
  | _ => exact ⟨hsum, hle⟩

/-- Tiers may change as long as they give the active positions the same weights. -/
theorem WeightLedger.retier (hl : WeightLedger s)
    (hweighted : s'.totalWeightedStake = s.totalWeightedStake)
    (hpositions : s'.stakePosition = s.stakePosition)
    (h : ∀ id p, s.stakePosition.get? id = some p → p.active = true →
      positionWeight s'.tier p = positionWeight s.tier p) : WeightLedger s' where
  weighted := by
    rw [hweighted, hl.weighted, weightSum, weightSum, hpositions]
    exact (activeTotal_congr h).symm
  weighted_le := by
    rw [hweighted]
    exact hl.weighted_le

theorem weightLedger_step (hu : Untouched s) (hw : WellFormed s) (hl : WeightLedger s)
    (hkeep : a.KeepsWeights s) (h : Effect tok self s a s') : WeightLedger s' := by
  have hsum := hl.weighted
  have hle := hl.weighted_le
  cases h with
  | initializeContract _ _ _ _ fresh =>
    refine ⟨(activeTotal_eq_zero fun id p hk => ?_).symm, I128.inRange_zero.2⟩
    rw [hu.positions fresh] at hk
    cases hk
  | addTier =>
    refine hl.retier rfl rfl fun id p hk _ => ?_
    obtain ⟨-, tier, htier⟩ := hw.tiered id p hk
    have hid := (hw.tiers _ tier htier).2
    rw [positionWeight, multiplierOf_set, if_neg (by omega)]
    rfl
  | updateTier _ _ tierId new tier _ stored =>
    refine hl.retier rfl rfl fun id p hk hactive => ?_
    rw [positionWeight, multiplierOf_set]
    split
    · rename_i he
      rw [positionWeight, he, multiplierOf_some stored]
      exact updated_field (P := fun m => weightOf p.amount m = _) rfl
        fun multiplier hnew => hkeep tier multiplier stored hnew id p hk hactive he
    · rfl
  | deactivateTier _ _ tierId tier _ stored =>
    refine hl.retier rfl rfl fun id p hk _ => ?_
    rw [positionWeight, multiplierOf_set]
    split
    · rename_i he
      rw [positionWeight, he, multiplierOf_some stored]
    · rfl
  | stake env user _ amount tierId tier _ _ stored _ _ _ fits =>
    refine ⟨?_, fits.2.2⟩
    simp only [weightSum, settled] at hsum ⊢
    rw [activeTotal_open hw.fresh rfl, hsum, positionWeight, multiplierOf_some stored]
  | unstake _ _ _ id p tier _ _ _ _ _ stored _ active tiered =>
    have hweight := weightOf_nonneg (hw.positions id p stored).2.2.le tier.rewardMultiplierBps
    refine ⟨?_, by simp only [closed, settled]; omega⟩
    simp only [weightSum, closed, settled] at hsum ⊢
    rw [activeTotal_close stored active, hsum, positionWeight, multiplierOf_some tiered]
  | claimRewards _ _ _ id p _ _ _ stored _ active =>
    refine ⟨?_, hle⟩
    simp only [weightSum, settled] at hsum ⊢
    rw [activeTotal_replace stored active (by exact active), hsum]
    simp only [positionWeight]
    ring
  | claimRewardsBatch =>
    refine ⟨?_, hle⟩
    simp only [weightSum, settled] at hsum ⊢
    rw [activeTotal_settleStore _ fun _ _ => rfl, hsum]
  | emergencyWithdraw _ _ _ _ id p tier _ _ stored _ active tiered =>
    have hweight := weightOf_nonneg (hw.positions id p stored).2.2.le tier.rewardMultiplierBps
    refine ⟨?_, by simp only [closed]; omega⟩
    simp only [weightSum, closed] at hsum ⊢
    rw [activeTotal_close stored active, hsum, positionWeight, multiplierOf_some tiered]
  | emergencyWithdrawAll _ _ _ total s₁ _ _ _ closings =>
    obtain ⟨-, hweight, -, -, hfall⟩ := closings.totals hw
    have hsum' : s₁.totalWeightedStake = weightSum s₁ := by omega
    exact ⟨hsum', by simp only; omega⟩
  | _ => exact ⟨hsum, hle⟩

/-- The faults of the two subtractions from the totals. -/
def TotalsFault (e : Fault) : Prop :=
  e = .panic "Total staked underflow" ∨ e = .panic "Total weighted underflow"

section Faults

variable {env : Env} {e : Fault}

theorem TotalsFault.ne_panic (he : TotalsFault e) {message : String}
    (h : message ≠ "Total staked underflow" ∧ message ≠ "Total weighted underflow") :
    e ≠ .panic message := by
  rintro rfl
  rcases he with he | he
  · exact h.1 (Fault.panic.inj he)
  · exact h.2 (Fault.panic.inj he)

theorem TotalsFault.ne_host (he : TotalsFault e) :
    e ≠ .overflow ∧ e ≠ .divisionByZero ∧ e ≠ .unauthorized ∧ e ≠ .callFailed := by
  rcases he with rfl | rfl <;> simp

theorem loadStake_avoids (he : TotalsFault e) {id : ℕ} : Avoids e (loadStake s id) :=
  (panicIf_avoids (he.ne_panic (by decide))).bind fun _ _ =>
    expect_avoids (he.ne_panic (by decide))

theorem loadTier_avoids (he : TotalsFault e) {id : ℕ} : Avoids e (loadTier s id) :=
  (panicIf_avoids (he.ne_panic (by decide))).bind fun _ _ =>
    expect_avoids (he.ne_panic (by decide))

theorem loadStake_ok {id : ℕ} {p : StakePosition} (h : loadStake s id = .ok p) :
    s.stakePosition.get? id = some p := by
  unfold loadStake at h
  rw [panicIf_bind, expect_ok] at h
  exact h.2

theorem loadTier_ok {id : ℕ} {tier : StakingTier} (h : loadTier s id = .ok tier) :
    s.tier.get? id = some tier := by
  unfold loadTier at h
  rw [panicIf_bind, expect_ok] at h
  exact h.2

theorem calculateWeight_avoids (he : TotalsFault e) {amount : ℤ} {bps : ℕ} :
    Avoids e (calculateWeight amount bps) :=
  (I128.checked_avoids (he.ne_panic (by decide))).bind fun _ _ =>
    I128.div_avoids_of_ne he.ne_host.2.1 he.ne_host.1

theorem rewardIncrement_avoids (he : TotalsFault e) {rate W : ℤ} {elapsed : ℕ} :
    Avoids e (rewardIncrement rate elapsed W) :=
  (I128.checked_avoids (he.ne_panic (by decide))).bind fun _ _ =>
    (I128.checked_avoids (he.ne_panic (by decide))).bind fun _ _ =>
      I128.div_avoids_of_ne he.ne_host.2.1 he.ne_host.1

theorem updatePool_avoids (he : TotalsFault e) : Avoids e (updatePool env s) := by
  unfold updatePool
  split
  · exact avoids_ok _
  · split
    · exact avoids_ok _
    · refine (rewardIncrement_avoids he).bind fun _ _ => ?_
      exact (I128.checked_avoids (he.ne_panic (by decide))).bind fun _ _ => avoids_ok _

theorem futureRewardPerToken_avoids (he : TotalsFault e) :
    Avoids e (futureRewardPerToken env s) := by
  unfold futureRewardPerToken
  split
  · exact (rewardIncrement_avoids he).bind fun _ _ =>
      I128.checked_avoids (he.ne_panic (by decide))
  · exact avoids_ok _

theorem calculatePendingRewardsStatic_avoids (he : TotalsFault e) {p : StakePosition} {bps : ℕ} :
    Avoids e (calculatePendingRewardsStatic env s p bps) := by
  unfold calculatePendingRewardsStatic
  split
  · exact avoids_ok _
  · split
    · exact avoids_ok _
    · refine (futureRewardPerToken_avoids he).bind fun _ _ => ?_
      refine (calculateWeight_avoids he).bind fun _ _ => ?_
      refine (I128.checked_avoids (he.ne_panic (by decide))).bind fun _ _ => ?_
      refine (I128.checked_avoids (he.ne_panic (by decide))).bind fun _ _ => ?_
      exact I128.div_avoids_of_ne he.ne_host.2.1 he.ne_host.1

theorem exitTerms_avoids (he : TotalsFault e) {p : StakePosition} {bps : ℕ} :
    Avoids e (exitTerms env p bps) := by
  unfold exitTerms calculatePenalty
  split
  · refine Avoids.bind ?_ fun _ _ =>
      (I128.checked_avoids (he.ne_panic (by decide))).bind fun _ _ => avoids_ok _
    split
    · exact avoids_ok _
    · exact (I128.checked_avoids (he.ne_panic (by decide))).bind fun _ _ =>
        I128.div_avoids_of_ne he.ne_host.2.1 he.ne_host.1
  · exact avoids_ok _

theorem transferTokenUnchecked_avoids (he : TotalsFault e) {token source target : Address}
    {amount : ℤ} : Avoids e (transferTokenUnchecked tok s token source target amount) :=
  (panicIf_avoids (he.ne_panic (by decide))).bind fun _ _ =>
    (tok.pay_avoids he.ne_host.2.2.2).bind fun _ _ => avoids_ok _

theorem enterNonReentrant_avoids (he : TotalsFault e) : Avoids e (enterNonReentrant s) :=
  (panicIf_avoids (he.ne_panic (by decide))).bind fun _ _ => avoids_ok _

/-- Where the totals hold the position, neither subtraction underflows. -/
theorem deactivate_avoids {id : ℕ} {p : StakePosition} {bps : ℕ} (he : TotalsFault e)
    (hstaked : I128.InRange (s.totalStaked - p.amount))
    (hweighted : I128.InRange (s.totalWeightedStake - weightOf p.amount bps)) :
    Avoids e (deactivate s id p bps) := by
  refine (I128.checked_avoids_of_inRange hstaked).bind fun _ _ => ?_
  refine (calculateWeight_avoids he).bind fun w hw => ?_
  rw [(calculateWeight_ok hw).1]
  exact (I128.checked_avoids_of_inRange hweighted).bind fun _ _ => avoids_ok _

variable (hw : WellFormed s) (hs : StakeLedger s) (hl : WeightLedger s)
include hw hs hl

/-- The totals hold every active position. -/
theorem totals_cover {id : ℕ} {p : StakePosition} {tier : StakingTier}
    (hk : s.stakePosition.get? id = some p) (hactive : p.active = true)
    (htier : s.tier.get? p.tierId = some tier) :
    I128.InRange (s.totalStaked - p.amount) ∧
      I128.InRange (s.totalWeightedStake - weightOf p.amount tier.rewardMultiplierBps) := by
  have hmin := I128.inRange_zero.1
  have hamount := (hw.positions id p hk).2.2
  have hweight : 0 ≤ positionWeight s.tier p := hw.weight_nonneg hk
  have hstaked : p.amount ≤ stakedSum s :=
    le_activeTotal (v := (·.amount)) (fun id p hk _ => (hw.positions id p hk).2.2.le) hk hactive
  have hweighted : positionWeight s.tier p ≤ weightSum s :=
    le_activeTotal (fun _ _ hk _ => hw.weight_nonneg hk) hk hactive
  rw [positionWeight, multiplierOf_some htier] at hweight hweighted
  have := hs.staked
  have := hs.staked_le
  have := hl.weighted
  have := hl.weighted_le
  exact ⟨⟨by omega, by omega⟩, by omega, by omega⟩

theorem unstake_avoids (he : TotalsFault e) {user : Address} {id : ℕ} :
    Avoids e (unstake tok self env user id s) := by
  have other : ∀ {message : String}, message ≠ "Total staked underflow" ∧
      message ≠ "Total weighted underflow" → e ≠ .panic message := he.ne_panic
  unfold unstake
  refine (requireAuth_avoids he.ne_host.2.2.1).bind fun _ _ => ?_
  refine (loadStake_avoids he).bind fun p hp => ?_
  refine (panicIf_avoids (other (by decide))).bind fun _ _ => ?_
  refine (panicIf_avoids (other (by decide))).bind fun _ hactive => ?_
  refine (loadTier_avoids he).bind fun tier htier => ?_
  refine (calculatePendingRewardsStatic_avoids he).bind fun pending _ => ?_
  refine (updatePool_avoids he).bind fun s₁ hs₁ => ?_
  refine (exitTerms_avoids he).bind fun terms _ => ?_
  refine (I128.checked_avoids (other (by decide))).bind fun _ _ => ?_
  have hon : p.active = true := by simpa using panicIf_ok hactive
  have hcover := totals_cover hw hs hl (loadStake_ok hp) hon (loadTier_ok htier)
  obtain rfl := updatePool_ok hs₁
  have hclose : Avoids e (deactivate (settled env.timestamp s) id p tier.rewardMultiplierBps) :=
    deactivate_avoids he hcover.1 hcover.2
  refine hclose.bind fun s₂ _ => ?_
  refine Avoids.bind ?_ fun s₃ _ => ?_
  · unfold distributedPositive
    split
    · exact (I128.checked_avoids (other (by decide))).bind fun _ _ => avoids_ok _
    · exact avoids_ok _
  refine (expect_avoids (other (by decide))).bind fun token _ => ?_
  refine (enterNonReentrant_avoids he).bind fun s₄ _ => ?_
  have pays : ∀ {s : State τ} {amount : ℤ},
      Avoids e (transferPositive tok s token self user amount) := by
    intro s amount
    unfold transferPositive
    split
    · exact transferTokenUnchecked_avoids he
    · exact avoids_ok _
  exact pays.bind fun _ _ => pays.bind fun _ _ => avoids_ok _

theorem emergencyWithdraw_avoids (he : TotalsFault e) {admin user : Address} {id : ℕ} :
    Avoids e (emergencyWithdraw tok self env admin user id s) := by
  have other : ∀ {message : String}, message ≠ "Total staked underflow" ∧
      message ≠ "Total weighted underflow" → e ≠ .panic message := he.ne_panic
  unfold emergencyWithdraw
  refine (requireAuth_avoids he.ne_host.2.2.1).bind fun _ _ => ?_
  refine Avoids.bind ?_ fun _ _ => ?_
  · exact (expect_avoids (other (by decide))).bind fun _ _ => panicIf_avoids (other (by decide))
  refine (loadStake_avoids he).bind fun p hp => ?_
  refine (panicIf_avoids (other (by decide))).bind fun _ _ => ?_
  refine (panicIf_avoids (other (by decide))).bind fun _ hactive => ?_
  refine (loadTier_avoids he).bind fun tier htier => ?_
  have hon : p.active = true := by simpa using panicIf_ok hactive
  have hcover := totals_cover hw hs hl (loadStake_ok hp) hon (loadTier_ok htier)
  refine (deactivate_avoids he hcover.1 hcover.2).bind fun s₁ _ => ?_
  refine (expect_avoids (other (by decide))).bind fun token _ => ?_
  refine Avoids.bind ?_ fun _ _ => avoids_ok _
  refine (enterNonReentrant_avoids he).bind fun s₂ _ => ?_
  exact (transferTokenUnchecked_avoids he).bind fun _ _ => avoids_ok _

end Faults

theorem Reachable.stakeLedger (hs : Reachable tok self s) : StakeLedger s := by
  refine ReachableVia.induction (P := StakeLedger) (fun tokens => ⟨rfl, I128.inRange_zero.2⟩) ?_ hs
  intro s a s' hr _ heff hl
  exact stakeLedger_step hr.invariants.1 hr.wellFormed hl heff

theorem ReachableVia.weightLedger (h : ReachableVia tok self (fun s a => a.KeepsWeights s) s) :
    WeightLedger s := by
  refine ReachableVia.induction (P := WeightLedger) (fun tokens => ⟨rfl, I128.inRange_zero.2⟩) ?_ h
  intro s a s' hr hkeep heff hl
  exact weightLedger_step hr.invariants.1 hr.wellFormed hl hkeep heff

/-- While no update of a tier re-weighs an active position, both totals are the
sums over the active positions, no exit fails on them, and they are zero once
every position is closed. -/
theorem totals_are_sums (h : ReachableVia tok self (fun s a => a.KeepsWeights s) s) :
    (s.totalStaked = stakedSum s ∧ s.totalWeightedStake = weightSum s) ∧
    (∀ e, TotalsFault e → (∀ env user id, unstake tok self env user id s ≠ .error e) ∧
      ∀ env admin user id, emergencyWithdraw tok self env admin user id s ≠ .error e) ∧
    ((∀ id p, s.stakePosition.get? id = some p → p.active = false) →
      s.totalStaked = 0 ∧ s.totalWeightedStake = 0) := by
  have hw := h.reachable.wellFormed
  have hs := h.reachable.stakeLedger
  have hl := h.weightLedger
  refine ⟨⟨hs.staked, hl.weighted⟩, fun e he => ⟨fun env user id => ?_, fun env admin user id => ?_⟩,
    fun hnone => ?_⟩
  · exact unstake_avoids hw hs hl he
  · exact emergencyWithdraw_avoids hw hs hl he
  · rw [hs.staked, hl.weighted]
    exact ⟨activeTotal_eq_zero hnone, activeTotal_eq_zero hnone⟩

namespace Sample

def contract : Address := ⟨0⟩

def admin : Address := ⟨1⟩

def usdc : Address := ⟨2⟩

def alice : Address := ⟨3⟩

def bob : Address := ⟨4⟩

def envAt (now : ℕ) : Env := ⟨now, fun _ => true⟩

def start : State Balances :=
  deployed (Balances.issue [(usdc, alice, 10 ^ 6), (usdc, bob, 10 ^ 6)])

def call (now : ℕ) (op : Op) : Action Balances := .call (envAt now) op

def run (calls : List (Action Balances)) : Result (State Balances) :=
  execute (next asset contract) calls start

theorem run_reachable {calls : List (Action Balances)} {s : State Balances}
    (h : run calls = .ok s) : Reachable asset contract s :=
  ⟨_, execute_steps _ (fun _ _ _ => trivial) h⟩

/-- One tier without a bonus, and a stake of alice's in it. -/
def opened (rate : ℤ) : List (Action Balances) := [
  call 0 (.initializeContract admin usdc rate),
  call 0 (.addTier admin "base" 1 100 10000 500),
  call 0 (.stake alice 1000 1)]

/-- An update of nothing but the multiplier. -/
def reweigh (multiplier : ℕ) : TierUpdate := ⟨none, none, none, some multiplier, none⟩

end Sample

section Runs

open Sample

/-- A multiplier that rounds to the same weight. -/
theorem totals_are_sums_same_weight :
    ∃ s s' : State Balances, run (opened 10) = .ok s ∧
      next asset contract (call 5 (.updateTier admin 1 (reweigh 10009))) s = .ok s' ∧
      s'.totalStaked = 1000 ∧ s'.totalWeightedStake = 1000 ∧
      s'.totalWeightedStake = weightSum s' := by
  have h : After (fun s => s.stakeCounter = 1 ∧
      (∀ p ∈ s.stakePosition.get? 1, p.amount = 1000) ∧
      (∀ tier ∈ s.tier.get? 1, tier.rewardMultiplierBps = 10000) ∧
      After (fun s' => s'.totalStaked = 1000 ∧ s'.totalWeightedStake = 1000)
        (next asset contract (call 5 (.updateTier admin 1 (reweigh 10009))) s))
      (run (opened 10)) := by
    decide +kernel
  obtain ⟨s, hs, hcount, hamount, htier, hupdate⟩ := h.exists_ok
  obtain ⟨s', hs', hstaked, hweighted⟩ := hupdate.exists_ok
  have hkeep : (call 5 (.updateTier admin 1 (reweigh 10009))).KeepsWeights s := by
    intro tier multiplier hstored hnew id p hk _ _
    have hid := (run_reachable hs).wellFormed.positions id p hk
    obtain rfl : id = 1 := by omega
    cases hnew
    rw [hamount p hk, htier tier hstored]
    rfl
  have hvia : ReachableVia asset contract (fun s a => a.KeepsWeights s) s' := by
    refine ⟨_, (execute_steps _ ?_ hs).tail hkeep hs'⟩
    intro a ha s
    simp only [opened, List.mem_cons, List.not_mem_nil, or_false] at ha
    rcases ha with rfl | rfl | rfl <;> trivial
  obtain ⟨⟨-, hsum⟩, -⟩ := totals_are_sums hvia
  exact ⟨s, s', hs, hs', hstaked, hweighted, hsum⟩

/-- Doubling the multiplier under alice's stake. -/
theorem totals_drift : ¬ ∀ s : State Balances, Reachable asset contract s →
    s.totalStaked = stakedSum s ∧ s.totalWeightedStake = weightSum s := by
  intro hall
  have h : After (fun s => s.totalWeightedStake ≠ weightSum s)
      (run (opened 10 ++ [call 5 (.updateTier admin 1 (reweigh 20000))])) := by
    decide +kernel
  obtain ⟨s, hs, hne⟩ := h.exists_ok
  exact hne (hall s (run_reachable hs)).2

end Runs

end Staking
