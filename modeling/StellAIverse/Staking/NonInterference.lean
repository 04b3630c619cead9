import StellAIverse.Staking.Backing

/-!
# Rewards of bystanders

What is pending on a position is projected from the global weight, the rate and
the time of the last update. An operation that changes one of these has to settle
the accumulator first, or it changes what everybody else has earned.
-/

namespace Staking

open Soroban

variable {τ : Type} {tok : Token τ} {self : Address} {s s' : State τ} {env : Env}

/-- The positions that an operation claims or closes. -/
def Op.Touches (id : ℕ) (p : StakePosition) : Op → Prop
  | .unstake _ stakeId => id = stakeId
  | .claimRewards _ stakeId => id = stakeId
  | .claimRewardsBatch _ stakeIds => id ∈ stakeIds
  | .emergencyWithdraw _ _ stakeId => id = stakeId
  | .emergencyWithdrawAll _ user => p.user = user
  | _ => False

/-- Weight of one user's active positions. -/
def userWeight (user : Address) (s : State τ) : ℤ :=
  activeTotal (fun p => if p.user = user then positionWeight s.tier p else 0) s.stakePosition

/-- The weight of the active positions that an exit closes. -/
def leavingWeight (s : State τ) : Op → ℤ
  | .unstake _ id => (s.stakePosition.get? id).elim 0 (positionWeight s.tier)
  | .emergencyWithdraw _ _ id => (s.stakePosition.get? id).elim 0 (positionWeight s.tier)
  | .emergencyWithdrawAll _ user => userWeight user s
  | _ => 0

/-- The active positions that the operation leaves alone weigh nothing. -/
def RestWeightless (s : State τ) (op : Op) : Prop :=
  ∀ id p tier, s.stakePosition.get? id = some p → p.active = true → ¬ op.Touches id p →
    s.tier.get? p.tierId = some tier → calculateWeight p.amount tier.rewardMultiplierBps = .ok 0

/-- Nothing has been emitted since the last update. -/
def UpToDate (env : Env) (s : State τ) : Prop :=
  env.timestamp ≤ s.lastRewardTime ∨ s.rewardRatePerSecond = 0

/-- The total weight stays on its side of zero, where rewards begin. -/
def KeepsSign (s : State τ) (weight : ℤ) (op : Op) : Prop :=
  (0 < s.totalWeightedStake ↔ 0 < weight) ∨ RestWeightless s op

/-- Operations that leave the bystanders' rewards: an emergency exit when the
accumulator is up to date or nothing of weight leaves, an update of a tier that
changes no active weight, and every other one that does not carry a total weight
that has lost its positions across zero. -/
def Undisturbing (env : Env) (s : State τ) (op : Op) : Prop :=
  match op with
  | .stake _ amount tierId =>
    KeepsSign s (s.totalWeightedStake + weightOf amount (multiplierOf s.tier tierId)) op
  | .unstake _ _ => KeepsSign s (s.totalWeightedStake - leavingWeight s op) op
  | .emergencyWithdraw _ _ _ | .emergencyWithdrawAll _ _ =>
    s.totalWeightedStake ≤ 0 ∨ leavingWeight s op = 0 ∨
      UpToDate env s ∧ KeepsSign s (s.totalWeightedStake - leavingWeight s op) op
  | .updateTier _ tierId new =>
    s.totalWeightedStake ≤ 0 ∨
      ∀ tier multiplier, s.tier.get? tierId = some tier → new.rewardMultiplierBps = some multiplier →
        ∀ id p, s.stakePosition.get? id = some p → p.active = true → p.tierId = tierId →
          calculateWeight p.amount multiplier = calculateWeight p.amount tier.rewardMultiplierBps
  | _ => True

section Projection

variable {p : StakePosition} {bps bps' : ℕ}

/-- Pending rewards read the accumulator only through its projection, and that
only where there is weight. -/
theorem static_congr
    (hsign : 0 < s.totalWeightedStake ↔ 0 < s'.totalWeightedStake)
    (hfuture : 0 < s.totalWeightedStake →
      futureRewardPerToken env s = futureRewardPerToken env s')
    (hweight : 0 < s.totalWeightedStake →
      calculateWeight p.amount bps = calculateWeight p.amount bps') :
    calculatePendingRewardsStatic env s p bps = calculatePendingRewardsStatic env s' p bps' := by
  unfold calculatePendingRewardsStatic
  by_cases hW : 0 < s.totalWeightedStake
  · have hW' := hsign.mp hW
    rw [if_neg (not_le.mpr hW), if_neg (not_le.mpr hW'), hfuture hW, hweight hW]
  · have hW' : ¬ 0 < s'.totalWeightedStake := fun h => hW (hsign.mpr h)
    rw [if_pos (not_lt.mp hW), if_pos (not_lt.mp hW')]

/-- A position without weight has nothing pending. -/
theorem static_weightless (hweight : calculateWeight p.amount bps = .ok 0)
    (hfuture : 0 < s.totalWeightedStake → ∃ rpt, futureRewardPerToken env s = .ok rpt ∧
      I128.InRange (rpt - p.rewardPerTokenPaid)) :
    calculatePendingRewardsStatic env s p bps = .ok 0 := by
  unfold calculatePendingRewardsStatic
  split
  · rfl
  · split
    · rfl
    · rename_i hW
      obtain ⟨rpt, hrpt, hfits⟩ := hfuture (not_le.mp hW)
      rw [hrpt, ok_bind, hweight, ok_bind, I128.checked_of_inRange hfits, ok_bind, mul_zero,
        I128.checked_of_inRange I128.inRange_zero, ok_bind]
      rfl

theorem future_of_settles (h : updatePool env s = .ok (settled env.timestamp s))
    (hW : 0 < s.totalWeightedStake) :
    futureRewardPerToken env s = .ok (rptAt env.timestamp s) := by
  unfold futureRewardPerToken
  split
  · rename_i hlater
    unfold updatePool at h
    rw [if_neg (not_le.mpr hlater), if_neg (not_le.mpr hW)] at h
    obtain ⟨increment, hincrement, h⟩ := bind_ok.mp h
    rw [I128.checked_bind] at h
    rw [hincrement, ok_bind, I128.checked_of_inRange h.1, rewardIncrement_ok hincrement, rptAt,
      if_pos ⟨hlater, hW⟩]
  · rename_i hpast
    rw [rptAt, if_neg (fun hc => hpast hc.1)]

theorem future_of_past (h : env.timestamp ≤ s.lastRewardTime) :
    futureRewardPerToken env s = .ok s.rewardPerTokenStored :=
  if_neg (not_lt.mpr h)

theorem future_of_upToDate (ha : Accrued s) (hW : 0 < s.totalWeightedStake)
    (h : UpToDate env s) : futureRewardPerToken env s = .ok s.rewardPerTokenStored := by
  rcases h with hpast | hrate
  · exact future_of_past hpast
  · have hfits : I128.InRange s.rewardPerTokenStored := by
      have := ha.rpt
      have := I128.inRange_zero.1
      exact ⟨by omega, by omega⟩
    have hnone : rewardIncrement s.rewardRatePerSecond (env.timestamp - s.lastRewardTime)
        s.totalWeightedStake = .ok 0 := by
      unfold rewardIncrement
      simp only [I128.checked_bind, I128.div_ok, hrate, zero_mul, Int.zero_tdiv]
      exact ⟨I128.inRange_zero, I128.inRange_zero, hW.ne', I128.inRange_zero, trivial⟩
    unfold futureRewardPerToken
    split
    · rw [hnone, ok_bind, add_zero, I128.checked_of_inRange hfits]
    · rfl

/-- A step that settled the accumulator first. -/
theorem static_settled (ha : Accrued s) (ha' : Accrued s') {id : ℕ}
    (hk : s.stakePosition.get? id = some p)
    (settles : updatePool env s = .ok (settled env.timestamp s))
    (hrpt : s'.rewardPerTokenStored = rptAt env.timestamp s)
    (hlast : s'.lastRewardTime = max s.lastRewardTime env.timestamp)
    (hsign : (0 < s.totalWeightedStake ↔ 0 < s'.totalWeightedStake) ∨
      calculateWeight p.amount bps = .ok 0) :
    calculatePendingRewardsStatic env s' p bps = calculatePendingRewardsStatic env s p bps := by
  have hfuture := future_of_settles settles
  have hfuture' : futureRewardPerToken env s' = .ok (rptAt env.timestamp s) := by
    rw [← hrpt]
    exact future_of_past (by rw [hlast]; exact le_max_right _ _)
  rcases hsign with hsign | hweightless
  · exact (static_congr hsign (fun hW => (hfuture hW).trans hfuture'.symm)
      fun _ => rfl).symm
  · have hfits : I128.InRange (rptAt env.timestamp s - p.rewardPerTokenPaid) := by
      have hpaid := ha.paid id p hk
      have hrise := rptAt_ge ha.rate env.timestamp
      have hmax := ha'.rpt.2
      have hmin := I128.inRange_zero.1
      rw [hrpt] at hmax
      exact ⟨by omega, by omega⟩
    rw [static_weightless hweightless fun hW => ⟨_, hfuture hW, hfits⟩,
      static_weightless hweightless fun _ => ⟨_, hfuture', hfits⟩]

/-- A step that took weight away and did not touch the accumulator. -/
theorem static_unsettled (ha : Accrued s) (ha' : Accrued s') {id : ℕ} {weight : ℤ}
    (hk : s.stakePosition.get? id = some p)
    (hrpt : s'.rewardPerTokenStored = s.rewardPerTokenStored)
    (hlast : s'.lastRewardTime = s.lastRewardTime)
    (hrate : s'.rewardRatePerSecond = s.rewardRatePerSecond) (hweight : 0 ≤ weight)
    (hW' : s'.totalWeightedStake = s.totalWeightedStake - weight)
    (h : s.totalWeightedStake ≤ 0 ∨ weight = 0 ∨ UpToDate env s ∧
      ((0 < s.totalWeightedStake ↔ 0 < s.totalWeightedStake - weight) ∨
        calculateWeight p.amount bps = .ok 0)) :
    calculatePendingRewardsStatic env s' p bps = calculatePendingRewardsStatic env s p bps := by
  rcases h with hnone | rfl | ⟨hdate, hsign⟩
  · refine (static_congr ?_ ?_ fun _ => rfl).symm
    · omega
    · omega
  · rw [sub_zero] at hW'
    refine (static_congr (by rw [hW']) (fun _ => ?_) fun _ => rfl).symm
    unfold futureRewardPerToken
    rw [hrpt, hlast, hrate, hW']
  · have hdate' : UpToDate env s' := by
      unfold UpToDate
      rw [hlast, hrate]
      exact hdate
    have hfuture := fun hW => future_of_upToDate ha hW hdate
    have hfuture' := fun hW => future_of_upToDate ha' hW hdate'
    rw [hrpt] at hfuture'
    rcases hsign with hsign | hweightless
    · rw [← hW'] at hsign
      exact (static_congr hsign
        (fun hW => (hfuture hW).trans (hfuture' (hsign.mp hW)).symm) fun _ => rfl).symm
    · have hfits : I128.InRange (s.rewardPerTokenStored - p.rewardPerTokenPaid) := by
        have hpaid := ha.paid id p hk
        have hmax := ha.rpt.2
        have hmin := I128.inRange_zero.1
        exact ⟨by omega, by omega⟩
      rw [static_weightless hweightless fun hW => ⟨_, hfuture hW, hfits⟩,
        static_weightless hweightless fun hW => ⟨_, hfuture' hW, hfits⟩]

end Projection

theorem get?_settleStore {rpt : ℤ} {id : ℕ} {ids : List ℕ} (pendings : List ℤ)
    (positions : Store ℕ StakePosition) (h : id ∉ ids) :
    (settleStore rpt (ids.zip pendings) positions).get? id = positions.get? id := by
  induction ids generalizing pendings positions with
  | nil => rfl
  | cons id' ids ih =>
    simp only [List.mem_cons, not_or] at h
    obtain ⟨hne, hrest⟩ := h
    cases pendings with
    | nil => rfl
    | cons pending pendings =>
      simp only [List.zip_cons_cons, settleStore]
      split
      · cases hk : positions.get? id' with
        | none => exact ih pendings positions hrest
        | some p =>
          simp only
          rw [ih pendings _ hrest, Store.get?_set_ne _ _ hne]
      · exact ih pendings positions hrest

section Closings

variable {user : Address} {ids : List ℕ} {total : ℤ}

theorem Closings.get?_of_ne (h : Closings user ids s total s') {id : ℕ} {p : StakePosition}
    (hk : s.stakePosition.get? id = some p) (hne : p.user ≠ user) :
    s'.stakePosition.get? id = some p := by
  induction h with
  | nil => exact hk
  | skip _ _ _ _ _ _ _ _ _ ih => exact ih hk
  | close id' _ position _ _ _ _ stored mine _ _ _ ih =>
    refine ih ?_
    have hid : id ≠ id' := by
      rintro rfl
      rw [stored] at hk
      cases hk
      exact hne mine
    rw [closed, Store.get?_set_ne _ _ hid]
    exact hk

/-- Every listed position of the user is closed in the end. -/
theorem Closings.inactive (h : Closings user ids s total s') {id : ℕ} (hid : id ∈ ids)
    {p : StakePosition} (hk : s'.stakePosition.get? id = some p) (hmine : p.user = user) :
    p.active = false := by
  have off : ∀ {s s' : State τ} {rest : List ℕ} {sum : ℤ} {q : StakePosition},
      Closings user rest s sum s' → s.stakePosition.get? id = some q →
      (q.user ≠ user ∨ q.active = false) → s'.stakePosition.get? id = some p →
      p.active = false := by
    intro s s' rest sum q htail hq hoff hp
    have hl : LaterStore 0 s.stakePosition s'.stakePosition := htail.later
    obtain ⟨q', hq', hlater⟩ := hl id p hp
    rw [hq] at hq'
    cases hq'
    rcases hoff with hother | hoff
    · exact absurd (hlater.user ▸ hmine) hother
    · by_contra hon
      have hstill := hlater.active (by simpa using hon)
      rw [hoff] at hstill
      cases hstill
  induction h with
  | nil => cases hid
  | skip id' rest position s s' total stored other tail ih =>
    rcases List.mem_cons.mp hid with rfl | hrest
    · exact off tail stored other hk
    · exact ih hrest hk
  | close id' rest position tier s s' total stored mine active tiered tail ih =>
    rcases List.mem_cons.mp hid with rfl | hrest
    · exact off tail (Store.get?_set_self _ _ _) (.inr rfl) hk
    · exact ih hrest hk

theorem Closings.weight (h : Closings user ids s total s') :
    s'.totalWeightedStake - userWeight user s' = s.totalWeightedStake - userWeight user s := by
  induction h with
  | nil => rfl
  | skip _ _ _ _ _ _ _ _ _ ih => exact ih
  | close id _ p tier s _ _ stored mine active tiered _ ih =>
    rw [ih]
    have hclose : userWeight user (closed s id p tier.rewardMultiplierBps) =
        userWeight user s - if p.user = user then positionWeight s.tier p else 0 :=
      activeTotal_close stored active
    rw [hclose, if_pos mine, positionWeight, multiplierOf_some tiered]
    simp only [closed]
    omega

/-- Emergency withdrawal of everything takes the weight of everything away. -/
theorem Closings.weight_all (hw : WellFormed s) (h : Closings user (getUserStakeIds s user) s total s') :
    s'.totalWeightedStake = s.totalWeightedStake - userWeight user s := by
  have hnone : userWeight user s' = 0 := by
    unfold userWeight activeTotal
    refine Store.total_eq_zero fun id p hk => ?_
    split
    · rename_i hactive
      simp only
      split
      · rename_i hmine
        have hl : LaterStore 0 s.stakePosition s'.stakePosition := h.later
        obtain ⟨q, hq, hlater⟩ := hl id p hk
        have hlisted : id ∈ getUserStakeIds s user := by
          rw [← hmine, hlater.user]
          exact hw.listed id q hq
        rw [h.inactive hlisted hk hmine] at hactive
        cases hactive
      · rfl
    · rfl
  have hdrift := h.weight
  rw [hnone] at hdrift
  omega

end Closings

/-- A position that the operation does not touch stays stored as it is. -/
theorem bystander_position (hu : Untouched s) (hw : WellFormed s) {op : Op}
    (h : Effect tok self s (.call env op) s') {id : ℕ} {p : StakePosition}
    (hk : s.stakePosition.get? id = some p) (huntouched : ¬ op.Touches id p) :
    s'.stakePosition.get? id = some p := by
  cases h with
  | initializeContract _ _ _ _ fresh =>
    rw [hu.positions fresh] at hk
    cases hk
  | stake =>
    have hid := (hw.positions id p hk).2.1
    exact (Store.get?_set_ne _ _ (by omega)).trans hk
  | unstake => exact (Store.get?_set_ne _ _ huntouched).trans hk
  | claimRewards => exact (Store.get?_set_ne _ _ huntouched).trans hk
  | claimRewardsBatch _ _ _ ids pendings => exact (get?_settleStore pendings _ huntouched).trans hk
  | emergencyWithdraw => exact (Store.get?_set_ne _ _ huntouched).trans hk
  | emergencyWithdrawAll _ _ _ _ _ _ _ _ closings => exact closings.get?_of_ne hk huntouched
  | _ => exact hk

/-- One stored position leaves with its weight. -/
theorem leavingWeight_stored {id : ℕ} {q : StakePosition} {tier : StakingTier}
    (stored : s.stakePosition.get? id = some q) (tiered : s.tier.get? q.tierId = some tier) :
    (s.stakePosition.get? id).elim 0 (positionWeight s.tier) =
      weightOf q.amount tier.rewardMultiplierBps := by
  rw [stored, Option.elim_some, positionWeight, multiplierOf_some tiered]

theorem WellFormed.userWeight_nonneg (hw : WellFormed s) (user : Address) :
    0 ≤ userWeight user s := by
  refine activeTotal_nonneg fun id q hq _ => ?_
  split
  · exact hw.weight_nonneg hq
  · exact le_rfl

/-- An update of a tier that changes no active weight changes no projection. -/
theorem static_updated {admin : Address} {new : TierUpdate} {p : StakePosition}
    {tier : StakingTier} {id : ℕ} {tiers : Store ℕ StakingTier}
    (hop : Undisturbing env s (.updateTier admin p.tierId new))
    (hk : s.stakePosition.get? id = some p) (hactive : p.active = true)
    (htier : s.tier.get? p.tierId = some tier) :
    calculatePendingRewardsStatic env { s with tier := tiers } p
        (tier.updated new).rewardMultiplierBps =
      calculatePendingRewardsStatic env s p tier.rewardMultiplierBps := by
  refine static_congr Iff.rfl (fun _ => rfl) fun hW => ?_
  rcases hop with hnone | hsame
  · exact absurd hW (not_lt.mpr hnone)
  · exact updated_field (P := fun m => calculateWeight p.amount m = _) rfl
      fun multiplier hnew => hsame tier multiplier htier hnew id p hk hactive rfl

/-- The bystanders' pending rewards do not move, as the view shows them. -/
theorem bystanders_undisturbed (hs : Reachable tok self s) {op : Op}
    (hn : next tok self (.call env op) s = .ok s') (hop : Undisturbing env s op) {id : ℕ}
    {p : StakePosition} (hk : s.stakePosition.get? id = some p) (hactive : p.active = true)
    (huntouched : ¬ op.Touches id p) :
    getPendingRewards env id s' = getPendingRewards env id s := by
  have hw := hs.wellFormed
  have ha := hs.accrued
  have ha' := (hs.step hn).accrued
  have heff := next_effect hn
  have hk' := bystander_position hs.invariants.1 hw heff hk huntouched
  obtain ⟨-, tier, htier⟩ := hw.tiered id p hk
  -- The position is stored unchanged, so it is enough to compare the two projections.
  have views : ∀ {tier' : StakingTier}, s'.tier.get? p.tierId = some tier' →
      calculatePendingRewardsStatic env s' p tier'.rewardMultiplierBps =
        calculatePendingRewardsStatic env s p tier.rewardMultiplierBps →
      getPendingRewards env id s' = getPendingRewards env id s := by
    intro tier' htier' hstatic
    rw [getPendingRewards_eq hw hk hactive htier,
      getPendingRewards_eq (hs.step hn).wellFormed hk' hactive htier']
    exact hstatic
  have spared : RestWeightless s op → calculateWeight p.amount tier.rewardMultiplierBps = .ok 0 :=
    fun hrest => hrest id p tier hk hactive huntouched htier
  cases heff with
  | initializeContract _ _ _ _ fresh =>
    rw [hs.invariants.1.positions fresh] at hk
    cases hk
  | setRewardRate _ _ _ _ _ settles =>
    exact views htier (static_settled ha ha' hk settles rfl rfl (.inl Iff.rfl))
  | addTier =>
    have hlt := (hw.tiers _ tier htier).2
    exact views ((Store.get?_set_ne _ _ (by omega)).trans htier) rfl
  | updateTier _ _ tierId new old _ stored =>
    by_cases he : p.tierId = tierId
    · subst he
      obtain rfl : tier = old := Option.some.inj (htier.symm.trans stored)
      exact views (Store.get?_set_self _ _ _) (static_updated hop hk hactive htier)
    · exact views ((Store.get?_set_ne _ _ he).trans htier) rfl
  | deactivateTier _ _ tierId old _ stored =>
    by_cases he : p.tierId = tierId
    · subst he
      obtain rfl : tier = old := Option.some.inj (htier.symm.trans stored)
      exact views (Store.get?_set_self _ _ _) rfl
    · exact views ((Store.get?_set_ne _ _ he).trans htier) rfl
  | stake _ _ _ amount tierId staked _ _ stored _ settles =>
    refine views htier (static_settled ha ha' hk settles rfl rfl ?_)
    rw [← multiplierOf_some stored]
    exact hop.imp_right spared
  | unstake _ user _ id' q left _ _ _ _ _ stored _ _ tiered _ settles =>
    refine views htier (static_settled ha ha' hk settles rfl rfl ?_)
    simp only [Undisturbing, leavingWeight, leavingWeight_stored stored tiered] at hop
    exact hop.imp_right spared
  | claimRewards _ _ _ _ _ _ _ _ _ _ _ _ _ _ settles =>
    exact views htier (static_settled ha ha' hk settles rfl rfl (.inl Iff.rfl))
  | claimRewardsBatch _ _ _ _ _ _ _ _ settles =>
    exact views htier (static_settled ha ha' hk settles rfl rfl (.inl Iff.rfl))
  | emergencyWithdraw _ admin user _ id' q left _ _ stored _ _ tiered =>
    have hnonneg := weightOf_nonneg (hw.positions id' q stored).2.2.le left.rewardMultiplierBps
    simp only [Undisturbing, leavingWeight, leavingWeight_stored stored tiered] at hop
    refine views htier (static_unsettled ha ha' hk rfl rfl rfl hnonneg rfl ?_)
    exact hop.imp_right (Or.imp_right (And.imp_right (Or.imp_right spared)))
  | emergencyWithdrawAll _ _ user _ s₁ _ _ _ closings =>
    have hframe := closings.frame
    have hweight := closings.weight_all hw
    refine views (by simp only; rw [hframe]; exact htier)
      (static_unsettled ha ha' hk (by simp only; rw [hframe]) (by simp only; rw [hframe])
        (by simp only; rw [hframe]) (hw.userWeight_nonneg user) hweight ?_)
    exact hop.imp_right (Or.imp_right (And.imp_right (Or.imp_right spared)))
  | _ => exact views htier rfl

theorem calculateWeight_zero {amount : ℤ} {bps : ℕ} (h0 : 0 ≤ amount)
    (h : weightOf amount bps = 0) : calculateWeight amount bps = .ok 0 := by
  have hproduct : 0 ≤ amount * bps := mul_nonneg h0 (Int.natCast_nonneg _)
  have hsmall : amount * bps < (weightOf amount bps + 1) * bpsDenominator :=
    I128.lt_tdiv_add_one_mul hproduct (by decide)
  rw [h] at hsmall
  have hfits : I128.InRange (amount * bps) := by
    unfold bpsDenominator at hsmall
    exact ⟨I128.inRange_zero.1.trans hproduct, by unfold I128.max; omega⟩
  unfold calculateWeight
  rw [I128.checked_bind, I128.div_ok]
  unfold weightOf at h
  rw [h]
  exact ⟨hfits, by decide, I128.inRange_zero, rfl⟩

/-- Active positions weigh nothing where their sum is not positive. -/
theorem weightless_of_sum {positions : Store ℕ StakePosition} {tiers : Store ℕ StakingTier}
    (hamounts : ∀ id p, positions.get? id = some p → 0 ≤ p.amount)
    (hsum : activeTotal (positionWeight tiers) positions ≤ 0) {id : ℕ} {p : StakePosition}
    {tier : StakingTier} (hk : positions.get? id = some p) (hactive : p.active = true)
    (htier : tiers.get? p.tierId = some tier) :
    calculateWeight p.amount tier.rewardMultiplierBps = .ok 0 := by
  have hle := le_activeTotal (v := positionWeight tiers)
    (fun id p hk _ => weightOf_nonneg (hamounts id p hk) _) hk hactive
  have hnonneg := weightOf_nonneg (hamounts id p hk) tier.rewardMultiplierBps
  rw [positionWeight, multiplierOf_some htier] at hle
  exact calculateWeight_zero (hamounts id p hk) (by omega)

/-- Where the total weight is the sum of the active weights, stakes and regular
exits disturb nobody. -/
theorem WeightLedger.undisturbing (hw : WellFormed s) (hl : WeightLedger s) :
    (∀ user amount tierId, 0 ≤ amount → Undisturbing env s (.stake user amount tierId)) ∧
    ∀ user id p, s.stakePosition.get? id = some p → p.active = true →
      Undisturbing env s (.unstake user id) := by
  have hamounts := fun id p hk => (hw.positions id p hk).2.2.le
  have hsum := hl.weighted
  constructor
  · intro user amount tierId hamount
    have hweight := weightOf_nonneg hamount (multiplierOf s.tier tierId)
    by_cases hW : 0 < s.totalWeightedStake
    · exact .inl ⟨fun _ => by omega, fun _ => hW⟩
    · refine .inr fun id p tier hk hactive _ htier => ?_
      exact weightless_of_sum hamounts (hsum.symm.trans_le (not_lt.mp hW)) hk hactive htier
  · intro user id p hk hactive
    have hweight := hw.weight_nonneg hk
    have hleaving : leavingWeight s (.unstake user id) = positionWeight s.tier p := by
      simp only [leavingWeight, hk, Option.elim_some]
    have hrest : activeTotal (positionWeight s.tier)
        (s.stakePosition.set id { p with active := false }) =
        s.totalWeightedStake - positionWeight s.tier p := by
      rw [activeTotal_close hk hactive, hsum]
      rfl
    unfold Undisturbing
    simp only [hleaving]
    by_cases hW : 0 < s.totalWeightedStake - positionWeight s.tier p
    · exact .inl ⟨fun _ => hW, fun _ => by omega⟩
    · refine .inr fun id' p' tier hk' hactive' hne htier => ?_
      have hstored : (s.stakePosition.set id { p with active := false }).get? id' = some p' := by
        rw [Store.get?_set_ne _ _ hne]
        exact hk'
      have hamounts' : ∀ id' p', (s.stakePosition.set id { p with active := false }).get? id' =
          some p' → 0 ≤ p'.amount := Store.forall_set hamounts (hamounts id p hk)
      exact weightless_of_sum hamounts' (hrest.trans_le (not_lt.mp hW)) hstored hactive' htier

section Runs

open Sample

/-- Alice stakes a thousand and bob five hundred, at ten a second. -/
def pair : List (Action Balances) := opened 10 ++ [call 0 (.stake bob 500 1)]

/-- Bob leaves after seven seconds, and alice keeps her forty-six. -/
theorem bystanders_undisturbed_by_unstake :
    ∃ s s' : State Balances, run pair = .ok s ∧
      next asset contract (call 7 (.unstake bob 2)) s = .ok s' ∧
      getPendingRewards (envAt 7) 1 s = .ok 46 ∧ getPendingRewards (envAt 7) 1 s' = .ok 46 := by
  have h : After (fun s => (∃ p ∈ s.stakePosition.get? 1, p.active = true) ∧
      (∃ p ∈ s.stakePosition.get? 2, p.active = true) ∧
      After (fun pending => pending = 46) (getPendingRewards (envAt 7) 1 s) ∧
      After (fun _ => True) (next asset contract (call 7 (.unstake bob 2)) s)) (run pair) := by
    decide +kernel
  obtain ⟨s, hs, ⟨p, hk, hactive⟩, ⟨q, hq, hactive'⟩, hpending, hnext⟩ := h.exists_ok
  obtain ⟨pending, hview, rfl⟩ := hpending.exists_ok
  obtain ⟨s', hs', -⟩ := hnext.exists_ok
  have hvia : ReachableVia asset contract (fun s a => a.KeepsWeights s) s := by
    refine ⟨_, execute_steps _ ?_ hs⟩
    intro a ha s
    simp only [pair, opened, List.cons_append, List.nil_append, List.mem_cons, List.not_mem_nil,
      or_false] at ha
    rcases ha with rfl | rfl | rfl | rfl <;> trivial
  have hop : Undisturbing (envAt 7) s (.unstake bob 2) :=
    (hvia.weightLedger.undisturbing hvia.reachable.wellFormed).2 bob 2 q hq hactive'
  have hsame := bystanders_undisturbed (run_reachable hs) hs' hop hk hactive (by simp [Op.Touches])
  exact ⟨s, s', hs, hs', hview, hsame.trans hview⟩

/-- An emergency exit of bob's hands his share of the past to alice, and doubling
the multiplier doubles what she has earned. -/
theorem bystanders_disturbed :
    (¬ ∀ (s s' : State Balances) (env : Env) (admin user : Address) (stakeId id : ℕ)
      (p : StakePosition), Reachable asset contract s →
      next asset contract (.call env (.emergencyWithdraw admin user stakeId)) s = .ok s' →
      s.stakePosition.get? id = some p → p.active = true → id ≠ stakeId →
      getPendingRewards env id s' = getPendingRewards env id s) ∧
    ¬ ∀ (s s' : State Balances) (env : Env) (admin : Address) (tierId id : ℕ) (new : TierUpdate)
      (p : StakePosition), Reachable asset contract s →
      next asset contract (.call env (.updateTier admin tierId new)) s = .ok s' →
      s.stakePosition.get? id = some p → p.active = true →
      getPendingRewards env id s' = getPendingRewards env id s := by
  have differs : ∀ op : Op, After (fun s => (∃ p ∈ s.stakePosition.get? 1, p.active = true) ∧
      After (fun s' => After (fun after => After (fun before => after ≠ before)
        (getPendingRewards (envAt 7) 1 s)) (getPendingRewards (envAt 7) 1 s'))
        (next asset contract (call 7 op) s)) (run pair) →
      ∃ s s' p, Reachable asset contract s ∧ next asset contract (call 7 op) s = .ok s' ∧
        s.stakePosition.get? 1 = some p ∧ p.active = true ∧
        getPendingRewards (envAt 7) 1 s' ≠ getPendingRewards (envAt 7) 1 s := by
    intro op h
    obtain ⟨s, hs, ⟨p, hk, hactive⟩, hnext⟩ := h.exists_ok
    obtain ⟨s', hs', hviews⟩ := hnext.exists_ok
    obtain ⟨after, hafter, hbefore⟩ := hviews.exists_ok
    obtain ⟨before, hbefore, hne⟩ := hbefore.exists_ok
    refine ⟨s, s', p, run_reachable hs, hs', hk, hactive, ?_⟩
    rw [hafter, hbefore]
    exact fun he => hne (Except.ok.inj he)
  constructor
  · intro hall
    obtain ⟨s, s', p, hr, hn, hk, hactive, hne⟩ :=
      differs (.emergencyWithdraw admin bob 2) (by decide +kernel)
    exact hne (hall s s' (envAt 7) admin bob 2 1 p hr hn hk hactive (by decide))
  · intro hall
    obtain ⟨s, s', p, hr, hn, hk, hactive, hne⟩ :=
      differs (.updateTier admin 1 (reweigh 20000)) (by decide +kernel)
    exact hne (hall s s' (envAt 7) admin 1 1 (reweigh 20000) p hr hn hk hactive)

end Runs

end Staking
