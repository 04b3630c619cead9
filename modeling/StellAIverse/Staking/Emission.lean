import StellAIverse.Soroban.Accumulator
import StellAIverse.Staking.Totals

/-!
# The emission cap

Rewards are emitted at a rate, and every second of emission is divided among the
active positions by weight. The invariant counts, at the scale of the
accumulator, what has been distributed, what the positions are owed at the last
update, and the emission since then; each of the two roundings loses a little,
and nothing creates more than was emitted.
-/

namespace Staking

open Soroban

variable {τ : Type} {tok : Token τ} {self : Address} {s s' : State τ} {a : Action τ}

def Action.At (now : ℕ) : Action τ → Prop
  | .call env _ => env.timestamp = now
  | .transfers _ => True

/-- No multiplier is changed, and no batch names a stake twice. -/
def Action.Steady (s : State τ) : Action τ → Prop
  | .call _ (.updateTier _ tierId new) =>
    ∀ tier multiplier, s.tier.get? tierId = some tier → new.rewardMultiplierBps = some multiplier →
      multiplier = tier.rewardMultiplierBps
  | .call _ (.claimRewardsBatch _ ids) => ids.Nodup
  | _ => True

/-- A run from empty storage, with the ledger time and what has been emitted up
to it: each interval emits the rate of the time. Before `initialize` the rate
is zero. -/
inductive Timed (tok : Token τ) (self : Address) : State τ → ℕ → ℤ → Prop
  | start (tokens : τ) (now : ℕ) : Timed tok self (deployed tokens) now 0
  | wait {s : State τ} {now : ℕ} {emitted : ℤ} (elapsed : ℕ) (h : Timed tok self s now emitted) :
      Timed tok self s (now + elapsed) (emitted + s.rewardRatePerSecond * elapsed)
  | act {s s' : State τ} {now : ℕ} {emitted : ℤ} (a : Action τ) (h : Timed tok self s now emitted)
      (time : a.At now) (steady : a.Steady s) (completed : next tok self a s = .ok s') :
      Timed tok self s' now emitted

theorem Action.Steady.keepsWeights (h : a.Steady s) : a.KeepsWeights s := by
  cases a with
  | transfers => trivial
  | call env op =>
    cases op with
    | updateTier admin tierId new =>
      intro tier multiplier htier hnew id p _ _ _
      rw [h tier multiplier htier hnew]
    | _ => trivial

theorem Timed.via {now : ℕ} {emitted : ℤ} (h : Timed tok self s now emitted) :
    ReachableVia tok self (fun s a => a.KeepsWeights s) s := by
  induction h with
  | start tokens => exact ⟨tokens, .refl _⟩
  | wait _ _ ih => exact ih
  | act a _ _ steady completed ih =>
    obtain ⟨tokens, hrun⟩ := ih
    exact ⟨tokens, hrun.tail steady.keepsWeights completed⟩

/-- An active position shares with its weight, since its last payment. -/
def shareIn (tiers : Store ℕ StakingTier) : Share StakePosition where
  weight p := if p.active = true then positionWeight tiers p else 0
  snapshot p := p.rewardPerTokenPaid

section Shares

variable {tiers : Store ℕ StakingTier} {r : ℤ} {p : StakePosition}

theorem due_closed : (shareIn tiers).due r { p with active := false } = 0 := by
  simp [Share.due, shareIn]

theorem due_paid : (shareIn tiers).due r { p with rewardPerTokenPaid := r } = 0 := by
  simp [Share.due, shareIn]

theorem due_active (h : p.active = true) :
    (shareIn tiers).due r p = (r - p.rewardPerTokenPaid) * positionWeight tiers p := by
  simp [Share.due, shareIn, h]

variable (hw : WellFormed s) (ha : Accrued s)
include hw ha

theorem due_nonneg (hr : s.rewardPerTokenStored ≤ r) {id : ℕ}
    (hk : s.stakePosition.get? id = some p) : 0 ≤ (shareIn s.tier).due r p := by
  have hpaid := (ha.paid id p hk).2
  cases hactive : p.active with
  | false => simp [Share.due, shareIn, hactive]
  | true =>
    rw [due_active hactive]
    exact mul_nonneg (by omega) (hw.weight_nonneg hk)

/-- What is pending is what is due, rounded down. -/
theorem pending_le_due {id now : ℕ} {tier : StakingTier}
    (hk : s.stakePosition.get? id = some p) (hactive : p.active = true)
    (htier : s.tier.get? p.tierId = some tier) :
    0 ≤ pendingOf now s p tier.rewardMultiplierBps ∧
      pendingOf now s p tier.rewardMultiplierBps * precisionFactor ≤
        (shareIn s.tier).due (rptAt now s) p := by
  have hdue := due_nonneg hw ha (rptAt_ge ha.rate now) hk
  unfold pendingOf
  split
  · rw [due_active hactive, positionWeight, multiplierOf_some htier] at hdue ⊢
    exact ⟨Int.tdiv_nonneg hdue (by decide), I128.tdiv_mul_le hdue (by decide)⟩
  · exact ⟨le_rfl, by simpa using hdue⟩

end Shares

/-- Distributed, owed and not yet divided, against what was emitted. -/
structure Capped (now : ℕ) (emitted : ℤ) (s : State τ) : Prop where
  time : s.lastRewardTime ≤ now
  nonneg : 0 ≤ emitted
  cap : s.totalRewardsDistributed * precisionFactor +
    (shareIn s.tier).owed s.rewardPerTokenStored s.stakePosition +
    s.rewardRatePerSecond * (now - s.lastRewardTime : ℕ) * precisionFactor ≤
      emitted * precisionFactor

section Cap

variable {now : ℕ} {emitted : ℤ}

/-- Bringing the accumulator up to date divides the emission since the last
update among the positions. -/
theorem Capped.settle (hc : Capped now emitted s) (ha : Accrued s) (hl : WeightLedger s) :
    s.totalRewardsDistributed * precisionFactor +
      (shareIn s.tier).owed (rptAt now s) s.stakePosition ≤ emitted * precisionFactor := by
  have hcap := hc.cap
  have hemission : 0 ≤ s.rewardRatePerSecond * (now - s.lastRewardTime : ℕ) * precisionFactor :=
    mul_nonneg (mul_nonneg ha.rate (Int.natCast_nonneg _)) (by decide)
  unfold rptAt
  split
  · rename_i hsome
    have hweight : s.totalWeightedStake = (shareIn s.tier).totalWeight s.stakePosition :=
      hl.weighted
    have hpay := (shareIn s.tier).owed_pay_in (r := s.rewardPerTokenStored) hemission
      (hweight ▸ hsome.2)
    rw [← hweight] at hpay
    unfold incrementOf
    linarith
  · linarith

/-- A completed call that settled, and left the accumulator and what is owed at
or below what the distribution allows. -/
theorem Capped.of_settled (hc : Capped now emitted s) (ha : Accrued s) (hl : WeightLedger s)
    (hlast : s'.lastRewardTime = max s.lastRewardTime now)
    (hcap : s'.totalRewardsDistributed * precisionFactor +
      (shareIn s'.tier).owed s'.rewardPerTokenStored s'.stakePosition ≤
        s.totalRewardsDistributed * precisionFactor +
          (shareIn s.tier).owed (rptAt now s) s.stakePosition) : Capped now emitted s' := by
  have hsettle := hc.settle ha hl
  have htime := hc.time
  rw [max_eq_right htime] at hlast
  refine ⟨hlast.le, hc.nonneg, ?_⟩
  rw [hlast, Nat.sub_self]
  simp only [Nat.cast_zero, mul_zero, zero_mul, add_zero]
  exact hcap.trans hsettle

/-- Tiers may change as long as stored positions keep their multipliers. -/
theorem Capped.retier (hc : Capped now emitted s) {tiers : Store ℕ StakingTier}
    (htier : s'.tier = tiers) (hpositions : s'.stakePosition = s.stakePosition)
    (hsame : s'.totalRewardsDistributed = s.totalRewardsDistributed ∧
      s'.rewardPerTokenStored = s.rewardPerTokenStored ∧
      s'.rewardRatePerSecond = s.rewardRatePerSecond ∧ s'.lastRewardTime = s.lastRewardTime)
    (h : ∀ id p, s.stakePosition.get? id = some p →
      multiplierOf tiers p.tierId = multiplierOf s.tier p.tierId) : Capped now emitted s' := by
  obtain ⟨hdistributed, hrpt, hrate, hlast⟩ := hsame
  refine ⟨by rw [hlast]; exact hc.time, hc.nonneg, ?_⟩
  have howed : (shareIn tiers).owed s.rewardPerTokenStored s.stakePosition =
      (shareIn s.tier).owed s.rewardPerTokenStored s.stakePosition := by
    refine Share.owed_congr fun id p hk => ?_
    simp only [Share.due, shareIn, positionWeight, h id p hk]
  rw [hdistributed, hrpt, hrate, hlast, htier, hpositions, howed]
  exact hc.cap

/-- Closing positions forfeits what they are owed. -/
theorem Closings.owed_le {user : Address} {ids : List ℕ} {total r : ℤ}
    (h : Closings user ids s total s')
    (hdue : ∀ id p, s.stakePosition.get? id = some p → 0 ≤ (shareIn s.tier).due r p) :
    (shareIn s.tier).owed r s'.stakePosition ≤ (shareIn s.tier).owed r s.stakePosition := by
  induction h with
  | nil => exact le_rfl
  | skip _ _ _ _ _ _ _ _ _ ih => exact ih hdue
  | close id _ p tier s _ _ stored _ _ _ _ ih =>
    refine (ih (Store.forall_set hdue due_closed.ge)).trans ?_
    have hclose : (shareIn s.tier).owed r (s.stakePosition.set id { p with active := false }) =
        (shareIn s.tier).owed r s.stakePosition - (shareIn s.tier).due r p :=
      Share.owed_settle stored due_closed
    have hforfeit := hdue id p stored
    change (shareIn s.tier).owed r (s.stakePosition.set id { p with active := false }) ≤ _
    omega

/-- A batch pays each listed position at most what it is owed, once. -/
theorem settleStore_owed {env : Env} {user : Address} {ids : List ℕ} {pendings : List ℤ}
    (hw : WellFormed s) (ha : Accrued s)
    (hdue : List.Forall₂ (Due env user s) ids pendings) (hnodup : ids.Nodup)
    {positions : Store ℕ StakePosition}
    (hsame : ∀ id ∈ ids, positions.get? id = s.stakePosition.get? id) :
    paidOut pendings * precisionFactor + (shareIn s.tier).owed (rptAt env.timestamp s)
        (settleStore (rptAt env.timestamp s) (ids.zip pendings) positions) ≤
      (shareIn s.tier).owed (rptAt env.timestamp s) positions := by
  induction hdue generalizing positions with
  | nil => simp [paidOut, settleStore]
  | @cons id pending ids pendings hhead _ ih =>
    obtain ⟨p, tier, hk, -, hactive, htier, hpending⟩ := hhead.due
    obtain ⟨hfresh, hnodup'⟩ := List.nodup_cons.mp hnodup
    have hrest : ∀ id' ∈ ids, positions.get? id' = s.stakePosition.get? id' :=
      fun id' hid' => hsame id' (List.mem_cons_of_mem id hid')
    have hpays : pending * precisionFactor ≤ (shareIn s.tier).due (rptAt env.timestamp s) p := by
      rw [calculatePendingRewardsStatic_ok hpending]
      exact (pending_le_due hw ha hk hactive htier).2
    simp only [paidOut, List.map_cons, List.sum_cons, List.zip_cons_cons, settleStore]
    split
    · rename_i hpos
      have hstored : positions.get? id = some p := by rw [hsame id List.mem_cons_self, hk]
      have hrest' : ∀ id' ∈ ids, (positions.set id
          { p with rewardPerTokenPaid := rptAt env.timestamp s }).get? id' = s.stakePosition.get? id' := by
        intro id' hid'
        have hne : id' ≠ id := by
          rintro rfl
          exact hfresh hid'
        rw [Store.get?_set_ne _ _ hne]
        exact hrest id' hid'
      have htail := ih hnodup' hrest'
      rw [Share.owed_settle hstored due_paid, paidOut] at htail
      rw [hstored, max_eq_left hpos.le, add_mul]
      simp only
      linarith
    · rename_i hzero
      have htail := ih hnodup' hrest
      rw [paidOut] at htail
      rw [max_eq_right (by omega), zero_add]
      exact htail

theorem capped_step (hu : Untouched s) (hw : WellFormed s) (ha : Accrued s) (hl : WeightLedger s)
    (hnow : a.At now) (hsteady : a.Steady s) (hc : Capped now emitted s)
    (h : Effect tok self s a s') : Capped now emitted s' := by
  have pays : ∀ {id : ℕ} {p : StakePosition} {tier : StakingTier},
      s.stakePosition.get? id = some p → p.active = true → s.tier.get? p.tierId = some tier →
      0 ≤ pendingOf now s p tier.rewardMultiplierBps ∧
        pendingOf now s p tier.rewardMultiplierBps * precisionFactor ≤
          (shareIn s.tier).due (rptAt now s) p := pending_le_due hw ha
  cases h with
  | initializeContract env _ _ _ fresh =>
    have htime : env.timestamp = now := hnow
    refine ⟨htime.le, hc.nonneg, ?_⟩
    have howed : (shareIn s.tier).owed 0 s.stakePosition = 0 := by
      refine Store.total_eq_zero fun id p hk => ?_
      rw [hu.positions fresh] at hk
      cases hk
    have hnonneg := mul_nonneg hc.nonneg (by decide : 0 ≤ precisionFactor)
    simp only [howed, htime, Nat.sub_self]
    simpa using hnonneg
  | setRewardRate env =>
    obtain rfl : env.timestamp = now := hnow
    exact hc.of_settled ha hl rfl le_rfl
  | addTier =>
    refine hc.retier rfl rfl ⟨rfl, rfl, rfl, rfl⟩ fun id p hk => ?_
    obtain ⟨-, tier, htier⟩ := hw.tiered id p hk
    have hid := (hw.tiers _ tier htier).2
    rw [multiplierOf_set, if_neg (by omega)]
  | updateTier _ _ tierId new tier _ stored =>
    refine hc.retier rfl rfl ⟨rfl, rfl, rfl, rfl⟩ fun id p hk => ?_
    rw [multiplierOf_set]
    split
    · rename_i he
      rw [he, multiplierOf_some stored]
      exact updated_field (P := (· = tier.rewardMultiplierBps)) rfl
        fun multiplier hnew => hsteady tier multiplier stored hnew
    · rfl
  | deactivateTier _ _ tierId tier _ stored =>
    refine hc.retier rfl rfl ⟨rfl, rfl, rfl, rfl⟩ fun id p hk => ?_
    rw [multiplierOf_set]
    split
    · rename_i he
      rw [he, multiplierOf_some stored]
    · rfl
  | stake env =>
    obtain rfl : env.timestamp = now := hnow
    refine hc.of_settled ha hl rfl ?_
    simp only [settled]
    rw [Share.owed_enter hw.fresh (by simp [Share.due, shareIn])]
  | unstake env _ _ id p tier pending _ _ _ _ stored _ active tiered calculated =>
    obtain rfl : env.timestamp = now := hnow
    have hpays := pays stored active tiered
    rw [← calculatePendingRewardsStatic_ok calculated] at hpays
    refine hc.of_settled ha hl rfl ?_
    simp only [settled, closed]
    rw [Share.owed_settle stored due_closed, max_eq_left hpays.1]
    linarith
  | claimRewards env _ _ id p tier pending _ stored _ active tiered calculated =>
    obtain rfl : env.timestamp = now := hnow
    have hpays := pays stored active tiered
    rw [← calculatePendingRewardsStatic_ok calculated] at hpays
    refine hc.of_settled ha hl rfl ?_
    simp only [settled]
    rw [Share.owed_settle stored due_paid]
    linarith
  | claimRewardsBatch env _ _ ids pendings _ due =>
    obtain rfl : env.timestamp = now := hnow
    refine hc.of_settled ha hl rfl ?_
    have hbatch := settleStore_owed hw ha due hsteady (fun _ _ => rfl)
    simp only [settled]
    linarith
  | emergencyWithdraw _ _ _ _ id p tier _ _ stored =>
    have hdue := due_nonneg hw ha le_rfl stored
    refine ⟨hc.time, hc.nonneg, ?_⟩
    have hcap := hc.cap
    simp only [closed]
    rw [Share.owed_settle stored due_closed]
    linarith
  | emergencyWithdrawAll _ _ _ _ s₁ _ _ _ closings =>
    have hless := closings.owed_le fun id p hk => due_nonneg hw ha le_rfl hk
    have hcap := hc.cap
    have htime := hc.time
    have hframe := closings.frame
    refine ⟨?_, hc.nonneg, ?_⟩
    · rw [hframe]
      exact htime
    · simp only
      rw [hframe]
      simp only
      linarith
  | _ => exact ⟨hc.time, hc.nonneg, hc.cap⟩

end Cap

theorem Timed.capped {now : ℕ} {emitted : ℤ} (h : Timed tok self s now emitted) :
    Capped now emitted s := by
  induction h with
  | start tokens now => exact ⟨Nat.zero_le _, le_rfl, by simp [deployed, Share.owed, Store.total,
      Store.empty]⟩
  | @wait s now emitted elapsed h ih =>
    have hrate := h.via.reachable.accrued.rate
    have htime := ih.time
    refine ⟨by omega, add_nonneg ih.nonneg (mul_nonneg hrate (Int.natCast_nonneg _)), ?_⟩
    have hspan : ((now + elapsed - s.lastRewardTime : ℕ) : ℤ) =
        (now - s.lastRewardTime : ℕ) + elapsed := by omega
    have hcap := ih.cap
    rw [hspan]
    linarith
  | act a h time steady completed ih =>
    have hreach := h.via.reachable
    exact capped_step hreach.invariants.1 hreach.wellFormed hreach.accrued h.via.weightLedger time
      steady ih (next_effect completed)

/-- What a view shows; one that traps shows nothing. -/
def reading : Result ℤ → ℤ
  | .ok value => value
  | .error _ => 0

/-- `get_pending_rewards`, summed over the active positions. -/
def pendingTotal (env : Env) (s : State τ) : ℤ :=
  s.stakePosition.total fun id p =>
    if p.active = true then reading (getPendingRewards env id s) else 0

theorem getPendingRewards_ok {env : Env} {id : ℕ} {p : StakePosition} {tier : StakingTier}
    {pending : ℤ} (hk : s.stakePosition.get? id = some p) (htier : s.tier.get? p.tierId = some tier)
    (h : getPendingRewards env id s = .ok pending) :
    pending = pendingOf env.timestamp s p tier.rewardMultiplierBps := by
  unfold getPendingRewards at h
  rw [loadStake_bind, hk] at h
  obtain ⟨-, p', hp', h⟩ := h
  cases hp'
  split at h
  · rename_i hoff
    cases h
    simp [pendingOf, hoff]
  · rw [loadTier_bind, htier] at h
    obtain ⟨-, tier', htier', h⟩ := h
    cases htier'
    exact calculatePendingRewardsStatic_ok h

theorem reading_le_due {env : Env} (hw : WellFormed s) (ha : Accrued s) {id : ℕ}
    {p : StakePosition} (hk : s.stakePosition.get? id = some p) :
    (if p.active = true then reading (getPendingRewards env id s) else 0) ≤
      ((shareIn s.tier).due (rptAt env.timestamp s) p).tdiv precisionFactor := by
  have hdue := due_nonneg hw ha (rptAt_ge ha.rate env.timestamp) hk
  have hfloor := Int.tdiv_nonneg hdue (by decide : 0 ≤ precisionFactor)
  split
  · rename_i hactive
    obtain ⟨-, tier, htier⟩ := hw.tiered id p hk
    cases hview : getPendingRewards env id s with
    | error e => exact hfloor
    | ok pending =>
      have hpays : pending * precisionFactor ≤
          (shareIn s.tier).due (rptAt env.timestamp s) p := by
        rw [getPendingRewards_ok hk htier hview]
        exact (pending_le_due hw ha hk hactive htier).2
      rw [Int.tdiv_eq_ediv_of_nonneg hdue]
      exact Int.le_ediv_of_mul_le (by decide) hpays
  · exact hfloor

/-- What has been paid and what is pending was emitted. -/
theorem rewards_within_emission {now : ℕ} {emitted : ℤ} (h : Timed tok self s now emitted)
    {env : Env} (htime : env.timestamp = now) :
    s.totalRewardsDistributed + pendingTotal env s ≤ emitted := by
  have hw := h.via.reachable.wellFormed
  have ha := h.via.reachable.accrued
  have hsettle := h.capped.settle ha h.via.weightLedger
  subst htime
  have hfloors : pendingTotal env s * precisionFactor ≤
      (shareIn s.tier).owed (rptAt env.timestamp s) s.stakePosition := by
    have hscale : 0 < precisionFactor := by decide
    refine le_trans ?_ (Share.floors_le_owed hscale fun id p hk =>
      due_nonneg hw ha (rptAt_ge ha.rate env.timestamp) hk)
    exact mul_le_mul_of_nonneg_right
      (Store.total_le_total fun id p hk => reading_le_due hw ha hk) hscale.le
  have hscaled : (s.totalRewardsDistributed + pendingTotal env s) * precisionFactor ≤
      emitted * precisionFactor := by linarith
  exact le_of_mul_le_mul_right hscaled (by decide)

/-- Several calls at one time. -/
theorem Timed.acts {now : ℕ} {emitted : ℤ} {calls : List (Action τ)}
    (h : Timed tok self s now emitted)
    (hcalls : ∀ a ∈ calls, a.At now ∧ ∀ s : State τ, a.Steady s)
    (hrun : execute (next tok self) calls s = .ok s') : Timed tok self s' now emitted := by
  induction calls generalizing s with
  | nil =>
    cases hrun
    exact h
  | cons a rest ih =>
    obtain ⟨t, ht, hrest⟩ := bind_ok.mp hrun
    obtain ⟨htime, hsteady⟩ := hcalls a List.mem_cons_self
    exact ih (h.act a htime (hsteady s) ht)
      (fun b hb => hcalls b (List.mem_cons_of_mem a hb)) hrest

open Sample in
/-- Ten a second, split two to one for seven seconds: alice has been paid, bob
has not. -/
theorem rewards_within_emission_two_stakers :
    ∃ s s' : State Balances, run (opened 10 ++ [call 0 (.stake bob 500 1)]) = .ok s ∧
      next asset contract (call 7 (.claimRewards alice 1)) s = .ok s' ∧
      s'.totalRewardsDistributed = 46 ∧ pendingTotal (envAt 7) s' = 23 ∧
      s'.totalRewardsDistributed + pendingTotal (envAt 7) s' ≤ 70 := by
  have h : After (fun s => s.rewardRatePerSecond = 10 ∧
      After (fun s' => s'.totalRewardsDistributed = 46 ∧ pendingTotal (envAt 7) s' = 23)
        (next asset contract (call 7 (.claimRewards alice 1)) s))
      (run (opened 10 ++ [call 0 (.stake bob 500 1)])) := by
    decide +kernel
  obtain ⟨s, hs, hrate, hclaim⟩ := h.exists_ok
  obtain ⟨s', hs', hdistributed, hpending⟩ := hclaim.exists_ok
  have hopen : Timed asset contract s 0 0 := by
    refine (Timed.start _ 0).acts ?_ hs
    intro a ha
    simp only [opened, List.cons_append, List.nil_append, List.mem_cons, List.not_mem_nil,
      or_false] at ha
    rcases ha with rfl | rfl | rfl | rfl <;> exact ⟨rfl, fun _ => trivial⟩
  have hwait : Timed asset contract s (0 + 7) (0 + s.rewardRatePerSecond * (7 : ℕ)) := hopen.wait 7
  rw [hrate] at hwait
  have htimed := hwait.act (call 7 (.claimRewards alice 1)) rfl trivial hs'
  exact ⟨s, s', hs, hs', hdistributed, hpending, rewards_within_emission htimed rfl⟩

end Staking
