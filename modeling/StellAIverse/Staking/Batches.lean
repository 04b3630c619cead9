import StellAIverse.Soroban.Batch
import StellAIverse.Staking.NonInterference

/-!
# Batch claims

A batch computes every pending amount before it moves a snapshot, so a stake that is listed twice
is paid twice. Otherwise it does what single claims do, in whatever order.
-/

namespace Staking

open Soroban

section Batches

variable {τ : Type} {tok : Token τ} {self : Address} {env : Env} {s s' t : State τ}
  {user : Address} {id : ℕ} {ids done order : List ℕ} {total : ℤ} {r : ℤ × State τ}

/-- What `get_pending_rewards` shows for a stake. -/
def pendingAt (env : Env) (s : State τ) (id : ℕ) : ℤ := reading (getPendingRewards env id s)

/-- Single claims of the listed stakes. -/
def claimEach (tok : Token τ) (self : Address) (env : Env) (user : Address) :
    List ℕ → State τ → Result (ℤ × State τ) :=
  Batch.inTurn (claimRewards tok self env user)

/-- The same storage, whatever the order in which its positions were written. -/
structure SameLedger (s s' : State τ) : Prop where
  positions : ∀ id, s'.stakePosition.get? id = s.stakePosition.get? id
  rest : s' = { s with stakePosition := s'.stakePosition, tokens := s'.tokens }

/-- The position with its snapshot taken at the accumulator `rpt`. -/
def StakePosition.paidAt (rpt : ℤ) (p : StakePosition) : StakePosition :=
  { p with rewardPerTokenPaid := rpt }

/-- After claims of the stakes `done`, which paid `total`; the pool may still be unsettled. -/
structure Claimed (env : Env) (s : State τ) (total : ℤ) (done : List ℕ) (s' : State τ) :
    Prop where
  positions : ∀ id, s'.stakePosition.get? id =
    if id ∈ done then (s.stakePosition.get? id).map (·.paidAt (rptAt env.timestamp s))
    else s.stakePosition.get? id
  rest : settled env.timestamp s' = { settled env.timestamp s with
    stakePosition := s'.stakePosition, totalRewardsDistributed := s.totalRewardsDistributed + total
    tokens := s'.tokens, reentrancyLock := s'.reentrancyLock }

theorem Claimed.start (env : Env) (s : State τ) : Claimed env s 0 [] s where
  positions id := by simp
  rest := by
    rw [add_zero]
    rfl

theorem settled_of_late {now : ℕ} (h : now ≤ s.lastRewardTime) : settled now s = s := by
  unfold settled
  rw [rptAt, if_neg fun hc => not_lt.mpr h hc.1, max_eq_left h]

/-- A state whose accumulator is up to date, between calls. -/
def UpToNow (env : Env) (s : State τ) : Prop :=
  env.timestamp ≤ s.lastRewardTime ∧ s.reentrancyLock = false

/-- Claims of the same stakes that paid as much leave the same storage. -/
theorem Claimed.same {done' : List ℕ} {s₁ s₂ : State τ} (h₁ : Claimed env s total done s₁)
    (h₂ : Claimed env s total done' s₂) (hmem : ∀ id, id ∈ done ↔ id ∈ done')
    (hnow₁ : UpToNow env s₁) (hnow₂ : UpToNow env s₂) : SameLedger s₁ s₂ where
  positions id := by rw [h₂.positions, h₁.positions, if_congr (hmem id) rfl rfl]
  rest := by
    have hrest₁ := h₁.rest
    have hrest₂ := h₂.rest
    rw [settled_of_late hnow₁.1, hnow₁.2] at hrest₁
    rw [settled_of_late hnow₂.1, hnow₂.2] at hrest₂
    rw [hrest₂, hrest₁]

theorem claimRewards_upToNow (h : claimRewards tok self env user id s = .ok r) :
    UpToNow env r.2 := by
  obtain ⟨-, -, -, _, _, _, _, -, -, -, -, -, -, -, -, -, hr⟩ := claimRewards_ok h
  rw [hr]
  exact ⟨le_max_right _ _, rfl⟩

theorem pendingAt_eq (hw : WellFormed s) {p : StakePosition} {tier : StakingTier} {pending : ℤ}
    (hk : s.stakePosition.get? id = some p) (hactive : p.active = true)
    (htier : s.tier.get? p.tierId = some tier)
    (h : calculatePendingRewardsStatic env s p tier.rewardMultiplierBps = .ok pending) :
    pendingAt env s id = pending := by
  rw [pendingAt, getPendingRewards_eq hw hk hactive htier, h]
  rfl

/-- One more claim of a stake that was due from the start. -/
theorem Claimed.claim (hw : WellFormed s) (ht : Claimed env s total done t) (hfresh : id ∉ done)
    {pending : ℤ} (hdue : Due env user s id pending)
    (h : claimRewards tok self env user id t = .ok r) :
    r.1 = pendingAt env s id ∧ Claimed env s (total + r.1) (done ++ [id]) r.2 := by
  obtain ⟨p, tier, hk, -, hactive, htier, hpending⟩ := hdue.due
  obtain ⟨-, -, -, token, p', tier', tokens, hk', -, -, htier', hpending', -, -, -, -, hr⟩ :=
    claimRewards_ok h
  have hrest := ht.rest
  have hpool : rptAt env.timestamp t = rptAt env.timestamp s :=
    congrArg (·.rewardPerTokenStored) hrest
  have hweight : t.totalWeightedStake = s.totalWeightedStake :=
    congrArg (·.totalWeightedStake) hrest
  have htiers : t.tier = s.tier := congrArg (·.tier) hrest
  rw [ht.positions, if_neg hfresh, hk] at hk'
  obtain rfl := Option.some.inj hk'
  rw [htiers, htier] at htier'
  obtain rfl := Option.some.inj htier'
  refine ⟨?_, ?_, ?_⟩
  · rw [pendingAt_eq hw hk hactive htier hpending, calculatePendingRewardsStatic_ok hpending',
      calculatePendingRewardsStatic_ok hpending, pendingOf, pendingOf, hpool, hweight]
  · intro id'
    rw [hr, hpool]
    simp only [Store.get?_set, List.mem_append, List.mem_singleton]
    by_cases he : id' = id
    · subst he
      rw [if_pos rfl, if_pos (.inr rfl), hk]
      rfl
    · rw [if_neg he, ht.positions]
      simp only [he, or_false]
  · have htotal : t.totalRewardsDistributed = s.totalRewardsDistributed + total :=
      congrArg (·.totalRewardsDistributed) hrest
    rw [settled_of_late (claimRewards_upToNow h).1, hr, hrest, htotal]
    simp only [add_assoc]

theorem claimEach_cons {rest : List ℕ} : claimEach tok self env user (id :: rest) t = .ok r ↔
    ∃ first others, claimRewards tok self env user id t = .ok first ∧
      claimEach tok self env user rest first.2 = .ok others ∧
      r = (first.1 + others.1, others.2) :=
  Batch.inTurn_cons

/-- What one step says of its claim, over all of them. -/
theorem Claimed.claims (hw : WellFormed s) (hdue : ∀ id ∈ order, ∃ p, Due env user s id p)
    (hnodup : (done ++ order).Nodup) (ht : Claimed env s total done t)
    (h : claimEach tok self env user order t = .ok r) :
    r.1 = (order.map (pendingAt env s)).sum ∧
      Claimed env s (total + r.1) (done ++ order) r.2 := by
  induction order generalizing t total done r with
  | nil =>
    cases h
    rw [List.append_nil, add_zero]
    exact ⟨rfl, ht⟩
  | cons id rest ih =>
    obtain ⟨first, others, hclaim, hrest, rfl⟩ := claimEach_cons.mp h
    rw [List.append_cons] at hnodup
    obtain ⟨_, hhead⟩ := hdue id List.mem_cons_self
    have hfresh : id ∉ done :=
      fun hmem => List.disjoint_of_nodup_append (List.Nodup.of_append_left hnodup) hmem
        (List.mem_singleton_self id)
    obtain ⟨hpaid, ht₁⟩ := ht.claim hw hfresh hhead hclaim
    obtain ⟨hmore, ht₂⟩ := ih (fun i hi => hdue i (List.mem_cons_of_mem _ hi)) hnodup ht₁ hrest
    refine ⟨?_, ?_⟩
    · rw [List.map_cons, List.sum_cons, ← hpaid, ← hmore]
    · rw [List.append_cons, ← add_assoc]
      exact ht₂

theorem claimEach_upToNow (h : claimEach tok self env user order t = .ok r)
    (hnone : order = [] → UpToNow env t) : UpToNow env r.2 := by
  induction order generalizing t r with
  | nil =>
    cases h
    exact hnone rfl
  | cons id rest ih =>
    obtain ⟨first, others, hclaim, hrest, rfl⟩ := claimEach_cons.mp h
    have hlast : UpToNow env others.2 := ih hrest fun _ => claimRewards_upToNow hclaim
    exact hlast

theorem claimRewards_pays {token : Address} (htoken : t.rewardToken = some token)
    (h : claimRewards tok self env user id t = .ok r) :
    tok.transfer t.tokens token self user r.1 = some r.2.tokens ∧
      r.2.rewardToken = some token := by
  obtain ⟨-, -, -, token', _, _, tokens, -, -, -, -, -, -, -, htoken', hpaid, hr⟩ :=
    claimRewards_ok h
  obtain rfl := Option.some.inj (htoken.symm.trans htoken')
  rw [hr]
  exact ⟨hpaid, htoken⟩

/-- Single claims pay in parts. -/
theorem claimEach_pays {token : Address} (htoken : t.rewardToken = some token)
    (h : claimEach tok self env user order t = .ok r) :
    ∃ amounts, amounts.sum = r.1 ∧ (∀ n ∈ amounts, 0 ≤ n) ∧
      tok.settle t.tokens (tranches token self user amounts) = some r.2.tokens := by
  induction order generalizing t r with
  | nil =>
    cases h
    exact ⟨[], rfl, nofun, rfl⟩
  | cons id rest ih =>
    obtain ⟨first, others, hclaim, hrest, rfl⟩ := claimEach_cons.mp h
    obtain ⟨-, -, -, _, _, _, _, -, -, -, -, -, hpos, -⟩ := claimRewards_ok hclaim
    obtain ⟨hhead, hkeep⟩ := claimRewards_pays htoken hclaim
    obtain ⟨amounts, hsum, hnonneg, htail⟩ := ih hkeep hrest
    exact ⟨first.1 :: amounts, by rw [List.sum_cons, hsum],
      List.forall_mem_cons.mpr ⟨hpos.le, hnonneg⟩, Token.settle_cons hhead htail⟩

/-- The snapshots that a batch moves. -/
theorem get?_settleStore_map (rpt : ℤ) (f : ℕ → ℤ) (positions : Store ℕ StakePosition) (id : ℕ) :
    (settleStore rpt (ids.zip (ids.map f)) positions).get? id =
      if id ∈ ids ∧ 0 < f id then (positions.get? id).map (·.paidAt rpt)
      else positions.get? id := by
  induction ids generalizing positions with
  | nil => simp [settleStore]
  | cons id' rest ih =>
    simp only [List.map_cons, List.zip_cons_cons, settleStore, List.mem_cons]
    by_cases he : id = id'
    · subst he
      by_cases hpos : 0 < f id
      · cases hk : positions.get? id with
        | none => simp [hpos, ih, hk]
        | some p => simp [hpos, ih, StakePosition.paidAt]
      · simp [hpos, ih]
    · by_cases hpos : f id' > 0
      · cases hk : positions.get? id' with
        | none => simp [hpos, ih, he]
        | some p => simp [hpos, ih, he, Store.get?_set_ne]
      · simp [hpos, ih, he]

theorem Due.pendingAt_eq (hw : WellFormed s) {pending : ℤ} (h : Due env user s id pending) :
    pending = pendingAt env s id := by
  obtain ⟨p, tier, hk, -, hactive, htier, hpending⟩ := h.due
  exact (Staking.pendingAt_eq hw hk hactive htier hpending).symm

theorem Due.nonneg (hw : WellFormed s) (ha : Accrued s) {pending : ℤ}
    (h : Due env user s id pending) : 0 ≤ pendingAt env s id := by
  rw [← h.pendingAt_eq hw]
  obtain ⟨p, tier, hk, -, hactive, htier, hpending⟩ := h.due
  rw [calculatePendingRewardsStatic_ok hpending]
  exact (pending_le_due hw ha hk hactive htier).1

theorem pendings_map (hw : WellFormed s) {pendings : List ℤ}
    (h : List.Forall₂ (Due env user s) ids pendings) :
    pendings = ids.map (pendingAt env s) ∧ ∀ id ∈ ids, ∃ p, Due env user s id p := by
  induction h with
  | nil => exact ⟨rfl, nofun⟩
  | cons hhead _ ih =>
    rw [List.map_cons, ← hhead.pendingAt_eq hw, ← ih.1]
    exact ⟨rfl, List.forall_mem_cons.mpr ⟨⟨_, hhead⟩, ih.2⟩⟩

/-- What a batch pays and writes. -/
theorem claimRewardsBatch_claimed (hw : WellFormed s) (ha : Accrued s)
    (h : claimRewardsBatch tok self env user ids s = .ok r) :
    (∀ id ∈ ids, ∃ p, Due env user s id p) ∧ r.1 = (ids.map (pendingAt env s)).sum ∧
      UpToNow env r.2 ∧
      Claimed env s r.1 (ids.filter fun id => decide (0 < pendingAt env s id)) r.2 := by
  obtain ⟨-, -, -, -, token, pendings, tokens, hdue, hpaid, -, -, -, -, hr⟩ :=
    claimRewardsBatch_ok h
  have hsum := pendings_eq hw ha hdue
  obtain ⟨hmap, hall⟩ := pendings_map hw hdue
  refine ⟨hall, hpaid.trans hsum, ?_, ?_, ?_⟩
  · rw [hr]
    exact ⟨le_max_right _ _, rfl⟩
  · intro id
    rw [hr, hmap]
    simp only [get?_settleStore_map, List.mem_filter, decide_eq_true_eq]
  · rw [hr, settled_of_late (le_max_right _ _)]

theorem distributed_nonneg (hs : Reachable tok self s) : 0 ≤ s.totalRewardsDistributed := by
  refine ReachableVia.induction (P := fun s => 0 ≤ s.totalRewardsDistributed)
    (fun tokens => le_rfl) ?_ hs
  intro s a s' _ _ h hnonneg
  cases h with
  | initializeContract => exact le_rfl
  | unstake _ _ _ _ _ _ pending => exact add_nonneg hnonneg (le_max_right pending 0)
  | claimRewards _ _ _ _ _ _ _ _ _ _ _ _ _ positive => exact add_nonneg hnonneg positive.le
  | claimRewardsBatch _ _ _ _ _ _ _ positive => exact add_nonneg hnonneg positive.le
  | emergencyWithdrawAll _ _ _ _ _ _ _ _ closings =>
    simp only
    rw [closings.frame]
    exact hnonneg
  | _ => exact hnonneg

theorem pendingList_completes (hw : WellFormed s)
    (hdue : ∀ id ∈ ids, ∃ p, Due env user s id p) :
    ∃ pendings, pendingList env user s ids = .ok pendings := by
  induction ids with
  | nil => exact ⟨[], rfl⟩
  | cons id rest ih =>
    obtain ⟨⟨pending, hhead⟩, hrest⟩ := List.forall_mem_cons.mp hdue
    obtain ⟨p, tier, hk, hmine, hactive, htier, hpending⟩ := hhead.due
    obtain ⟨pendings, hpendings⟩ := ih hrest
    have hid := (hw.positions id p hk).1
    have htierId := (hw.tiered id p hk).1
    refine ⟨pending :: pendings, ?_⟩
    unfold pendingList
    simp only [loadStake_bind, loadTier_bind, panicIf_bind, ne_eq, not_not, Bool.not_eq_false]
    refine ⟨by omega, p, hk, hmine, hactive, htierId, tier, htier, ?_⟩
    rw [hpending, hpendings]
    rfl

theorem settleList_completes (rpt : ℤ) {pendings : List ℤ}
    (hstored : ∀ id ∈ ids, id ≠ 0 ∧ ∃ p, t.stakePosition.get? id = some p)
    (hnonneg : ∀ pending ∈ pendings, 0 ≤ pending) (htotal : 0 ≤ total)
    (hfits : I128.InRange (total + pendings.sum)) :
    ∃ r, settleList rpt (ids.zip pendings) total t = .ok r := by
  induction ids generalizing pendings total t with
  | nil => exact ⟨_, rfl⟩
  | cons id rest ih =>
    cases pendings with
    | nil => exact ⟨_, rfl⟩
    | cons pending pendings =>
      obtain ⟨⟨hid, p, hk⟩, hothers⟩ := List.forall_mem_cons.mp hstored
      obtain ⟨hhead, htail⟩ := List.forall_mem_cons.mp hnonneg
      rw [List.sum_cons, ← add_assoc] at hfits
      simp only [List.zip_cons_cons, settleList]
      split
      · have hmore : 0 ≤ pendings.sum := List.sum_nonneg htail
        have hpart : I128.InRange (total + pending) := hfits.of_le (by omega) (by omega)
        have hkeep : ∀ i ∈ rest, i ≠ 0 ∧
            ∃ q, (t.stakePosition.set id (p.paidAt rpt)).get? i = some q := by
          intro i hi
          obtain ⟨hne, q, hq⟩ := hothers i hi
          rw [Store.get?_set]
          split
          · exact ⟨hne, _, rfl⟩
          · exact ⟨hne, q, hq⟩
        obtain ⟨r, hr⟩ := ih (t := { t with stakePosition := t.stakePosition.set id (p.paidAt rpt) })
          hkeep htail (add_nonneg htotal hhead) hfits
        refine ⟨r, ?_⟩
        simp only [loadStake_bind, I128.checked_bind]
        exact ⟨hid, p, hk, hpart, hr⟩
      · rename_i hzero
        obtain rfl : pending = 0 := by omega
        rw [add_zero] at hfits
        exact ih hothers htail htotal hfits

/-- A batch of claimable stakes goes through when its one payment does. -/
theorem claimRewardsBatch_completes (hs : Reachable tok self s)
    (hauth : env.authorized user = true) (hunlocked : s.reentrancyLock = false) (hne : ids ≠ [])
    (hlength : ids.length ≤ maxBatchSize) (hdue : ∀ id ∈ ids, ∃ p, Due env user s id p)
    (settles : updatePool env s = .ok (settled env.timestamp s))
    (hpos : 0 < (ids.map (pendingAt env s)).sum)
    (hfits : I128.InRange (s.totalRewardsDistributed + (ids.map (pendingAt env s)).sum))
    {token : Address} {tokens : τ} (htoken : s.rewardToken = some token)
    (hpaid : tok.transfer s.tokens token self user (ids.map (pendingAt env s)).sum = some tokens) :
    claimRewardsBatch tok self env user ids s = .ok ((ids.map (pendingAt env s)).sum,
      { settled env.timestamp s with
        stakePosition := settleStore (rptAt env.timestamp s)
          (ids.zip (ids.map (pendingAt env s))) s.stakePosition
        totalRewardsDistributed := s.totalRewardsDistributed + (ids.map (pendingAt env s)).sum
        tokens, reentrancyLock := false }) := by
  have hw := hs.wellFormed
  have hnonneg := distributed_nonneg hs
  obtain ⟨pendings, hpendings⟩ := pendingList_completes hw hdue
  have hforall := pendingList_ok hpendings
  have hsum := pendings_eq hw hs.accrued hforall
  obtain ⟨hmap, -⟩ := pendings_map hw hforall
  change paidOut pendings = (ids.map (pendingAt env s)).sum at hsum
  have hstored : ∀ id ∈ ids, id ≠ 0 ∧
      ∃ p, (settled env.timestamp s).stakePosition.get? id = some p := by
    intro id hid
    obtain ⟨_, hhead⟩ := hdue id hid
    obtain ⟨p, tier, hk, -⟩ := hhead.due
    exact ⟨Nat.one_le_iff_ne_zero.mp (hw.positions id p hk).1, p, hk⟩
  have hpendingsNonneg : ∀ pending ∈ pendings, 0 ≤ pending := by
    rw [hmap, List.forall_mem_map]
    intro id hid
    obtain ⟨_, hhead⟩ := hdue id hid
    exact hhead.nonneg hw hs.accrued
  obtain ⟨⟨total, s₂⟩, hsettle⟩ := settleList_completes (rptAt env.timestamp s) hstored
    hpendingsNonneg le_rfl (hfits.of_le (by rw [hmap]; omega) (by rw [hmap]; omega))
  obtain ⟨rfl, rfl⟩ := settleList_ok hforall.length_eq hsettle
  rw [zero_add, hsum] at hsettle
  unfold claimRewardsBatch
  simp only [requireAuth_bind, panicIf_bind, not_lt]
  refine ⟨hauth, hne, hlength, ?_⟩
  rw [hpendings, ok_bind, settles, ok_bind]
  change (settleList (rptAt env.timestamp s) _ 0 _ >>= _) = _
  rw [hsettle, ok_bind]
  simp only [panicIf_bind, distributed, bind_assoc, ok_bind, I128.checked_bind, getRewardToken,
    expect_bind, transferToken_bind]
  exact ⟨by omega, hfits, token, htoken, ⟨hunlocked, hpos⟩, tokens, hpaid, by rw [hmap]; rfl⟩

/-- One more claim goes through when its payment does. -/
theorem Claimed.completes (hs : Reachable tok self s) (ht : Claimed env s total done t)
    (hreach : Reachable tok self t) (hat : t = s ∨ env.timestamp ≤ t.lastRewardTime)
    (hauth : env.authorized user = true) (hunlocked : t.reentrancyLock = false)
    (settles : updatePool env s = .ok (settled env.timestamp s)) (hfresh : id ∉ done)
    (hdue : ∃ p, Due env user s id p) (hpos : 0 < pendingAt env s id)
    (hfits : I128.InRange (s.totalRewardsDistributed + total + pendingAt env s id))
    {token : Address} {tokens : τ} (htoken : s.rewardToken = some token)
    (hpaid : tok.transfer t.tokens token self user (pendingAt env s id) = some tokens) :
    ∃ r, claimRewards tok self env user id t = .ok r := by
  have hw := hs.wellFormed
  obtain ⟨pending, hdue⟩ := hdue
  obtain rfl := hdue.pendingAt_eq hw
  obtain ⟨p, tier, hk, hmine, hactive, htier, hpending⟩ := hdue.due
  have hrest := ht.rest
  have htotal : t.totalRewardsDistributed = s.totalRewardsDistributed + total :=
    congrArg (·.totalRewardsDistributed) hrest
  have htoken' : t.rewardToken = some token := (congrArg (·.rewardToken) hrest).trans htoken
  have hstored : t.stakePosition.get? id = some p := by
    rw [ht.positions, if_neg hfresh, hk]
  have htiers : t.tier.get? p.tierId = some tier := by
    rw [show t.tier = s.tier from congrArg (·.tier) hrest, htier]
  -- The first claim settles the pool; after it the accumulator stands at the same value.
  have hcalc : calculatePendingRewardsStatic env t p tier.rewardMultiplierBps =
      .ok (pendingAt env s id) ∧ updatePool env t = .ok (settled env.timestamp t) := by
    rcases hat with rfl | hlate
    · exact ⟨hpending, settles⟩
    · have hrpt : t.rewardPerTokenStored = rptAt env.timestamp s := by
        rw [← settled_of_late hlate]
        exact congrArg (·.rewardPerTokenStored) hrest
      have hlast : t.lastRewardTime = max s.lastRewardTime env.timestamp := by
        rw [← settled_of_late hlate]
        exact congrArg (·.lastRewardTime) hrest
      have hweight : t.totalWeightedStake = s.totalWeightedStake :=
        congrArg (·.totalWeightedStake) hrest
      refine ⟨?_, ?_⟩
      · rw [static_settled hs.accrued hreach.accrued hk settles hrpt hlast (.inl (by rw [hweight])),
          hpending]
      · rw [updatePool, if_pos hlate, settled_of_late hlate]
  have hid := (hw.positions id p hk).1
  have htierId := (hw.tiered id p hk).1
  refine ⟨(pendingAt env s id, { settled env.timestamp t with
    stakePosition := t.stakePosition.set id (p.paidAt (rptAt env.timestamp t))
    totalRewardsDistributed := t.totalRewardsDistributed + pendingAt env s id
    tokens, reentrancyLock := false }), ?_⟩
  unfold claimRewards
  simp only [requireAuth_bind, loadStake_bind, panicIf_bind, loadTier_bind, ne_eq, not_not,
    Bool.not_eq_false]
  refine ⟨hauth, by omega, p, hstored, hmine, hactive, htierId, tier, htiers, ?_⟩
  rw [hcalc.1, ok_bind, panicIf_bind, hcalc.2, ok_bind]
  simp only [distributed, bind_assoc, ok_bind, I128.checked_bind, getRewardToken, expect_bind,
    transferToken_bind]
  refine ⟨by omega, ?_, token, htoken', ⟨hunlocked, hpos⟩, tokens, hpaid, rfl⟩
  change I128.InRange (t.totalRewardsDistributed + _)
  rw [htotal]
  exact hfits

theorem Reachable.claim (hs : Reachable tok self s)
    (h : claimRewards tok self env user id s = .ok r) : Reachable tok self r.2 :=
  hs.step (a := .call env (.claimRewards user id)) (map_ok.mpr ⟨r, h, rfl⟩)

/-- Claims of different stakes go through when their payments do. -/
theorem Claimed.claims_complete (hs : Reachable tok self s) (ht : Claimed env s total done t)
    (hreach : Reachable tok self t) (hat : t = s ∨ env.timestamp ≤ t.lastRewardTime)
    (hauth : env.authorized user = true) (hunlocked : t.reentrancyLock = false)
    (settles : updatePool env s = .ok (settled env.timestamp s)) (hnodup : (done ++ order).Nodup)
    (hdue : ∀ id ∈ order, (∃ p, Due env user s id p) ∧ 0 < pendingAt env s id)
    (htotal : 0 ≤ total) (hfits : I128.InRange
      (s.totalRewardsDistributed + total + (order.map (pendingAt env s)).sum))
    {token : Address} (htoken : s.rewardToken = some token) {tokens : τ}
    (hpays : tok.settle t.tokens (tranches token self user (order.map (pendingAt env s))) =
      some tokens) :
    ∃ r, claimEach tok self env user order t = .ok r := by
  induction order generalizing t total done with
  | nil => exact ⟨_, rfl⟩
  | cons id rest ih =>
    obtain ⟨⟨hhead, hpos⟩, hothers⟩ := List.forall_mem_cons.mp hdue
    rw [List.map_cons, List.sum_cons] at hfits
    rw [List.append_cons] at hnodup
    have hfresh : id ∉ done :=
      fun hmem => List.disjoint_of_nodup_append (List.Nodup.of_append_left hnodup) hmem
        (List.mem_singleton_self id)
    have hmore : 0 ≤ (rest.map (pendingAt env s)).sum := by
      refine List.sum_nonneg (List.forall_mem_map.mpr fun i hi => ?_)
      exact (hothers i hi).2.le
    have hnonneg := distributed_nonneg hs
    obtain ⟨tokens₁, hpaid, hlater⟩ := Token.settle_cons_some.mp hpays
    obtain ⟨first, hclaim⟩ := ht.completes hs hreach hat hauth hunlocked settles hfresh hhead hpos
      (hfits.of_le (by omega) (by omega)) htoken hpaid
    obtain ⟨pending, hdueHead⟩ := hhead
    obtain ⟨hfirst, ht₁⟩ := ht.claim hs.wellFormed hfresh hdueHead hclaim
    have hnow := claimRewards_upToNow hclaim
    obtain ⟨hpaid', -⟩ := claimRewards_pays ((congrArg (·.rewardToken) ht.rest).trans htoken) hclaim
    rw [hfirst] at hpaid'
    obtain rfl := Option.some.inj (hpaid.symm.trans hpaid')
    obtain ⟨others, hrest⟩ := ih ht₁ (hreach.claim hclaim) (.inr hnow.1) hnow.2 hnodup hothers
      (by omega) (by rw [hfirst]; convert hfits using 1; ring) hlater
    exact ⟨_, claimEach_cons.mpr ⟨first, others, hclaim, hrest, rfl⟩⟩

theorem claimEach_fits (h : claimEach tok self env user order t = .ok r)
    (hfits : I128.InRange t.totalRewardsDistributed) :
    I128.InRange r.2.totalRewardsDistributed := by
  induction order generalizing t r with
  | nil =>
    cases h
    exact hfits
  | cons id rest ih =>
    obtain ⟨first, others, hclaim, hrest, rfl⟩ := claimEach_cons.mp h
    obtain ⟨-, -, hhead, _, _, _, _, -, -, -, -, -, -, -, -, -, hr⟩ := claimRewards_ok hclaim
    have hlast : I128.InRange others.2.totalRewardsDistributed := ih hrest (by rw [hr]; exact hhead)
    exact hlast

end Batches

section Batches

variable {τ : Type} (tok : Token τ) (self : Address) (env : Env) (user : Address) (ids : List ℕ)
  (s : State τ)

/-- A batch that paid `r.1` and left `r.2` did what single claims do, and what any list of its
stakes does. -/
structure BatchOfSingles (r : ℤ × State τ) : Prop where
  pays : r.1 = Batch.distinctTotal (pendingAt env s) ids
  singles : ∀ order r', Batch.Once (pendingAt env s) ids order →
    claimEach tok self env user order s = .ok r' →
    r'.1 = r.1 ∧ SameLedger r.2 r'.2 ∧ (tok.Exact → ∀ token holder,
      tok.balance r'.2.tokens token holder = tok.balance r.2.tokens token holder)
  complete : tok.Exact → tok.Honours → tok.Covered → ∀ order,
    Batch.Once (pendingAt env s) ids order →
      ∃ r', claimEach tok self env user order s = .ok r'
  lists : ∀ ids', ids'.toFinset = ids.toFinset → ids'.length ≤ maxBatchSize →
    Batch.PaysOnce (pendingAt env s) ids' →
      ∃ s', claimRewardsBatch tok self env user ids' s = .ok (r.1, s') ∧
        SameLedger r.2 s' ∧ s'.tokens = r.2.tokens

variable {tok self env user ids s}

theorem once_filter_mem {order : List ℕ} (h : Batch.Once (pendingAt env s) ids order) (id : ℕ) :
    id ∈ ids.filter (fun id => decide (0 < pendingAt env s id)) ↔ id ∈ order := by
  rw [h.mem, List.mem_filter, decide_eq_true_eq]

theorem pendingAt_nonneg (hs : Reachable tok self s)
    (hdue : ∀ id ∈ ids, ∃ p, Due env user s id p) : ∀ id ∈ ids, 0 ≤ pendingAt env s id := by
  intro id hid
  obtain ⟨_, hhead⟩ := hdue id hid
  exact hhead.nonneg hs.wellFormed hs.accrued

theorem due_of_once (hdue : ∀ id ∈ ids, ∃ p, Due env user s id p) {order : List ℕ}
    (horder : Batch.Once (pendingAt env s) ids order) :
    ∀ id ∈ order, (∃ p, Due env user s id p) ∧ 0 < pendingAt env s id := by
  intro id hid
  obtain ⟨hlisted, hpays⟩ := (horder.mem id).mp hid
  exact ⟨hdue id hlisted, hpays⟩

section Paid

variable {r : ℤ × State τ} (hs : Reachable tok self s)
  (h : claimRewardsBatch tok self env user ids s = .ok r)

include hs h

variable (hpays : r.1 = Batch.distinctTotal (pendingAt env s) ids)

include hpays

/-- Single claims of the stakes of a batch that pays each once end where the batch does. -/
theorem claimRewardsBatch_singles {order : List ℕ} {r' : ℤ × State τ}
    (horder : Batch.Once (pendingAt env s) ids order)
    (hclaims : claimEach tok self env user order s = .ok r') :
    r'.1 = r.1 ∧ SameLedger r.2 r'.2 ∧ (tok.Exact → ∀ token holder,
      tok.balance r'.2.tokens token holder = tok.balance r.2.tokens token holder) := by
  have hw := hs.wellFormed
  obtain ⟨hdue, -, hnow, hclaimed⟩ := claimRewardsBatch_claimed hw hs.accrued h
  obtain ⟨-, -, -, -, token, _, tokens, -, -, hpos, -, htoken, hpaid, hr⟩ := claimRewardsBatch_ok h
  have hnodup : ([] ++ order).Nodup := horder.nodup
  obtain ⟨hpaid', hclaimed'⟩ := (Claimed.start env s).claims hw
    (fun id hid => (due_of_once hdue horder id hid).1) hnodup hclaims
  rw [horder.sum (pendingAt_nonneg hs hdue), ← hpays] at hpaid'
  rw [zero_add, hpaid'] at hclaimed'
  -- Something is paid, so the last claim has settled the pool.
  have hnow' : UpToNow env r'.2 := by
    refine claimEach_upToNow hclaims ?_
    rintro rfl
    cases hclaims
    simp only at hpaid'
    omega
  refine ⟨hpaid', hclaimed.same hclaimed' (once_filter_mem horder) hnow hnow', ?_⟩
  intro hex token' holder
  obtain ⟨amounts, hparts, -, hsettled⟩ := claimEach_pays htoken hclaims
  rw [hex.settle hsettled, netFlow_tranches, hparts, hpaid', hr,
    hex.settle (Token.settle_one hpaid), netFlow_cons, netFlow_nil, add_zero]

/-- The single claims go through where tokens are honest. -/
theorem claimRewardsBatch_singles_complete (hex : tok.Exact) (hhonours : tok.Honours)
    (hcovered : tok.Covered) {order : List ℕ}
    (horder : Batch.Once (pendingAt env s) ids order) :
    ∃ r', claimEach tok self env user order s = .ok r' := by
  obtain ⟨hdue, -⟩ := claimRewardsBatch_claimed hs.wellFormed hs.accrued h
  obtain ⟨hauth, hunlocked, -, hfits, token, _, tokens, -, -, hpos, settles, htoken, hpaid, -⟩ :=
    claimRewardsBatch_ok h
  have htotal : (order.map (pendingAt env s)).sum = r.1 := by
    rw [horder.sum (pendingAt_nonneg hs hdue), hpays]
  have hparts : ∀ n ∈ order.map (pendingAt env s), 0 ≤ n :=
    List.forall_mem_map.mpr fun id hid => (due_of_once hdue horder id hid).2.le
  have hwhole := hcovered _ _ _ _ _ _ hpaid
  have hpayable : ∃ t', tok.settle s.tokens
      (tranches token self user (order.map (pendingAt env s))) = some t' := by
    refine (Token.settle_tranches_iff hex hhonours hcovered hparts).mpr
      ⟨fun n hn => ?_, fun _ => by rw [htotal]; exact hwhole⟩
    have hle := List.single_le_sum hparts n hn
    omega
  obtain ⟨tokens', hsettled⟩ := hpayable
  refine (Claimed.start env s).claims_complete hs hs (.inl rfl) hauth hunlocked
    settles horder.nodup (due_of_once hdue horder) le_rfl ?_ htoken hsettled
  rw [htotal, add_zero]
  exact hfits

/-- Every list of the same stakes that pays each once is a batch with the same end. -/
theorem claimRewardsBatch_lists {ids' : List ℕ} (hsame : ids'.toFinset = ids.toFinset)
    (hlength : ids'.length ≤ maxBatchSize) (honce : Batch.PaysOnce (pendingAt env s) ids') :
    ∃ s', claimRewardsBatch tok self env user ids' s = .ok (r.1, s') ∧
      SameLedger r.2 s' ∧ s'.tokens = r.2.tokens := by
  have hw := hs.wellFormed
  obtain ⟨hdue, -, hnow, hclaimed⟩ := claimRewardsBatch_claimed hw hs.accrued h
  have hnonneg := pendingAt_nonneg hs hdue
  obtain ⟨hauth, hunlocked, -, hfits, token, _, tokens, -, -, hpos, settles, htoken, hpaid, hr⟩ :=
    claimRewardsBatch_ok h
  have hmem : ∀ id, id ∈ ids' ↔ id ∈ ids := by
    intro id
    rw [← List.mem_toFinset, hsame, List.mem_toFinset]
  have hsum : (ids'.map (pendingAt env s)).sum = r.1 := by
    rw [(Batch.sum_eq_distinctTotal_iff fun id hid => hnonneg id ((hmem id).mp hid)).mpr honce,
      Batch.distinctTotal_congr hsame, hpays]
  have hne : ids' ≠ [] := by
    rintro rfl
    simp only [List.map_nil, List.sum_nil] at hsum
    omega
  have hbatch := claimRewardsBatch_completes hs hauth hunlocked hne hlength
    (fun id hid => hdue id ((hmem id).mp hid)) settles (by rw [hsum]; exact hpos)
    (by rw [hsum]; exact hfits) htoken (by rw [hsum]; exact hpaid)
  rw [hsum] at hbatch
  obtain ⟨-, -, hnow', hclaimed'⟩ := claimRewardsBatch_claimed hw hs.accrued hbatch
  refine ⟨_, hbatch, hclaimed.same hclaimed' (fun id => ?_) hnow hnow', by rw [hr]⟩
  simp only [List.mem_filter, hmem]

end Paid

/-- A batch agrees with single claims if it repeats no stake that is paid. -/
theorem BatchOfSingles.of_paysOnce (hs : Reachable tok self s) {r : ℤ × State τ}
    (h : claimRewardsBatch tok self env user ids s = .ok r)
    (honce : Batch.PaysOnce (pendingAt env s) ids) :
    BatchOfSingles tok self env user ids s r := by
  obtain ⟨hdue, hsum, -⟩ := claimRewardsBatch_claimed hs.wellFormed hs.accrued h
  have hnonneg := pendingAt_nonneg hs hdue
  have hpays : r.1 = Batch.distinctTotal (pendingAt env s) ids := by
    rw [hsum, (Batch.sum_eq_distinctTotal_iff hnonneg).mpr honce]
  exact {
    pays := hpays
    singles := fun _ _ horder hclaims => claimRewardsBatch_singles hs h hpays horder hclaims
    complete := fun hex hhonours hcovered _ horder =>
      claimRewardsBatch_singles_complete hs h hpays hex hhonours hcovered horder
    lists := fun _ hsame hlength honce' =>
      claimRewardsBatch_lists hs h hpays hsame hlength honce' }

/-- A batch that repeats no stake that is paid goes through when the single claims do. -/
theorem claimRewardsBatch_of_singles (hex : tok.Exact) (hhonours : tok.Honours)
    (hcovered : tok.Covered) (hself : self ≠ user) (hs : Reachable tok self s)
    (hdue : ∀ id ∈ ids, ∃ p, Due env user s id p) (hlength : ids.length ≤ maxBatchSize)
    (honce : Batch.PaysOnce (pendingAt env s) ids) {order : List ℕ}
    (horder : Batch.Once (pendingAt env s) ids order) (hne : order ≠ []) {r : ℤ × State τ}
    (h : claimEach tok self env user order s = .ok r) :
    ∃ r', claimRewardsBatch tok self env user ids s = .ok r' := by
  have hw := hs.wellFormed
  have hnonneg := pendingAt_nonneg hs hdue
  obtain ⟨id, rest, rfl⟩ := List.exists_cons_of_ne_nil hne
  have hnodup : ([] ++ id :: rest).Nodup := horder.nodup
  obtain ⟨hpaid, hclaimed⟩ := (Claimed.start env s).claims hw
    (fun i hi => hdue i ((horder.mem i).mp hi).1) hnodup h
  have hsum : (ids.map (pendingAt env s)).sum = r.1 := by
    rw [hpaid, horder.sum hnonneg, (Batch.sum_eq_distinctTotal_iff hnonneg).mpr honce]
  have htotal : r.2.totalRewardsDistributed = s.totalRewardsDistributed + r.1 := by
    have hrest := congrArg (·.totalRewardsDistributed) hclaimed.rest
    simp only [settled, zero_add] at hrest
    exact hrest
  have hfirst : 0 < pendingAt env s id := ((horder.mem id).mp List.mem_cons_self).2
  have hothers : 0 ≤ (rest.map (pendingAt env s)).sum := by
    refine List.sum_nonneg (List.forall_mem_map.mpr fun i hi => ?_)
    exact hnonneg i ((horder.mem i).mp (List.mem_cons_of_mem _ hi)).1
  rw [List.map_cons, List.sum_cons] at hpaid
  obtain ⟨first, others, hclaim, hrest, hr⟩ := claimEach_cons.mp h
  obtain ⟨hauth, hunlocked, hfits, token, _, _, _, -, -, -, -, -, -, settles, htoken, -, hstate⟩ :=
    claimRewards_ok hclaim
  have hlast := claimEach_fits hrest (by rw [hstate]; exact hfits)
  have hcover : r.1 ≤ tok.balance s.tokens token self := by
    obtain ⟨amounts, hparts, hpartsNonneg, hsettled⟩ := claimEach_pays htoken h
    rw [← hparts]
    exact ((Token.settle_tranches_iff hex hhonours hcovered hpartsNonneg).mp ⟨_, hsettled⟩).2 hself
  obtain ⟨tokens, hout⟩ := hhonours s.tokens token self user r.1 (by omega) hcover
  have hlisted : ids ≠ [] := List.ne_nil_of_mem ((horder.mem id).mp List.mem_cons_self).1
  refine ⟨_, claimRewardsBatch_completes hs hauth hunlocked hlisted hlength hdue settles
    (by rw [hsum]; omega) ?_ htoken (by rw [hsum]; exact hout)⟩
  rw [hsum, ← htotal, hr]
  exact hlast

/-- A batch of a user's stakes does what single claims of them do exactly if no stake that is paid
is listed twice; and then it goes through when the single claims do. -/
theorem claimRewardsBatch_singles_iff (hs : Reachable tok self s) :
    (∀ r, claimRewardsBatch tok self env user ids s = .ok r →
      (BatchOfSingles tok self env user ids s r ↔ Batch.PaysOnce (pendingAt env s) ids)) ∧
    (tok.Exact → tok.Honours → tok.Covered → self ≠ user →
      Batch.PaysOnce (pendingAt env s) ids →
      (∀ id ∈ ids, ∃ p, Due env user s id p) → ids.length ≤ maxBatchSize →
      ∀ order r, Batch.Once (pendingAt env s) ids order → order ≠ [] →
        claimEach tok self env user order s = .ok r →
        ∃ r', claimRewardsBatch tok self env user ids s = .ok r') := by
  refine ⟨fun r h => ⟨fun hsingles => ?_, BatchOfSingles.of_paysOnce hs h⟩, ?_⟩
  · obtain ⟨hpays, -, -, -⟩ := hsingles
    obtain ⟨hdue, hsum, -⟩ := claimRewardsBatch_claimed hs.wellFormed hs.accrued h
    exact (Batch.sum_eq_distinctTotal_iff (pendingAt_nonneg hs hdue)).mp (hsum.symm.trans hpays)
  · intro hex hhonours hcovered hself honce hdue hlength order r horder hne h
    exact claimRewardsBatch_of_singles hex hhonours hcovered hself hs hdue hlength honce horder hne h

end Batches

section Runs

open Sample

/-- Alice stakes twice, and bob pays in a thousand. -/
def twoStakes : List (Action Balances) :=
  opened 10 ++ [call 0 (.stake alice 1000 1), call 0 (.fundRewards bob 1000)]

/-- Seven seconds pay thirty-five on each of two equal stakes. -/
theorem claimRewardsBatch_singles_two :
    ∃ (s : State Balances) (r : ℤ × State Balances), run twoStakes = .ok s ∧
      claimRewardsBatch asset contract (envAt 7) alice [2, 1] s = .ok r ∧ r.1 = 70 ∧
      BatchOfSingles asset contract (envAt 7) alice [2, 1] s r := by
  have h : After (fun s => After (fun r => r.1 = 70)
      (claimRewardsBatch asset contract (envAt 7) alice [2, 1] s)) (run twoStakes) := by
    decide +kernel
  obtain ⟨s, hs, hbatch⟩ := h.exists_ok
  obtain ⟨r, hr, hpaid⟩ := hbatch.exists_ok
  refine ⟨s, r, hs, hr, hpaid,
    ((claimRewardsBatch_singles_iff (run_reachable hs)).1 r hr).mpr fun id _ => ?_⟩
  exact List.nodup_iff_count_le_one.mp (by decide) id

/-- One stake listed twice is paid twice. -/
theorem claimRewardsBatch_pays_twice : ¬ ∀ (s : State Balances) (ids : List ℕ)
    (r : ℤ × State Balances), Reachable asset contract s →
      claimRewardsBatch asset contract (envAt 7) alice ids s = .ok r →
      BatchOfSingles asset contract (envAt 7) alice ids s r := by
  intro hall
  have h : After (fun s => pendingAt (envAt 7) s 1 = 35 ∧ After (fun r => r.1 = 70)
      (claimRewardsBatch asset contract (envAt 7) alice [1, 1] s)) (run twoStakes) := by
    decide +kernel
  obtain ⟨s, hs, hpending, hbatch⟩ := h.exists_ok
  obtain ⟨r, hr, hpaid⟩ := hbatch.exists_ok
  obtain ⟨hpays, -, -, -⟩ := hall s [1, 1] r (run_reachable hs) hr
  simp [Batch.distinctTotal, hpending, hpaid] at hpays

end Runs

end Staking
