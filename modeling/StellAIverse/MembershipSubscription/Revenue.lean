import StellAIverse.MembershipSubscription.Refunds

/-!
# Payouts and revenue

Over all members, refunds stay within the revenue because of what every single
subscription still holds. Referrers are paid half of a charge at most, when it is
made, and keep that when the charge is refunded; the two payouts together are
covered as long as only subscriptions without a reward are refunded.
-/

namespace MembershipSubscription

open Soroban

variable {τ : Type} {tok : AllowanceToken τ} {self : Address} {s s' : State τ} {a : Action τ}
  {tiers tiers' : Store ℕ MembershipTier} {tier : MembershipTier} {T now : ℕ} {member : Address}
  {sub sub' : Subscription} {receipt : Receipt}

/-- At most half of the price goes to the referrer. -/
theorem rewards_le (h : tier.Valid) {reward : ℤ} (hr : Rewards tier reward) :
    0 ≤ reward ∧ 2 * reward ≤ tier.pricePerPeriod := by
  have hprice := h.price
  rcases hr with rfl | ⟨hpos, hreward⟩
  · omega
  · have hbps : (tier.referralRewardBps : ℤ) ≤ 5000 := Int.ofNat_le.mpr h.reward
    have hfloor := I128.tdiv_mul_le (b := bpsDenominator)
      (mul_nonneg hprice.le (Int.natCast_nonneg tier.referralRewardBps)) (by decide)
    have hshare := mul_le_mul_of_nonneg_left hbps hprice.le
    rw [← hreward] at hfloor
    simp only [bpsDenominator] at hfloor
    omega

/-- A reward comes out of a charge. -/
structure Shared (receipt : Receipt) : Prop where
  reward : 0 ≤ receipt.reward
  half : 2 * receipt.reward ≤ receipt.charge

theorem shared_change (hv : AllValid tiers) {op : Op}
    (hchange : Change tiers now sub op receipt sub') : Shared receipt := by
  cases hchange with
  | expire | cancel | pause | resume => exact ⟨le_rfl, le_rfl⟩
  | renew m tier reward running due found rewards =>
    obtain ⟨hreward, hhalf⟩ := rewards_le (hv _ tier found) rewards
    exact ⟨hreward, hhalf⟩
  | changeTier => exact ⟨le_rfl, le_max_right _ _⟩

theorem shared_opens (h : tier.Valid) (hopens : Opens tier now sub receipt) : Shared receipt := by
  cases hopens with
  | trial => exact ⟨le_rfl, le_rfl⟩
  | paid reward status ends period paid rewarded rewards =>
    obtain ⟨hreward, hhalf⟩ := rewards_le h rewards
    exact ⟨hreward, hhalf⟩

theorem rewarded_change {op : Op} (hchange : Change tiers now sub op receipt sub') :
    sub'.totalReferralRewards = sub.totalReferralRewards + receipt.reward := by
  cases hchange with
  | expire | cancel | pause | resume | changeTier => exact (add_zero _).symm
  | renew => rfl

theorem rewarded_opens (hopens : Opens tier now sub receipt) :
    sub.totalReferralRewards = receipt.reward := by
  cases hopens with
  | trial status ends paid rewarded => exact rewarded
  | paid reward status ends period paid rewarded => exact rewarded

/-- What can be given back without a reward having been paid from it. -/
def spare (tiers : Store ℕ MembershipTier) (T : ℕ) (sub : Subscription) : ℤ :=
  if sub.totalReferralRewards = 0 then held tiers T sub else 0

theorem spare_le_held (hv : AllValid tiers) : spare tiers T sub ≤ held tiers T sub := by
  unfold spare
  split
  · exact le_rfl
  · exact held_nonneg hv T sub

theorem spare_nonneg (hv : AllValid tiers) : 0 ≤ spare tiers T sub := by
  unfold spare
  split
  · exact held_nonneg hv T sub
  · exact le_rfl

theorem spare_mono (hv : AllValid tiers) (h : Sound tiers T member sub) (hT : T ≤ now)
    (hkept : Kept tiers tiers') : spare tiers' now sub ≤ spare tiers T sub := by
  unfold spare
  split
  · exact held_mono hv h hT hkept
  · exact le_rfl

/-- A refund is paid only if no reward was. -/
def Action.RefundsUnrewarded (s : State τ) : Action τ → Prop
  | .call env (.cancelSubscription member) =>
    ∀ sub ∈ s.subscription.get? member,
      sub.totalReferralRewards = 0 ∨ sub.currentPeriodEnd ≤ env.timestamp
  | .call env (.changeTier member newTierId) =>
    ∀ sub ∈ s.subscription.get? member, sub.totalReferralRewards = 0 ∨
      ∀ tier ∈ s.tier.get? newTierId, unusedAt s.tier sub env.timestamp ≤ tier.pricePerPeriod
  | _ => True

instance (s : State τ) : (a : Action τ) → Decidable (a.RefundsUnrewarded s)
  | .call _ (.cancelSubscription _) => inferInstanceAs (Decidable (∀ sub ∈ _, _ ∨ _))
  | .call _ (.changeTier ..) => inferInstanceAs (Decidable (∀ sub ∈ _, _ ∨ ∀ tier ∈ _, _))
  | .call _ (.initializeContract ..) | .call _ (.createTier ..) | .call _ (.updateTier ..)
  | .call _ (.subscribe ..) | .call _ (.renewSubscription ..) | .call _ (.pauseSubscription ..)
  | .call _ (.resumeSubscription ..) | .transfers _ => .isTrue trivial

/-- Where a reward was paid, nothing is refunded. -/
theorem refund_eq_zero {env : Env} {op : Op} (hacts : op.member = some member)
    (hfound : s.subscription.get? member = some sub)
    (hunrewarded : (Action.call env op).RefundsUnrewarded s) (hrewarded : sub.totalReferralRewards ≠ 0)
    (hchange : Change s.tier env.timestamp sub op receipt sub') : receipt.refund = 0 := by
  cases hchange with
  | expire | renew | pause | resume => rfl
  | cancel m live =>
    cases hacts
    have hover := (hunrewarded sub hfound).resolve_left hrewarded
    change unusedAt s.tier sub env.timestamp = 0
    unfold unusedAt
    rw [worth_of_le _ hover, ite_self]
  | changeTier m newTierId newTier running found =>
    cases hacts
    have hle := (hunrewarded sub hfound).resolve_left hrewarded newTier found
    change max _ _ = _
    omega

theorem spare_change {env : Env} {op : Op} (h : Regular T s) (hT : T ≤ env.timestamp)
    (hacts : op.member = some member) (hfound : s.subscription.get? member = some sub)
    (hspares : (Action.call env op).SparesTrial s)
    (hunrewarded : (Action.call env op).RefundsUnrewarded s)
    (hnonneg : 0 ≤ sub.totalReferralRewards)
    (hchange : Change s.tier env.timestamp sub op receipt sub') :
    receipt.refund + receipt.reward + spare s.tier env.timestamp sub' ≤
      spare s.tier T sub + receipt.charge := by
  obtain ⟨hreward, hhalf⟩ := shared_change h.valid hchange
  have hrewarded := rewarded_change hchange
  have hheld := held_change h.valid (h.sound member sub hfound) hchange hacts hT (by
    rintro rfl
    exact hspares sub hfound)
  by_cases hbefore : sub.totalReferralRewards = 0
  · by_cases hnow : receipt.reward = 0
    · have hsame : spare s.tier env.timestamp sub' ≤ held s.tier env.timestamp sub' :=
        spare_le_held h.valid
      unfold spare at hsame ⊢
      rw [if_pos hbefore]
      omega
    · -- The reward is taken from the charge of a renewal, which refunds nothing.
      have hrefund : receipt.refund = 0 := by
        cases hchange with
        | expire | renew | pause | resume => rfl
        | cancel | changeTier => exact absurd rfl hnow
      have hspare : 0 ≤ spare s.tier T sub := spare_nonneg h.valid
      have hzero : spare s.tier env.timestamp sub' = 0 := if_neg (by omega)
      omega
  · have hrefund := refund_eq_zero hacts hfound hunrewarded hbefore hchange
    have hspare : 0 ≤ spare s.tier T sub := spare_nonneg h.valid
    have hzero : spare s.tier env.timestamp sub' = 0 := if_neg (by omega)
    omega

theorem spare_opens (hv : AllValid tiers) (hfound : tiers.get? sub.tierId = some tier)
    (hopens : Opens tier now sub receipt) :
    receipt.refund + receipt.reward + spare tiers now sub ≤ receipt.charge := by
  obtain ⟨hcharge, hheld⟩ := held_opens hv hfound hopens
  obtain ⟨hreward, hhalf⟩ := shared_opens (hv _ tier hfound) hopens
  have hrewarded := rewarded_opens hopens
  by_cases hzero : receipt.reward = 0
  · have hle : spare tiers now sub ≤ held tiers now sub := spare_le_held hv
    omega
  · have hspare : spare tiers now sub = 0 := if_neg (by omega)
    have hrefund : receipt.refund = 0 := by
      cases hopens <;> rfl
    omega

/-- A measure of what a subscription holds, over all members. -/
def pool (w : Store ℕ MembershipTier → ℕ → Subscription → ℤ) (T : ℕ) (s : State τ) : ℤ :=
  s.subscription.total fun _ sub => w s.tier T sub

/-- If payouts and what one subscription holds are within its charge, so they are over all
members. -/
theorem pool_effect {w : Store ℕ MembershipTier → ℕ → Subscription → ℤ} {out : ℤ}
    (h : Regular T s) (hT : ∀ t, a.time = some t → T ≤ t) (hkeeps : a.KeepsTerms s)
    (heffect : Effect s a receipt s') (hnone : receipt = .none → out = 0)
    (hnonneg : ∀ sub, 0 ≤ w s.tier T sub)
    (hmono : ∀ {tiers' now member sub}, Sound s.tier T member sub → T ≤ now → Kept s.tier tiers' →
      w tiers' now sub ≤ w s.tier T sub)
    (hopens : ∀ {tier now sub}, s.tier.get? sub.tierId = some tier → Opens tier now sub receipt →
      out + w s.tier now sub ≤ receipt.charge)
    (hchange : ∀ {env op member sub sub'}, a = .call env op → op.member = some member →
      s.subscription.get? member = some sub → Change s.tier env.timestamp sub op receipt sub' →
      out + w s.tier env.timestamp sub' ≤ w s.tier T sub + receipt.charge) :
    out + pool w (a.time.getD T) s' ≤ pool w T s + receipt.charge := by
  have hkept := kept_effect hkeeps heffect
  have hlater : ∀ {now tiers'}, T ≤ now → Kept s.tier tiers' → ∀ member sub,
      s.subscription.get? member = some sub → w tiers' now sub ≤ w s.tier T sub :=
    fun hT hkept member sub hk => hmono (h.sound member sub hk) hT hkept
  cases heffect with
  | transfers =>
    rw [hnone rfl]
    change 0 + pool w T s ≤ pool w T s + 0
    omega
  | initializeContract | createTier | updateTier =>
    rw [hnone rfl, zero_add]
    exact (Store.total_le_total (hlater (hT _ rfl) hkept)).trans (add_zero _).ge
  | subscribed env member token tierId autoRenew referrer tier sub receipt analytics rewards lock
      tokens found free belongs opens books =>
    have hnew := hopens (belongs.2 ▸ found) opens
    have hset : (s.subscription.set member sub).total (fun _ sub => w s.tier env.timestamp sub) ≤
        pool w T s - s.subscription.weight (fun _ sub => w s.tier T sub) member +
          w s.tier env.timestamp sub :=
      Store.total_set_le member sub (hlater (hT _ rfl) hkept)
    have hold : 0 ≤ s.subscription.weight (fun _ sub => w s.tier T sub) member := by
      unfold Store.weight
      split
      · exact hnonneg _
      · exact le_rfl
    change out + (s.subscription.set member sub).total (fun _ sub => w s.tier env.timestamp sub) ≤ _
    omega
  | changed env op member key sub receipt sub' analytics rewards lock tokens acts found located
      change =>
    have hone := hchange rfl acts found change
    obtain rfl : key = member := located.elim id fun hk => hk.trans (h.sound member sub found).belongs
    have hset : (s.subscription.set key sub').total (fun _ sub => w s.tier env.timestamp sub) ≤
        pool w T s - s.subscription.weight (fun _ sub => w s.tier T sub) key +
          w s.tier env.timestamp sub' :=
      Store.total_set_le key sub' (hlater (hT _ rfl) hkept)
    rw [Store.weight_some found] at hset
    change out + (s.subscription.set key sub').total (fun _ sub => w s.tier env.timestamp sub) ≤ _
    omega

theorem held_effect (h : Regular T s) (hT : ∀ t, a.time = some t → T ≤ t) (hkeeps : a.KeepsTerms s)
    (hspares : a.SparesTrial s) (heffect : Effect s a receipt s') :
    receipt.refund + pool held (a.time.getD T) s' ≤ pool held T s + receipt.charge := by
  refine pool_effect h hT hkeeps heffect (fun he => by rw [he]; rfl) (held_nonneg h.valid T)
    (held_mono h.valid) (fun hfound hopens => ?_) (fun {env op member sub sub'} ha hacts hfound hone => ?_)
  · obtain ⟨hcharge, hheld⟩ := held_opens h.valid hfound hopens
    omega
  · subst ha
    exact held_change h.valid (h.sound member sub hfound) hone hacts (hT _ rfl) (by
      rintro rfl
      exact hspares sub hfound)

theorem spare_effect (h : Regular T s) (hT : ∀ t, a.time = some t → T ≤ t)
    (hkeeps : a.KeepsTerms s) (hspares : a.SparesTrial s) (hunrewarded : a.RefundsUnrewarded s)
    (hnonneg : ∀ member sub, s.subscription.get? member = some sub → 0 ≤ sub.totalReferralRewards)
    (heffect : Effect s a receipt s') :
    receipt.refund + receipt.reward + pool spare (a.time.getD T) s' ≤
      pool spare T s + receipt.charge := by
  refine pool_effect h hT hkeeps heffect (fun he => by rw [he]; rfl) (fun _ => spare_nonneg h.valid)
    (spare_mono h.valid) (spare_opens h.valid) (fun ha hacts hfound hone => ?_)
  subst ha
  exact spare_change h (hT _ rfl) hacts hfound hspares hunrewarded (hnonneg _ _ hfound) hone

theorem shared_effect (h : Regular T s) (heffect : Effect s a receipt s') : Shared receipt := by
  cases heffect with
  | transfers | initializeContract | createTier | updateTier => exact ⟨le_rfl, le_rfl⟩
  | subscribed env member token tierId autoRenew referrer tier sub receipt analytics rewards lock
      tokens found free belongs opens => exact shared_opens (h.valid _ tier found) opens
  | changed env op member key sub receipt sub' analytics rewards lock tokens acts found located
      change => exact shared_change h.valid change

theorem rewarded_effect (h : Regular T s)
    (hnonneg : ∀ member sub, s.subscription.get? member = some sub → 0 ≤ sub.totalReferralRewards)
    (heffect : Effect s a receipt s') :
    ∀ member sub, s'.subscription.get? member = some sub → 0 ≤ sub.totalReferralRewards := by
  have hshared := shared_effect h heffect
  cases heffect with
  | transfers | initializeContract | createTier | updateTier => exact hnonneg
  | subscribed env member token tierId autoRenew referrer tier sub receipt analytics rewards lock
      tokens found free belongs opens =>
    refine Store.forall_set hnonneg ?_
    rw [rewarded_opens opens]
    exact hshared.reward
  | changed env op member key sub receipt sub' analytics rewards lock tokens acts found located
      change =>
    refine Store.forall_set hnonneg ?_
    rw [rewarded_change change]
    exact add_nonneg (hnonneg member sub found) hshared.reward

/-- Every call is booked; initialization starts the books anew, before anyone subscribed. -/
theorem books_effect (h : Regular T s) (heffect : Effect s a receipt s') :
    Books s.analytics receipt s'.analytics ∨
      s'.analytics = .empty ∧ ∀ member, s'.subscription.get? member = none := by
  cases heffect with
  | transfers | createTier | updateTier => exact .inl (.same rfl rfl rfl)
  | initializeContract env admin fresh =>
    refine .inr ⟨rfl, fun member => ?_⟩
    by_contra hstored
    obtain ⟨sub, hk⟩ := Option.ne_none_iff_exists'.mp hstored
    obtain ⟨tier, htier⟩ := (h.sound member sub hk).tier
    cases (h.unset fresh sub.tierId).symm.trans htier
  | subscribed env member token tierId autoRenew referrer tier sub receipt analytics rewards lock
      tokens found free belongs opens books => exact .inl books
  | changed env op member key sub receipt sub' analytics rewards lock tokens acts found located
      change books => exact .inl books

/-- Nobody subscribed, nothing held. -/
theorem pool_empty {w : Store ℕ MembershipTier → ℕ → Subscription → ℤ}
    (h : ∀ member, s.subscription.get? member = none) : pool w T s = 0 :=
  Store.total_eq_zero fun member sub hk => by cases (h member).symm.trans hk

/-- The analytics cover what was paid out and what the subscriptions hold. -/
structure Funded (log : List (State τ × Action τ)) (T : ℕ) (s : State τ) : Prop where
  regular : Regular T s
  rewarded : ∀ member sub, s.subscription.get? member = some sub → 0 ≤ sub.totalReferralRewards
  refunds : s.analytics.totalRefunds + pool held T s ≤ s.analytics.totalRevenue
  rewards : 2 * s.analytics.totalReferralRewards ≤ s.analytics.totalRevenue
  payouts : (∀ e ∈ log, e.2.RefundsUnrewarded e.1) →
    s.analytics.totalRefunds + s.analytics.totalReferralRewards + pool spare T s ≤
      s.analytics.totalRevenue

theorem funded_deployed (tokens : τ) : Funded [] 0 (deployed tokens) where
  regular := regular_deployed tokens
  rewarded _ _ hk := by cases hk
  refunds := le_rfl
  rewards := le_rfl
  payouts _ := le_rfl

theorem funded_step {log : List (State τ × Action τ)} (h : Funded log T s)
    (hT : ∀ t, a.time = some t → T ≤ t) (hkeeps : a.KeepsTerms s) (hspares : a.SparesTrial s)
    (heffect : Effect s a receipt s') : Funded ((s, a) :: log) (a.time.getD T) s' := by
  have hregular := regular_effect h.regular hT hkeeps heffect
  have hrewarded := rewarded_effect h.regular h.rewarded heffect
  rcases books_effect h.regular heffect with hbooks | ⟨hanalytics, hnobody⟩
  · have hrefunds := h.refunds
    have hrewards := h.rewards
    have hheld := held_effect h.regular hT hkeeps hspares heffect
    have hhalf := (shared_effect h.regular heffect).half
    refine ⟨hregular, hrewarded, ?_, ?_, fun hlog => ?_⟩
    · rw [hbooks.refunds, hbooks.revenue]
      omega
    · rw [hbooks.rewards, hbooks.revenue]
      omega
    · have hpayouts := h.payouts fun e he => hlog e (List.mem_cons_of_mem _ he)
      have hspare := spare_effect h.regular hT hkeeps hspares (hlog _ List.mem_cons_self) h.rewarded
        heffect
      rw [hbooks.refunds, hbooks.rewards, hbooks.revenue]
      omega
  · refine ⟨hregular, hrewarded, ?_, ?_, fun _ => ?_⟩
    · rw [hanalytics, pool_empty hnobody]
      rfl
    · rw [hanalytics]
      rfl
    · rw [hanalytics, pool_empty hnobody]
      rfl

/-- In every run in which tiers keep their terms and no subscription is cancelled while its
trial is paused, refunds are within the revenue and rewards within half of it; where no
refund is paid on a subscription that paid a reward, both together are within the revenue. -/
theorem payouts_within_revenue {tokens : τ} {log : List (State τ × Action τ)}
    (hrun : History (next tok self)
      (fun log s a => OnTime Action.time log a ∧ a.KeepsTerms s ∧ a.SparesTrial s)
      (deployed tokens) log s) :
    s.analytics.totalRefunds ≤ s.analytics.totalRevenue ∧
    2 * s.analytics.totalReferralRewards ≤ s.analytics.totalRevenue ∧
    ((∀ e ∈ log, e.2.RefundsUnrewarded e.1) →
      s.analytics.totalRefunds + s.analytics.totalReferralRewards ≤ s.analytics.totalRevenue) := by
  have hfunded : Funded log (clock Action.time log) s := by
    refine hrun.preserves (P := fun log s => Funded log (clock Action.time log) s)
      (funded_deployed tokens) ?_
    rintro log s a s' ⟨htime, hkeeps, hspares⟩ hn hfunded
    exact funded_step hfunded htime hkeeps hspares (next_effect hn)
  have hheld : 0 ≤ pool held (clock Action.time log) s :=
    Store.total_nonneg fun _ sub _ => held_nonneg hfunded.regular.valid _ sub
  have hspare : 0 ≤ pool spare (clock Action.time log) s :=
    Store.total_nonneg fun _ _ _ => spare_nonneg hfunded.regular.valid
  refine ⟨?_, hfunded.rewards, fun hlog => ?_⟩
  · have hrefunds := hfunded.refunds
    omega
  · have hpayouts := hfunded.payouts hlog
    omega

section Runs

open Sample

/-- Bob, whom nobody referred, goes down a tier and cancels; Carol's friend Alice goes up. -/
def aSeason : List (ℕ × Op) := opening ++ [
  (0, .subscribe alice usdc 1 true (some carol)),
  (50, .renewSubscription alice),
  (50, .changeTier bob 1),
  (60, .changeTier alice 2),
  (80, .cancelSubscription bob)]

theorem payouts_within_revenue_season :
    ∃ s log, History (next approvedAsset contract)
        (fun log s a => OnTime Action.time log a ∧ a.KeepsTerms s ∧ a.SparesTrial s) start log s ∧
      (∀ e ∈ log, e.2.RefundsUnrewarded e.1) ∧ s.analytics.totalRevenue = 610 ∧
      s.analytics.totalRefunds = 120 ∧ s.analytics.totalReferralRewards = 50 ∧
      s.analytics.totalRefunds + s.analytics.totalReferralRewards ≤ s.analytics.totalRevenue := by
  have h : After (fun h => (∀ e ∈ h.1, e.2.RefundsUnrewarded e.1) ∧
        h.2.analytics.totalRevenue = 610 ∧ h.2.analytics.totalRefunds = 120 ∧
        h.2.analytics.totalReferralRewards = 50)
      (record (next approvedAsset contract)
        (fun log s a => OnTime Action.time log a ∧ a.KeepsTerms s ∧ a.SparesTrial s)
        (calls aSeason) ([], start)) := by
    decide +kernel
  obtain ⟨⟨log, s⟩, hrec, hlog, hrevenue, hrefunds, hrewards⟩ := h.exists_ok
  have hrun := record_run hrec
  exact ⟨s, log, hrun, hlog, hrevenue, hrefunds, hrewards,
    (payouts_within_revenue hrun).2.2 hlog⟩

/-- The account was given money of its own. -/
def endowed : State (Balances × Approvals) :=
  deployed (Balances.issue [(usdc, alice, 1000), (usdc, contract, 50)], Store.empty)

/-- Alice subscribes on Carol's referral and cancels at once. -/
def aReferral : List (ℕ × Op) := [
  (0, .initializeContract admin),
  (0, .createTier admin 1 "basic" 100 100 0 1 5000),
  (0, .subscribe alice usdc 1 false (some carol)),
  (0, .cancelSubscription alice)]

/-- Alice has all her money back, and Carol the reward. -/
theorem reward_not_refunded :
    ∃ s log, History (next approvedAsset contract)
        (fun log s a => OnTime Action.time log a ∧ a.KeepsTerms s ∧ a.SparesTrial s) endowed log s ∧
      approvedAsset.balance s.tokens usdc alice = 1000 ∧
      approvedAsset.balance s.tokens usdc carol = 50 ∧ s.analytics.totalRevenue = 100 ∧
      ¬ s.analytics.totalRefunds + s.analytics.totalReferralRewards ≤ s.analytics.totalRevenue := by
  have h : After (fun h => approvedAsset.balance h.2.tokens usdc alice = 1000 ∧
        approvedAsset.balance h.2.tokens usdc carol = 50 ∧ h.2.analytics.totalRevenue = 100 ∧
        h.2.analytics.totalRefunds = 100 ∧ h.2.analytics.totalReferralRewards = 50)
      (record (next approvedAsset contract)
        (fun log s a => OnTime Action.time log a ∧ a.KeepsTerms s ∧ a.SparesTrial s)
        (calls aReferral) ([], endowed)) := by
    decide +kernel
  obtain ⟨⟨log, s⟩, hrec, halice, hcarol, hrevenue, hrefunds, hrewards⟩ := h.exists_ok
  have hrun := record_run hrec
  simp only at hrevenue hrefunds hrewards
  exact ⟨s, log, hrun, halice, hcarol, hrevenue, by omega⟩

end Runs

end MembershipSubscription
