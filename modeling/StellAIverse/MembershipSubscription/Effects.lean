import StellAIverse.MembershipSubscription.Contract

/-!
# What each call does

The life of one subscription is a small machine of its own: each call replaces
the record by the next one and leaves a receipt of what the member was charged,
what was refunded and what the referrer got. Every completed invocation is such a
change, a new subscription, or concerns the tiers only.
-/

namespace MembershipSubscription

open Soroban

variable {τ : Type}

/-- What the time up to `periodEnd` is worth at the price of a tier. -/
def value (tier : MembershipTier) (periodEnd now : ℕ) : ℤ :=
  if periodEnd ≤ now then 0
  else (tier.pricePerPeriod * ((periodEnd - now : ℕ) : ℤ)).tdiv tier.periodSeconds

/-- What is left of the current period, whatever the status. -/
def worth (tiers : Store ℕ MembershipTier) (sub : Subscription) (now : ℕ) : ℤ :=
  match tiers.get? sub.tierId with
  | some tier => value tier sub.currentPeriodEnd now
  | none => 0

/-- What the contract credits for the current period. -/
def unusedAt (tiers : Store ℕ MembershipTier) (sub : Subscription) (now : ℕ) : ℤ :=
  if sub.status = .trial then 0 else worth tiers sub now

/-- What a call charged the member, refunded, and paid the referrer. -/
structure Receipt where
  charge : ℤ
  refund : ℤ
  reward : ℤ

def Receipt.none : Receipt := ⟨0, 0, 0⟩

/-- The analytics after a receipt has been booked. -/
structure Books (a : SubscriptionAnalytics) (receipt : Receipt) (a' : SubscriptionAnalytics) :
    Prop where
  revenue : a'.totalRevenue = a.totalRevenue + receipt.charge
  refunds : a'.totalRefunds = a.totalRefunds + receipt.refund
  rewards : a'.totalReferralRewards = a.totalReferralRewards + receipt.reward

theorem Books.same {a a' : SubscriptionAnalytics} (hrevenue : a'.totalRevenue = a.totalRevenue)
    (hrefunds : a'.totalRefunds = a.totalRefunds)
    (hrewards : a'.totalReferralRewards = a.totalReferralRewards) : Books a .none a' :=
  ⟨by simp [hrevenue, Receipt.none], by simp [hrefunds, Receipt.none],
    by simp [hrewards, Receipt.none]⟩

/-- A referrer's share of the price, or nothing. -/
def Rewards (tier : MembershipTier) (reward : ℤ) : Prop :=
  reward = 0 ∨
    0 < reward ∧ reward = (tier.pricePerPeriod * tier.referralRewardBps).tdiv bpsDenominator

/-- The trial end after a pause of this length. -/
def extendedTrialEnd (sub : Subscription) (pause : ℕ) : ℕ :=
  if sub.trialEnd ≥ sub.pausedAt ∧ sub.trialEnd > 0 then sub.trialEnd + pause else sub.trialEnd

def Running (sub : Subscription) : Prop := sub.status = .active ∨ sub.status = .trial

inductive Change (tiers : Store ℕ MembershipTier) (now : ℕ) (sub : Subscription) :
    Op → Receipt → Subscription → Prop
  | expire (member : Address) (running : Running sub) (due : sub.currentPeriodEnd ≤ now) :
      Change tiers now sub (.renewSubscription member) .none
        { sub with status := .expired, autoRenew := false, updatedAt := now }
  | renew (member : Address) (tier : MembershipTier) (reward : ℤ) (running : Running sub)
      (due : sub.currentPeriodEnd ≤ now) (found : tiers.get? sub.tierId = some tier)
      (rewards : Rewards tier reward) :
      Change tiers now sub (.renewSubscription member) ⟨tier.pricePerPeriod, 0, reward⟩
        { sub with
          totalReferralRewards := sub.totalReferralRewards + reward
          totalPaid := sub.totalPaid + tier.pricePerPeriod
          status := .active
          currentPeriodStart := now
          currentPeriodEnd := now + tier.periodSeconds
          trialEnd := 0
          updatedAt := now }
  | cancel (member : Address) (live : isNonTerminal sub.status = true) :
      Change tiers now sub (.cancelSubscription member) ⟨0, unusedAt tiers sub now, 0⟩
        { sub with status := .cancelled, autoRenew := false, updatedAt := now }
  | pause (member : Address) (running : Running sub) :
      Change tiers now sub (.pauseSubscription member) .none
        { sub with status := .paused, pausedAt := now, updatedAt := now }
  | resume (member : Address) (paused : sub.status = .paused) (later : sub.pausedAt ≤ now) :
      Change tiers now sub (.resumeSubscription member) .none
        { sub with
          pausedAccumulatedSeconds := sub.pausedAccumulatedSeconds + (now - sub.pausedAt)
          currentPeriodEnd := sub.currentPeriodEnd + (now - sub.pausedAt)
          trialEnd := extendedTrialEnd sub (now - sub.pausedAt)
          status := if extendedTrialEnd sub (now - sub.pausedAt) > now then .trial else .active
          pausedAt := 0
          updatedAt := now }
  | changeTier (member : Address) (newTierId : ℕ) (newTier : MembershipTier) (running : Running sub)
      (found : tiers.get? newTierId = some newTier) :
      Change tiers now sub (.changeTier member newTierId)
        ⟨max (newTier.pricePerPeriod - unusedAt tiers sub now) 0,
          max (unusedAt tiers sub now - newTier.pricePerPeriod) 0, 0⟩
        { sub with
          totalPaid := sub.totalPaid + max (newTier.pricePerPeriod - unusedAt tiers sub now) 0
          tierId := newTierId
          status := .active
          currentPeriodStart := now
          currentPeriodEnd := now + newTier.periodSeconds
          trialEnd := 0
          updatedAt := now }

/-- A new subscription, on trial or paid for. -/
inductive Opens (tier : MembershipTier) (now : ℕ) (sub : Subscription) : Receipt → Prop
  | trial (status : sub.status = .trial) (ends : sub.trialEnd = sub.currentPeriodEnd)
      (paid : sub.totalPaid = 0) (rewarded : sub.totalReferralRewards = 0) : Opens tier now sub .none
  | paid (reward : ℤ) (status : sub.status = .active) (ends : sub.trialEnd = 0)
      (period : sub.currentPeriodEnd = now + tier.periodSeconds)
      (paid : sub.totalPaid = tier.pricePerPeriod) (rewarded : sub.totalReferralRewards = reward)
      (rewards : Rewards tier reward) : Opens tier now sub ⟨tier.pricePerPeriod, 0, reward⟩

structure MembershipTier.Valid (tier : MembershipTier) : Prop where
  price : 0 < tier.pricePerPeriod
  period : 0 < tier.periodSeconds
  reward : tier.referralRewardBps ≤ maxReferralRewardBps

/-- Whose subscription a call concerns. -/
def Op.member : Op → Option Address
  | .subscribe member _ _ _ _ | .renewSubscription member | .cancelSubscription member
  | .pauseSubscription member | .resumeSubscription member | .changeTier member _ => some member
  | _ => none

inductive Effect (s : State τ) : Action τ → Receipt → State τ → Prop
  | transfers (tokens : τ) : Effect s (.transfers tokens) .none { s with tokens }
  | initializeContract (env : Env) (admin : Address) (fresh : s.admin = none) :
      Effect s (.call env (.initializeContract admin)) .none
        { s with
          admin := some admin, tierIds := [], analytics := .empty, reentrancyLock := false }
  | createTier (env : Env) (admin : Address) (tierId : ℕ) (name : String) (price : ℤ)
      (period trial flags bps : ℕ) (tier : MembershipTier) (tierIds : List ℕ)
      (known : s.admin = some admin) (new : s.tier.get? tierId = none) (valid : tier.Valid) :
      Effect s (.call env (.createTier admin tierId name price period trial flags bps)) .none
        { s with tier := s.tier.set tierId tier, tierIds }
  | updateTier (env : Env) (admin : Address) (tierId : ℕ) (name : String) (price : ℤ)
      (period trial flags bps : ℕ) (active : Bool) (old tier : MembershipTier)
      (known : s.admin = some admin) (found : s.tier.get? tierId = some old) (valid : tier.Valid)
      (terms : tier.pricePerPeriod = price ∧ tier.periodSeconds = period) :
      Effect s (.call env (.updateTier admin tierId name price period trial flags bps active)) .none
        { s with tier := s.tier.set tierId tier }
  | subscribed (env : Env) (member token : Address) (tierId : ℕ) (autoRenew : Bool)
      (referrer : Option Address) (tier : MembershipTier) (sub : Subscription) (receipt : Receipt)
      (analytics : SubscriptionAnalytics) (rewards : Store Address ℤ) (lock : Bool) (tokens : τ)
      (found : s.tier.get? tierId = some tier)
      (free : ∀ old, s.subscription.get? member = some old → isNonTerminal old.status = false)
      (belongs : sub.member = member ∧ sub.tierId = tierId)
      (opens : Opens tier env.timestamp sub receipt) (books : Books s.analytics receipt analytics) :
      Effect s (.call env (.subscribe member token tierId autoRenew referrer)) receipt
        { s with
          subscription := s.subscription.set member sub, analytics, referralRewards := rewards
          reentrancyLock := lock, tokens }
  | changed (env : Env) (op : Op) (member key : Address) (sub : Subscription) (receipt : Receipt)
      (sub' : Subscription) (analytics : SubscriptionAnalytics) (rewards : Store Address ℤ)
      (lock : Bool) (tokens : τ) (acts : op.member = some member)
      (found : s.subscription.get? member = some sub) (located : key = member ∨ key = sub.member)
      (change : Change s.tier env.timestamp sub op receipt sub')
      (books : Books s.analytics receipt analytics) :
      Effect s (.call env op) receipt
        { s with
          subscription := s.subscription.set key sub', analytics, referralRewards := rewards
          reentrancyLock := lock, tokens }

/-- What a completed call charged, refunded and paid out, by what it returned. -/
def receiptOf (tok : AllowanceToken τ) (self : Address) (a : Action τ) (s : State τ) : Receipt :=
  match a with
  | .call env (.subscribe member token tierId autoRenew referrer) =>
    match subscribe tok self env member token tierId autoRenew referrer s with
    | .ok (sub, _) => ⟨sub.totalPaid, 0, sub.totalReferralRewards⟩
    | .error _ => .none
  | .call env (.renewSubscription member) =>
    match renewSubscription tok self env member s with
    | .ok (result, _) => ⟨result.chargedAmount, 0, result.referralReward⟩
    | .error _ => .none
  | .call env (.cancelSubscription member) =>
    match cancelSubscription tok self env member s with
    | .ok (refund, _) => ⟨0, refund, 0⟩
    | .error _ => .none
  | .call env (.changeTier member newTierId) =>
    match changeTier tok self env member newTierId s with
    | .ok (result, _) => ⟨result.chargeAmount, result.refundAmount, 0⟩
    | .error _ => .none
  | _ => .none

section Helpers

variable {tok : AllowanceToken τ} {self : Address} {env : Env} {s s' : State τ} {β : Type} {r : β}

theorem loadTier_ok {tierId : ℕ} {tier : MembershipTier} (h : loadTier s tierId = .ok tier) :
    s.tier.get? tierId = some tier := by
  unfold loadTier at h
  obtain ⟨-, h⟩ := panicIf_bind.mp h
  exact expect_ok.mp h

theorem loadActiveTier_bind {tierId : ℕ} {f : MembershipTier → Result β}
    (h : (loadActiveTier s tierId >>= f) = .ok r) :
    ∃ tier, s.tier.get? tierId = some tier ∧ f tier = .ok r := by
  obtain ⟨tier, htier, h⟩ := bind_ok.mp h
  unfold loadActiveTier at htier
  obtain ⟨tier', htier', hok⟩ := bind_ok.mp htier
  obtain ⟨-, hok⟩ := panicIf_bind.mp hok
  cases hok
  exact ⟨tier, loadTier_ok htier', h⟩

theorem assertAdmin_bind {who : Address} {f : Unit → Result β}
    (h : (assertAdmin s who >>= f) = .ok r) : s.admin = some who ∧ f () = .ok r := by
  obtain ⟨⟨⟩, hadmin, h⟩ := bind_ok.mp h
  unfold assertAdmin at hadmin
  obtain ⟨admin, hsome, hadmin⟩ := expect_bind.mp hadmin
  have he := panicIf_ok hadmin
  rw [not_not.mp he]
  exact ⟨hsome, h⟩

theorem validateTierTerms_bind {name : String} {price : ℤ} {period bps : ℕ} {f : Unit → Result β}
    (h : (validateTierTerms name price period bps >>= f) = .ok r) :
    (0 < price ∧ 0 < period ∧ bps ≤ maxReferralRewardBps) ∧ f () = .ok r := by
  obtain ⟨⟨⟩, hvalid, h⟩ := bind_ok.mp h
  unfold validateTierTerms at hvalid
  obtain ⟨-, hvalid⟩ := panicIf_bind.mp hvalid
  obtain ⟨hprice, hvalid⟩ := panicIf_bind.mp hvalid
  obtain ⟨hperiod, hvalid⟩ := panicIf_bind.mp hvalid
  have hbps := panicIf_ok hvalid
  exact ⟨⟨by omega, by omega, by omega⟩, h⟩

theorem unusedPeriodValue_ok {sub : Subscription} {v : ℤ}
    (h : unusedPeriodValue env sub s = .ok v) : v = unusedAt s.tier sub env.timestamp := by
  unfold unusedPeriodValue at h
  unfold unusedAt worth value
  split at h
  · rename_i htrial
    cases h
    rw [if_pos htrial]
  · rename_i htrial
    rw [if_neg htrial]
    split at h
    · rename_i hover
      cases h
      split
      · rw [if_pos hover]
      · rfl
    · rename_i hover
      obtain ⟨tier, htier, h⟩ := bind_ok.mp h
      obtain ⟨-, h⟩ := U64.checkedSub_bind.mp h
      obtain ⟨-, h⟩ := I128.checked_bind.mp h
      obtain ⟨-, -, h⟩ := I128.div_ok.mp h
      rw [loadTier_ok htier]
      simp only [if_neg hover]
      exact h.symm

theorem transferToken_ok {token source target : Address} {amount : ℤ}
    (h : transferToken tok token source target amount s = .ok s') :
    ∃ tokens, s' = { s with tokens, reentrancyLock := false } := by
  unfold transferToken at h
  obtain ⟨-, h⟩ := panicIf_bind.mp h
  obtain ⟨-, h⟩ := panicIf_bind.mp h
  obtain ⟨tokens, -, h⟩ := bind_ok.mp h
  cases h
  exact ⟨tokens, rfl⟩

/-- Payments change tokens, rewards of referrers and the lock. -/
def Paid (s s' : State τ) : Prop :=
  ∃ referralRewards lock tokens, s' = { s with referralRewards, reentrancyLock := lock, tokens }

theorem Paid.trans {s'' : State τ} (h : Paid s s') (h' : Paid s' s'') : Paid s s'' := by
  obtain ⟨rewards, lock, tokens, rfl⟩ := h
  obtain ⟨rewards', lock', tokens', rfl⟩ := h'
  exact ⟨rewards', lock', tokens', rfl⟩

theorem paid_transferToken {token source target : Address} {amount : ℤ}
    (h : transferToken tok token source target amount s = .ok s') : Paid s s' := by
  obtain ⟨tokens, rfl⟩ := transferToken_ok h
  exact ⟨s.referralRewards, false, tokens, rfl⟩

theorem payReferralReward_ok {tier : MembershipTier} {sub sub' : Subscription} {reward : ℤ}
    (h : payReferralReward tok self tier sub s = .ok (reward, sub', s')) :
    Rewards tier reward ∧ Paid s s' ∧
      sub' = { sub with totalReferralRewards := sub.totalReferralRewards + reward } := by
  unfold payReferralReward at h
  split at h
  · cases h
    exact ⟨.inl rfl, ⟨_, _, _, rfl⟩, by rw [add_zero]⟩
  · obtain ⟨-, h⟩ := I128.checked_bind.mp h
    obtain ⟨-, -, h⟩ := I128.div_bind.mp h
    split at h
    · cases h
      exact ⟨.inl rfl, ⟨_, _, _, rfl⟩, by rw [add_zero]⟩
    · rename_i hpos
      obtain ⟨s₁, htransfer, h⟩ := bind_ok.mp h
      obtain ⟨tokens, rfl⟩ := transferToken_ok htransfer
      obtain ⟨-, h⟩ := I128.checked_bind.mp h
      obtain ⟨-, h⟩ := I128.checked_bind.mp h
      cases h
      exact ⟨.inr ⟨not_le.mp hpos, rfl⟩, ⟨_, _, _, rfl⟩, rfl⟩

theorem recordRevenue_ok {revenue reward : ℤ} (h : recordRevenue revenue reward s = .ok s') :
    s' = { s with analytics := { s.analytics with
      totalRevenue := s.analytics.totalRevenue + revenue
      totalReferralRewards := s.analytics.totalReferralRewards + reward } } := by
  unfold recordRevenue at h
  obtain ⟨-, h⟩ := I128.checked_bind.mp h
  obtain ⟨-, h⟩ := I128.checked_bind.mp h
  cases h
  rfl

theorem recordRefund_ok {refund : ℤ} (h : recordRefund refund s = .ok s') :
    s' = { s with analytics := { s.analytics with
      totalRefunds := s.analytics.totalRefunds + refund } } := by
  unfold recordRefund at h
  obtain ⟨-, h⟩ := I128.checked_bind.mp h
  cases h
  rfl

/-- The records that only count. -/
theorem recordSubscriptionCreated_ok (h : recordSubscriptionCreated s = .ok s') :
    ∃ analytics, s' = { s with analytics } ∧ Books s.analytics .none analytics := by
  unfold recordSubscriptionCreated at h
  obtain ⟨-, h⟩ := U64.checked_bind.mp h
  obtain ⟨-, h⟩ := U64.checked_bind.mp h
  cases h
  exact ⟨_, rfl, .same rfl rfl rfl⟩

theorem recordExpired_ok (h : recordExpired s = .ok s') :
    ∃ analytics, s' = { s with analytics } ∧ Books s.analytics .none analytics := by
  unfold recordExpired at h
  obtain ⟨-, h⟩ := U64.checked_bind.mp h
  cases h
  exact ⟨_, rfl, .same rfl rfl rfl⟩

theorem recordPaused_ok (h : recordPaused s = .ok s') :
    ∃ analytics, s' = { s with analytics } ∧ Books s.analytics .none analytics := by
  unfold recordPaused at h
  obtain ⟨-, h⟩ := U64.checked_bind.mp h
  cases h
  exact ⟨_, rfl, .same rfl rfl rfl⟩

theorem recordCancelled_ok {refund : ℤ} (h : recordCancelled refund s = .ok s') :
    ∃ analytics, s' = { s with analytics } ∧ Books s.analytics ⟨0, refund, 0⟩ analytics := by
  unfold recordCancelled at h
  obtain ⟨-, h⟩ := U64.checked_bind.mp h
  obtain ⟨-, h⟩ := I128.checked_bind.mp h
  cases h
  exact ⟨_, rfl, (add_zero _).symm, rfl, (add_zero _).symm⟩

end Helpers

section Effects

variable {tok : AllowanceToken τ} {self : Address} {env : Env} {s s' : State τ} {member : Address}

theorem initializeContract_effect {admin : Address} (h : initializeContract env admin s = .ok s') :
    Effect s (.call env (.initializeContract admin)) .none s' := by
  unfold initializeContract at h
  obtain ⟨hfresh, h⟩ := panicIf_bind.mp h
  obtain ⟨-, h⟩ := requireAuth_bind.mp h
  cases h
  exact .initializeContract env admin (by simpa using hfresh)

theorem createTier_effect {admin : Address} {tierId : ℕ} {name : String} {price : ℤ}
    {period trial flags bps : ℕ}
    (h : createTier env admin tierId name price period trial flags bps s = .ok s') :
    Effect s (.call env (.createTier admin tierId name price period trial flags bps)) .none s' := by
  unfold createTier at h
  obtain ⟨-, h⟩ := requireAuth_bind.mp h
  obtain ⟨hadmin, h⟩ := assertAdmin_bind h
  obtain ⟨-, h⟩ := panicIf_bind.mp h
  obtain ⟨hnew, h⟩ := panicIf_bind.mp h
  obtain ⟨⟨hprice, hperiod, hbps⟩, h⟩ := validateTierTerms_bind h
  cases h
  exact .createTier env admin tierId name price period trial flags bps _ _ hadmin
    (by simpa using hnew) ⟨hprice, hperiod, hbps⟩

theorem updateTier_effect {admin : Address} {tierId : ℕ} {name : String} {price : ℤ}
    {period trial flags bps : ℕ} {active : Bool} {tier : MembershipTier}
    (h : updateTier env admin tierId name price period trial flags bps active s = .ok (tier, s')) :
    Effect s (.call env (.updateTier admin tierId name price period trial flags bps active)) .none
      s' := by
  unfold updateTier at h
  obtain ⟨-, h⟩ := requireAuth_bind.mp h
  obtain ⟨hadmin, h⟩ := assertAdmin_bind h
  obtain ⟨⟨hprice, hperiod, hbps⟩, h⟩ := validateTierTerms_bind h
  obtain ⟨old, hold, h⟩ := bind_ok.mp h
  cases h
  exact .updateTier env admin tierId name price period trial flags bps active old _ hadmin
    (loadTier_ok hold) ⟨hprice, hperiod, hbps⟩ ⟨rfl, rfl⟩

theorem subscribe_effect {token : Address} {tierId : ℕ} {autoRenew : Bool}
    {referrer : Option Address} {sub : Subscription}
    (h : subscribe tok self env member token tierId autoRenew referrer s = .ok (sub, s')) :
    Effect s (.call env (.subscribe member token tierId autoRenew referrer))
      ⟨sub.totalPaid, 0, sub.totalReferralRewards⟩ s' := by
  unfold subscribe at h
  obtain ⟨-, h⟩ := requireAuth_bind.mp h
  obtain ⟨tier, htier, h⟩ := loadActiveTier_bind h
  obtain ⟨hfree, h⟩ := panicIf_bind.mp h
  obtain ⟨-, h⟩ := panicIf_bind.mp h
  have hterminal : ∀ old, s.subscription.get? member = some old →
      isNonTerminal old.status = false := by
    intro old hold
    by_contra hlive
    exact hfree ⟨old, hold, by simpa using hlive⟩
  dsimp only at h
  split at h
  · obtain ⟨-, h⟩ := U64.checked_bind.mp h
    obtain ⟨s₁, hrecord, h⟩ := bind_ok.mp h
    obtain ⟨analytics, rfl, hbooks⟩ := recordSubscriptionCreated_ok hrecord
    cases h
    exact .subscribed env member token tierId autoRenew referrer tier _ _ analytics _ _ _ htier
      hterminal ⟨rfl, rfl⟩ (.trial rfl rfl rfl rfl) hbooks
  · obtain ⟨-, h⟩ := U64.checked_bind.mp h
    obtain ⟨⟨reward, sub₁, s₁⟩, hcharge, h⟩ := bind_ok.mp h
    unfold chargeMemberDirect at hcharge
    obtain ⟨s₂, htransfer, hcharge⟩ := bind_ok.mp hcharge
    obtain ⟨⟨reward', sub₂, s₃⟩, hreward, hcharge⟩ := bind_ok.mp hcharge
    obtain ⟨-, hcharge⟩ := I128.checked_bind.mp hcharge
    obtain ⟨hrewards, hpaid, rfl⟩ := payReferralReward_ok hreward
    cases hcharge
    obtain ⟨s₄, hrevenue, h⟩ := bind_ok.mp h
    obtain rfl := recordRevenue_ok hrevenue
    obtain ⟨s₅, hrecord, h⟩ := bind_ok.mp h
    obtain ⟨analytics, rfl, hbooks⟩ := recordSubscriptionCreated_ok hrecord
    obtain ⟨rewards, lock, tokens, rfl⟩ := (paid_transferToken htransfer).trans hpaid
    cases h
    simp only [zero_add]
    refine .subscribed env member token tierId autoRenew referrer tier _ _ analytics _ _ _ htier
      hterminal ⟨rfl, rfl⟩ (.paid reward rfl rfl rfl rfl rfl hrewards) ?_
    exact ⟨by simpa [Receipt.none, setSubscription] using hbooks.revenue,
      by simpa [Receipt.none, setSubscription] using hbooks.refunds,
      by simpa [Receipt.none, setSubscription] using hbooks.rewards⟩

theorem running_of_not {status : SubscriptionStatus} (h : ¬ (status ≠ .active ∧ status ≠ .trial)) :
    status = .active ∨ status = .trial := by
  by_contra hn
  exact h ⟨fun ha => hn (.inl ha), fun ht => hn (.inr ht)⟩

theorem declineRenewal_effect {sub : Subscription} {result : RenewalResult}
    (hfound : s.subscription.get? member = some sub) (hrunning : Running sub)
    (hdue : sub.currentPeriodEnd ≤ env.timestamp)
    (h : declineRenewal env sub s = .ok (result, s')) :
    Effect s (.call env (.renewSubscription member))
      ⟨result.chargedAmount, 0, result.referralReward⟩ s' := by
  unfold declineRenewal expireSubscription at h
  obtain ⟨⟨sub', s₁⟩, hexpire, h⟩ := bind_ok.mp h
  obtain ⟨s₂, hrecord, hexpire⟩ := bind_ok.mp hexpire
  obtain ⟨analytics, rfl, hbooks⟩ := recordExpired_ok hrecord
  cases hexpire
  cases h
  exact .changed env _ member sub.member sub .none _ analytics _ _ _ rfl hfound (.inr rfl)
    (.expire member hrunning hdue) hbooks

/-- A subscription that has not ended is running, unless it is paused. -/
theorem running_of_live (hpaused : sub.status ≠ .paused)
    (hlive : isNonTerminal sub.status = true) : Running sub := by
  unfold isNonTerminal at hlive
  simp only [Bool.or_eq_true, decide_eq_true_eq] at hlive
  rcases hlive with hrunning | hstatus
  · exact hrunning
  · exact absurd hstatus hpaused

theorem renewSubscription_effect {result : RenewalResult}
    (h : renewSubscription tok self env member s = .ok (result, s')) :
    Effect s (.call env (.renewSubscription member))
      ⟨result.chargedAmount, 0, result.referralReward⟩ s' := by
  unfold renewSubscription at h
  obtain ⟨sub, hfound, h⟩ := expect_bind.mp h
  obtain ⟨hpaused, h⟩ := panicIf_bind.mp h
  obtain ⟨hlive, h⟩ := panicIf_bind.mp h
  obtain ⟨hdue, h⟩ := panicIf_bind.mp h
  obtain ⟨tier, htier, h⟩ := loadActiveTier_bind h
  have hrunning : Running sub := running_of_live hpaused (by simpa using hlive)
  have hdue := not_lt.mp hdue
  split at h
  · exact declineRenewal_effect hfound hrunning hdue h
  · split at h
    · exact declineRenewal_effect hfound hrunning hdue h
    · obtain ⟨-, h⟩ := panicIf_bind.mp h
      obtain ⟨tokens, -, h⟩ := bind_ok.mp h
      obtain ⟨⟨reward, sub₁, s₁⟩, hreward, h⟩ := bind_ok.mp h
      obtain ⟨hrewards, ⟨rewards, lock, tokens', rfl⟩, rfl⟩ := payReferralReward_ok hreward
      obtain ⟨-, h⟩ := I128.checked_bind.mp h
      obtain ⟨-, h⟩ := U64.checked_bind.mp h
      obtain ⟨s₂, hrevenue, h⟩ := bind_ok.mp h
      obtain rfl := recordRevenue_ok hrevenue
      cases h
      exact .changed env _ member member sub _ _ _ rewards lock tokens' rfl hfound (.inl rfl)
        (.renew member tier reward hrunning hdue htier hrewards) ⟨rfl, (add_zero _).symm, rfl⟩

theorem cancelSubscription_effect {refund : ℤ}
    (h : cancelSubscription tok self env member s = .ok (refund, s')) :
    Effect s (.call env (.cancelSubscription member)) ⟨0, refund, 0⟩ s' := by
  unfold cancelSubscription at h
  obtain ⟨-, h⟩ := requireAuth_bind.mp h
  obtain ⟨sub, hfound, h⟩ := expect_bind.mp h
  obtain ⟨hlive, h⟩ := panicIf_bind.mp h
  obtain ⟨refund', hunused, h⟩ := bind_ok.mp h
  obtain rfl := unusedPeriodValue_ok hunused
  obtain ⟨s₁, hrecord, h⟩ := bind_ok.mp h
  obtain ⟨analytics, rfl, hbooks⟩ := recordCancelled_ok hrecord
  have hlive : isNonTerminal sub.status = true := by simpa using hlive
  split at h
  · obtain ⟨s₂, htransfer, h⟩ := bind_ok.mp h
    obtain ⟨tokens, rfl⟩ := transferToken_ok htransfer
    cases h
    exact .changed env _ member member sub _ _ analytics _ _ tokens rfl hfound (.inl rfl)
      (.cancel member hlive) hbooks
  · cases h
    exact .changed env _ member member sub _ _ analytics _ _ _ rfl hfound (.inl rfl)
      (.cancel member hlive) hbooks

theorem pauseSubscription_effect (h : pauseSubscription env member s = .ok s') :
    Effect s (.call env (.pauseSubscription member)) .none s' := by
  unfold pauseSubscription at h
  obtain ⟨-, h⟩ := requireAuth_bind.mp h
  obtain ⟨sub, hfound, h⟩ := expect_bind.mp h
  obtain ⟨hrunning, h⟩ := panicIf_bind.mp h
  obtain ⟨analytics, rfl, hbooks⟩ := recordPaused_ok h
  exact .changed env _ member member sub .none _ analytics _ _ _ rfl hfound (.inl rfl)
    (.pause member (running_of_not hrunning)) hbooks

theorem extendTrial_ok {sub : Subscription} {pause trialEnd : ℕ}
    (h : extendTrial sub pause = .ok trialEnd) : trialEnd = extendedTrialEnd sub pause := by
  unfold extendTrial at h
  unfold extendedTrialEnd
  split at h
  · rename_i hextends
    rw [if_pos hextends]
    exact (U64.checked_ok.mp h).2.symm
  · rename_i hover
    rw [if_neg hover]
    exact (Except.ok.inj h).symm

theorem resumeSubscription_effect {sub' : Subscription}
    (h : resumeSubscription env member s = .ok (sub', s')) :
    Effect s (.call env (.resumeSubscription member)) .none s' := by
  unfold resumeSubscription at h
  obtain ⟨-, h⟩ := requireAuth_bind.mp h
  obtain ⟨sub, hfound, h⟩ := expect_bind.mp h
  obtain ⟨hpaused, h⟩ := panicIf_bind.mp h
  obtain ⟨hlater, h⟩ := U64.checkedSub_bind.mp h
  obtain ⟨-, h⟩ := U64.checked_bind.mp h
  obtain ⟨-, h⟩ := U64.checked_bind.mp h
  obtain ⟨trialEnd, htrial, h⟩ := bind_ok.mp h
  obtain rfl := extendTrial_ok htrial
  cases h
  exact .changed env _ member member sub .none _ _ _ _ _ rfl hfound (.inl rfl)
    (.resume member (not_not.mp hpaused) hlater) (.same rfl rfl rfl)

theorem quoteProrationInner_ok {sub : Subscription} {newTier : MembershipTier}
    {quote : ProrationQuote} (h : quoteProrationInner env sub newTier s = .ok quote) :
    quote.chargeAmount = max (newTier.pricePerPeriod - unusedAt s.tier sub env.timestamp) 0 ∧
      quote.refundAmount = max (unusedAt s.tier sub env.timestamp - newTier.pricePerPeriod) 0 := by
  unfold quoteProrationInner at h
  obtain ⟨credit, hunused, h⟩ := bind_ok.mp h
  obtain rfl := unusedPeriodValue_ok hunused
  split at h
  · obtain ⟨-, h⟩ := I128.checked_bind.mp h
    cases h
    dsimp only
    omega
  · obtain ⟨-, h⟩ := I128.checked_bind.mp h
    cases h
    dsimp only
    omega

theorem chargeDifference_ok {quote : ProrationQuote} {sub sub' : Subscription}
    (hcharge : 0 ≤ quote.chargeAmount)
    (h : chargeDifference tok self member quote sub s = .ok (sub', s')) :
    sub' = { sub with totalPaid := sub.totalPaid + quote.chargeAmount } ∧
      ∃ analytics lock tokens, s' = { s with analytics, reentrancyLock := lock, tokens } ∧
        Books s.analytics ⟨quote.chargeAmount, 0, 0⟩ analytics := by
  unfold chargeDifference at h
  split at h
  · obtain ⟨s₁, htransfer, h⟩ := bind_ok.mp h
    obtain ⟨tokens, rfl⟩ := transferToken_ok htransfer
    obtain ⟨-, h⟩ := I128.checked_bind.mp h
    obtain ⟨s₂, hrevenue, h⟩ := bind_ok.mp h
    obtain rfl := recordRevenue_ok hrevenue
    cases h
    exact ⟨rfl, _, _, tokens, rfl, rfl, (add_zero _).symm, rfl⟩
  · have hzero : quote.chargeAmount = 0 := by omega
    cases h
    rw [hzero, add_zero]
    exact ⟨rfl, s.analytics, s.reentrancyLock, s.tokens, rfl, .same rfl rfl rfl⟩

theorem refundDifference_ok {quote : ProrationQuote} {sub : Subscription}
    (hrefund : 0 ≤ quote.refundAmount)
    (h : refundDifference tok self member quote sub s = .ok s') :
    ∃ analytics lock tokens, s' = { s with analytics, reentrancyLock := lock, tokens } ∧
      Books s.analytics ⟨0, quote.refundAmount, 0⟩ analytics := by
  unfold refundDifference at h
  split at h
  · obtain ⟨s₁, htransfer, h⟩ := bind_ok.mp h
    obtain ⟨tokens, rfl⟩ := transferToken_ok htransfer
    obtain rfl := recordRefund_ok h
    exact ⟨_, _, tokens, rfl, (add_zero _).symm, rfl, (add_zero _).symm⟩
  · have hzero : quote.refundAmount = 0 := by omega
    cases h
    rw [hzero]
    exact ⟨s.analytics, s.reentrancyLock, s.tokens, rfl, .same rfl rfl rfl⟩

theorem Books.charge_refund {a a' a'' : SubscriptionAnalytics} {charge refund : ℤ}
    (hcharge : Books a ⟨charge, 0, 0⟩ a') (hrefund : Books a' ⟨0, refund, 0⟩ a'') :
    Books a ⟨charge, refund, 0⟩ a'' where
  revenue := by rw [hrefund.revenue, hcharge.revenue, add_zero]
  refunds := by rw [hrefund.refunds, hcharge.refunds, add_zero]
  rewards := by rw [hrefund.rewards, hcharge.rewards, add_zero]

theorem changeTier_effect {newTierId : ℕ} {result : TierChangeResult}
    (h : changeTier tok self env member newTierId s = .ok (result, s')) :
    Effect s (.call env (.changeTier member newTierId))
      ⟨result.chargeAmount, result.refundAmount, 0⟩ s' := by
  unfold changeTier at h
  obtain ⟨-, h⟩ := requireAuth_bind.mp h
  obtain ⟨sub, hfound, h⟩ := expect_bind.mp h
  obtain ⟨hrunning, h⟩ := panicIf_bind.mp h
  obtain ⟨oldTier, -, h⟩ := bind_ok.mp h
  obtain ⟨newTier, htier, h⟩ := loadActiveTier_bind h
  obtain ⟨quote, hquote, h⟩ := bind_ok.mp h
  obtain ⟨hcharge, hrefund⟩ := quoteProrationInner_ok hquote
  obtain ⟨⟨sub₁, s₁⟩, hcharged, h⟩ := bind_ok.mp h
  obtain ⟨rfl, analytics, lock, tokens, rfl, hrevenue⟩ :=
    chargeDifference_ok (hcharge ▸ le_max_right _ _) hcharged
  obtain ⟨s₂, hrefunded, h⟩ := bind_ok.mp h
  obtain ⟨analytics', lock', tokens', rfl, hrefunds⟩ :=
    refundDifference_ok (hrefund ▸ le_max_right _ _) hrefunded
  obtain ⟨-, h⟩ := U64.checked_bind.mp h
  cases h
  have hbooks := hrevenue.charge_refund hrefunds
  rw [hcharge, hrefund] at hbooks
  simp only [hcharge, hrefund]
  exact .changed env _ member member sub _ _ analytics' _ lock' tokens' rfl hfound (.inl rfl)
    (.changeTier member newTierId newTier (running_of_not hrunning) htier) hbooks

theorem next_effect {a : Action τ} (h : next tok self a s = .ok s') :
    Effect s a (receiptOf tok self a s) s' := by
  cases a with
  | transfers tokens =>
    cases h
    exact .transfers tokens
  | call env op =>
    cases op with
    | initializeContract admin => exact initializeContract_effect h
    | createTier admin tierId name price period trial flags bps => exact createTier_effect h
    | updateTier admin tierId name price period trial flags bps active =>
      obtain ⟨⟨tier, s₁⟩, hcall, rfl⟩ := map_ok.mp h
      exact updateTier_effect hcall
    | subscribe member token tierId autoRenew referrer =>
      obtain ⟨⟨sub, s₁⟩, hcall, rfl⟩ := map_ok.mp h
      simp only [receiptOf, hcall]
      exact subscribe_effect hcall
    | renewSubscription member =>
      obtain ⟨⟨result, s₁⟩, hcall, rfl⟩ := map_ok.mp h
      simp only [receiptOf, hcall]
      exact renewSubscription_effect hcall
    | cancelSubscription member =>
      obtain ⟨⟨refund, s₁⟩, hcall, rfl⟩ := map_ok.mp h
      simp only [receiptOf, hcall]
      exact cancelSubscription_effect hcall
    | pauseSubscription member => exact pauseSubscription_effect h
    | resumeSubscription member =>
      obtain ⟨⟨sub, s₁⟩, hcall, rfl⟩ := map_ok.mp h
      exact resumeSubscription_effect hcall
    | changeTier member newTierId =>
      obtain ⟨⟨result, s₁⟩, hcall, rfl⟩ := map_ok.mp h
      simp only [receiptOf, hcall]
      exact changeTier_effect hcall

end Effects

end MembershipSubscription
