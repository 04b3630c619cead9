import StellAIverse.MembershipSubscription.Refunds

/-!
# Pauses

The end of a pause moves the end of the period, and that of a trial that was still
running, by the length of the pause. A cancellation in between reads the record as
it was paused: the paused time is not given back, and a trial counts as paid for.
-/

namespace MembershipSubscription

open Soroban

variable {τ : Type} {tok : AllowanceToken τ} {self : Address} {s s' : State τ} {a : Action τ}
  {log : List (State τ × Action τ)} {tiers : Store ℕ MembershipTier} {tier : MembershipTier}
  {member : Address} {sub sub' sub₀ : Subscription} {receipt : Receipt} {now p t : ℕ}

/-- Subscriptions are stored for their members, and their tiers are stored. -/
structure Registered (s : State τ) : Prop where
  valid : AllValid s.tier
  stored : ∀ member sub, s.subscription.get? member = some sub →
    sub.member = member ∧ (s.tier.get? sub.tierId).isSome = true

theorem registered_deployed (tokens : τ) : Registered (deployed tokens) :=
  ⟨fun _ _ hk => (by cases hk), fun _ _ hk => (by cases hk)⟩

theorem Registered.setTier (h : Registered s) {tierId : ℕ} (hvalid : tier.Valid)
    (htier : s'.tier = s.tier.set tierId tier) (hsub : s'.subscription = s.subscription) :
    Registered s' := by
  constructor
  · rw [htier]
    exact Store.forall_set h.valid hvalid
  · rw [hsub, htier]
    intro member sub hfound
    obtain ⟨hmember, hstored⟩ := h.stored member sub hfound
    refine ⟨hmember, ?_⟩
    rw [Store.get?_set]
    split
    · rfl
    · exact hstored

theorem registered_change {op : Op} (hchange : Change tiers now sub op receipt sub')
    (htier : (tiers.get? sub.tierId).isSome = true) :
    sub'.member = sub.member ∧ (tiers.get? sub'.tierId).isSome = true := by
  cases hchange with
  | changeTier m newTierId newTier running found => exact ⟨rfl, by simp [found]⟩
  | _ => exact ⟨rfl, htier⟩

theorem registered_effect (h : Registered s) (heffect : Effect s a receipt s') : Registered s' := by
  cases heffect with
  | transfers | initializeContract => exact ⟨h.valid, h.stored⟩
  | createTier env admin tierId name price period trial flags bps tier tierIds known new valid =>
    exact h.setTier valid rfl rfl
  | updateTier env admin tierId name price period trial flags bps active old tier known found valid =>
    exact h.setTier valid rfl rfl
  | subscribed env member token tierId autoRenew referrer tier sub receipt analytics rewards lock
      tokens found free belongs =>
    refine ⟨h.valid, Store.forall_set h.stored ⟨belongs.1, ?_⟩⟩
    simp [belongs.2, found]
  | changed env op member key sub receipt sub' analytics rewards lock tokens acts found located
      change =>
    obtain ⟨hmember, htier⟩ := h.stored member sub found
    obtain ⟨hmember', htier'⟩ := registered_change change htier
    obtain rfl : key = member := located.elim id fun hk => hk.trans hmember
    exact ⟨h.valid, Store.forall_set h.stored ⟨hmember'.trans hmember, htier'⟩⟩

/-- A pause of the member left the record as it is. -/
structure PausedBy (log : List (State τ × Action τ)) (member : Address) (env : Env)
    (sub₀ sub : Subscription) : Prop where
  called : ∃ s₀, (s₀, .call env (.pauseSubscription member)) ∈ log ∧
    s₀.subscription.get? member = some sub₀
  running : Running sub₀
  record : sub =
    { sub₀ with status := .paused, pausedAt := env.timestamp, updatedAt := env.timestamp }

theorem PausedBy.later {env : Env} (h : PausedBy log member env sub₀ sub) (e : State τ × Action τ) :
    PausedBy (e :: log) member env sub₀ sub where
  called := by
    obtain ⟨s₀, hmem, hfound⟩ := h.called
    exact ⟨s₀, List.mem_cons_of_mem e hmem, hfound⟩
  running := h.running
  record := h.record

/-- Whatever is paused was paused by its member, and not touched since. -/
def AllPaused (log : List (State τ × Action τ)) (s : State τ) : Prop :=
  ∀ member sub, s.subscription.get? member = some sub → sub.status = .paused →
    ∃ env sub₀, PausedBy log member env sub₀ sub

theorem paused_change {op : Op} (hchange : Change tiers now sub op receipt sub')
    (hpaused : sub'.status = .paused) :
    (∃ m, op = .pauseSubscription m) ∧ Running sub ∧
      sub' = { sub with status := .paused, pausedAt := now, updatedAt := now } := by
  cases hchange with
  | pause m running => exact ⟨⟨m, rfl⟩, running, rfl⟩
  | resume m paused later =>
    simp only at hpaused
    split at hpaused <;> cases hpaused
  | _ => cases hpaused

theorem allPaused_step (h : AllPaused log s) (hregistered : Registered s)
    (heffect : Effect s a receipt s') : AllPaused ((s, a) :: log) s' := by
  have hlater : ∀ member sub, s.subscription.get? member = some sub → sub.status = .paused →
      ∃ env sub₀, PausedBy ((s, a) :: log) member env sub₀ sub := by
    intro member sub hfound hpaused
    obtain ⟨env, sub₀, hby⟩ := h member sub hfound hpaused
    exact ⟨env, sub₀, hby.later _⟩
  cases heffect with
  | transfers | initializeContract | createTier | updateTier => exact hlater
  | subscribed env member token tierId autoRenew referrer tier sub receipt analytics rewards lock
      tokens found free belongs opens =>
    refine Store.forall_set hlater fun hpaused => ?_
    cases opens with
    | trial status => exact absurd (status.symm.trans hpaused) (by decide)
    | paid reward status => exact absurd (status.symm.trans hpaused) (by decide)
  | changed env op member key sub receipt sub' analytics rewards lock tokens acts found located
      change =>
    obtain rfl : key = member := located.elim id fun hk => hk.trans (hregistered.stored _ _ found).1
    refine Store.forall_set hlater fun hpaused => ?_
    obtain ⟨⟨m, rfl⟩, hrunning, hrecord⟩ := paused_change change hpaused
    cases acts
    exact ⟨env, sub, ⟨s, List.mem_cons_self, found⟩, hrunning, hrecord⟩

/-- The record after the end of the pause. -/
def resumed (now : ℕ) (sub : Subscription) : Subscription :=
  { sub with
    pausedAccumulatedSeconds := sub.pausedAccumulatedSeconds + (now - sub.pausedAt)
    currentPeriodEnd := sub.currentPeriodEnd + (now - sub.pausedAt)
    trialEnd := extendedTrialEnd sub (now - sub.pausedAt)
    status := if extendedTrialEnd sub (now - sub.pausedAt) > now then .trial else .active
    pausedAt := 0
    updatedAt := now }

theorem resumeSubscription_ok {env : Env}
    (h : resumeSubscription env member s = .ok (sub', s'))
    (hfound : s.subscription.get? member = some sub) :
    sub' = resumed env.timestamp sub ∧ s'.subscription.get? member = some sub' ∧
      s'.tier = s.tier := by
  unfold resumeSubscription at h
  obtain ⟨-, h⟩ := requireAuth_bind.mp h
  obtain ⟨sub₁, hfound₁, h⟩ := expect_bind.mp h
  obtain rfl := Option.some.inj (hfound.symm.trans hfound₁)
  obtain ⟨-, h⟩ := panicIf_bind.mp h
  obtain ⟨-, h⟩ := U64.checkedSub_bind.mp h
  obtain ⟨-, h⟩ := U64.checked_bind.mp h
  obtain ⟨-, h⟩ := U64.checked_bind.mp h
  obtain ⟨trialEnd, htrial, h⟩ := bind_ok.mp h
  obtain rfl := extendTrial_ok htrial
  cases h
  exact ⟨rfl, Store.get?_set_self _ _ _, rfl⟩

theorem cancelSubscription_refund {env : Env} {refund : ℤ}
    (h : cancelSubscription tok self env member s = .ok (refund, s'))
    (hfound : s.subscription.get? member = some sub) :
    refund = unusedAt s.tier sub env.timestamp := by
  cases cancelSubscription_effect h with
  | changed _ _ m key sub₁ _ sub' analytics rewards lock tokens acts found located change =>
    cases acts
    obtain rfl := Option.some.inj (hfound.symm.trans found)
    cases change
    rfl

theorem value_eq (h : tier.Valid) (e t : ℕ) :
    value tier e t = tier.pricePerPeriod * ((e - t : ℕ) : ℤ) / tier.periodSeconds := by
  unfold value
  split
  · rename_i hover
    rw [Nat.sub_eq_zero_of_le hover]
    simp
  · exact Int.tdiv_eq_ediv_of_nonneg (mul_nonneg h.price.le (Int.natCast_nonneg _))

/-- Less is the same after rounding down, if no more than the remainder is missing. -/
theorem ediv_sub_eq_iff {n d m : ℤ} (hm : 0 < m) (hd : 0 ≤ d) : (n - d) / m = n / m ↔ d ≤ n % m := by
  have hsplit := Int.emod_add_ediv_mul n m
  have hlt := Int.emod_lt_of_pos n hm
  rw [Int.ediv_eq_iff_of_pos hm]
  constructor
  · rintro ⟨hle, -⟩
    omega
  · intro hle
    exact ⟨by omega, by omega⟩

/-- What is left at the present is less than one unit where a trial was paused, and else not
less, after rounding down, than what was left when the pause began. -/
def RefundKept (tier : MembershipTier) (p t : ℕ) (sub₀ : Subscription) : Prop :=
  if p < sub₀.trialEnd then
    tier.pricePerPeriod * ((sub₀.currentPeriodEnd - t : ℕ) : ℤ) < tier.periodSeconds
  else
    tier.pricePerPeriod * ((min t sub₀.currentPeriodEnd - p : ℕ) : ℤ) ≤
      tier.pricePerPeriod * ((sub₀.currentPeriodEnd - p : ℕ) : ℤ) % tier.periodSeconds

instance (tier : MembershipTier) (p t : ℕ) (sub₀ : Subscription) :
    Decidable (RefundKept tier p t sub₀) := by
  unfold RefundKept
  infer_instance

theorem refundKept_iff (h : tier.Valid) (hlater : p ≤ t) :
    value tier sub₀.currentPeriodEnd t =
        (if p < sub₀.trialEnd then 0 else value tier sub₀.currentPeriodEnd p) ↔
      RefundKept tier p t sub₀ := by
  have hperiod : (0 : ℤ) < tier.periodSeconds := Int.natCast_pos.mpr h.period
  unfold RefundKept
  split
  · rw [value_eq h, Int.ediv_eq_iff_of_pos hperiod]
    have hnonneg := mul_nonneg h.price.le (Int.natCast_nonneg (sub₀.currentPeriodEnd - t))
    constructor
    · rintro ⟨-, hlt⟩
      omega
    · intro hlt
      exact ⟨by omega, by omega⟩
  · -- The paused time counts up to the end of the period.
    have hleft : ((sub₀.currentPeriodEnd - t : ℕ) : ℤ) = ((sub₀.currentPeriodEnd - p : ℕ) : ℤ) -
        ((min t sub₀.currentPeriodEnd - p : ℕ) : ℤ) := by
      omega
    rw [value_eq h, value_eq h, hleft, mul_sub]
    exact ediv_sub_eq_iff hperiod (mul_nonneg h.price.le (Int.natCast_nonneg _))

/-- A subscription that was paused at `p` and comes back at `t`. -/
structure ComesBack (p t : ℕ) (sub₀ sub' : Subscription) : Prop where
  period : (sub'.currentPeriodEnd : ℤ) - t = sub₀.currentPeriodEnd - p
  trial : sub₀.status = .trial → p < sub₀.trialEnd →
    sub'.status = .trial ∧ (sub'.trialEnd : ℤ) - t = sub₀.trialEnd - p

theorem resumed_comesBack (hlater : p ≤ t)
    (hrecord : sub = { sub₀ with status := .paused, pausedAt := p, updatedAt := p }) :
    ComesBack p t sub₀ (resumed t sub) := by
  have hat : sub.pausedAt = p := by rw [hrecord]
  have hends : sub.currentPeriodEnd = sub₀.currentPeriodEnd := by rw [hrecord]
  have htrial : sub.trialEnd = sub₀.trialEnd := by rw [hrecord]
  constructor
  · simp only [resumed]
    omega
  · intro _ hruns
    have hlater' : sub.pausedAt ≤ t := hat ▸ hlater
    have hruns' : sub.pausedAt < sub.trialEnd := by omega
    obtain ⟨hextended, hover⟩ := extendedTrialEnd_of_lt hlater' hruns'
    simp only [resumed]
    refine ⟨if_pos hover, ?_⟩
    omega

/-- The refund of a paused subscription, now and after the end of the pause. -/
theorem unusedAt_paused (hlater : p ≤ t) (hfound : tiers.get? sub₀.tierId = some tier)
    (hrecord : sub = { sub₀ with status := .paused, pausedAt := p, updatedAt := p }) :
    unusedAt tiers sub t = value tier sub₀.currentPeriodEnd t ∧
      unusedAt tiers (resumed t sub) t =
        if p < sub₀.trialEnd then 0 else value tier sub₀.currentPeriodEnd p := by
  have hat : sub.pausedAt = p := by rw [hrecord]
  have htrial : sub.trialEnd = sub₀.trialEnd := by rw [hrecord]
  have hlater' : sub.pausedAt ≤ t := hat ▸ hlater
  constructor
  · simp [hrecord, unusedAt, worth, hfound]
  · split
    · rename_i hruns
      have hruns' : sub.pausedAt < sub.trialEnd := by omega
      have hover := (extendedTrialEnd_of_lt hlater' hruns').2
      simp [unusedAt, resumed, hover]
    · rename_i hover
      have hover' : sub.trialEnd ≤ sub.pausedAt := by omega
      have hextended := extendedTrialEnd_le hlater' hover'
      have hstatus : (resumed t sub).status = .active := if_neg (not_lt.mpr hextended)
      have hends : (resumed t sub).currentPeriodEnd = sub₀.currentPeriodEnd + (t - p) := by
        simp [resumed, hrecord]
      have htier : (resumed t sub).tierId = sub₀.tierId := by simp [resumed, hrecord]
      have hshift : value tier (sub₀.currentPeriodEnd + (t - p)) t =
          value tier sub₀.currentPeriodEnd p := by
        have hnow : t = p + (t - p) := by omega
        nth_rewrite 2 [hnow]
        exact value_shift _ _ _
      simp [unusedAt, worth, hstatus, htier, hends, hfound, hshift]

/-- Every paused subscription was paused by its member. At any time from then on it comes back
with the remaining time that it had, and in its trial if that was running. To cancel it at once
refunds what it refunds after the return, if and only if the paused time makes no difference to
the rounded refund. -/
theorem pause_neutral {tokens : τ}
    (hrun : History (next tok self) (fun _ _ _ => True) (deployed tokens) log s)
    (hfound : s.subscription.get? member = some sub) (hpaused : sub.status = .paused) :
    ∃ env₀ sub₀ tier, PausedBy log member env₀ sub₀ sub ∧ s.tier.get? sub₀.tierId = some tier ∧
      ∀ env, env₀.timestamp ≤ env.timestamp →
        (∀ sub' s₂, resumeSubscription env member s = .ok (sub', s₂) →
          ComesBack env₀.timestamp env.timestamp sub₀ sub') ∧
        ∀ refund s₁ sub' s₂ refund' s₃, cancelSubscription tok self env member s = .ok (refund, s₁) →
          resumeSubscription env member s = .ok (sub', s₂) →
          cancelSubscription tok self env member s₂ = .ok (refund', s₃) →
          (refund = refund' ↔ RefundKept tier env₀.timestamp env.timestamp sub₀) := by
  have hinv : Registered s ∧ AllPaused log s := by
    refine hrun.preserves (P := fun log s => Registered s ∧ AllPaused log s)
      ⟨registered_deployed tokens, nofun⟩ ?_
    rintro log s a s' - hn ⟨hregistered, hallPaused⟩
    have heffect := next_effect hn
    exact ⟨registered_effect hregistered heffect, allPaused_step hallPaused hregistered heffect⟩
  obtain ⟨hregistered, hallPaused⟩ := hinv
  obtain ⟨env₀, sub₀, hby⟩ := hallPaused member sub hfound hpaused
  have hsame : sub.tierId = sub₀.tierId := by rw [hby.record]
  obtain ⟨tier, htier⟩ := Option.isSome_iff_exists.mp (hregistered.stored member sub hfound).2
  rw [hsame] at htier
  refine ⟨env₀, sub₀, tier, hby, htier, fun env hlater => ⟨?_, ?_⟩⟩
  · intro sub' s₂ hresumed
    obtain ⟨rfl, -, -⟩ := resumeSubscription_ok hresumed hfound
    exact resumed_comesBack hlater hby.record
  · intro refund s₁ sub' s₂ refund' s₃ hcancel hresumed hcancel'
    obtain ⟨rfl, hstored, htiers⟩ := resumeSubscription_ok hresumed hfound
    have hrefund := cancelSubscription_refund hcancel hfound
    have hrefund' := cancelSubscription_refund hcancel' hstored
    obtain ⟨hnow, hafter⟩ := unusedAt_paused hlater htier hby.record
    rw [hrefund, hrefund', htiers, hnow, hafter]
    exact refundKept_iff (hregistered.valid _ tier htier) hlater

section Runs

open Sample

/-- Bob pauses after fifteen of a hundred seconds that cost ten. -/
def aCheapPause : List (ℕ × Op) := [
  (0, .initializeContract admin),
  (0, .createTier admin 1 "mini" 10 100 0 1 1000),
  (0, .subscribe bob usdc 1 false none),
  (15, .pauseSubscription bob)]

/-- Five seconds later he would be refunded eight, either way. -/
theorem pause_neutral_five_seconds :
    ∃ log s sub₀ sub' s₂ refund s₁ refund' s₃,
      History (next approvedAsset contract) (fun _ _ _ => True) start log s ∧
      resumeSubscription (env 20) bob s = .ok (sub', s₂) ∧ ComesBack 15 20 sub₀ sub' ∧
      cancelSubscription approvedAsset contract (env 20) bob s = .ok (refund, s₁) ∧
      cancelSubscription approvedAsset contract (env 20) bob s₂ = .ok (refund', s₃) ∧
      refund = 8 ∧ refund = refund' := by
  have h : After (fun h => (∃ sub ∈ h.2.subscription.get? bob, sub.status = .paused ∧
          sub.pausedAt = 15 ∧ sub.trialEnd = 0 ∧ sub.currentPeriodEnd = 100 ∧
          ∃ tier ∈ h.2.tier.get? sub.tierId, tier.pricePerPeriod = 10 ∧ tier.periodSeconds = 100) ∧
        After (fun r => r.1 = 8) (cancelSubscription approvedAsset contract (env 20) bob h.2) ∧
        After (fun r => After (fun _ => True)
          (cancelSubscription approvedAsset contract (env 20) bob r.2))
          (resumeSubscription (env 20) bob h.2))
      (record (next approvedAsset contract) (fun _ _ _ => True) (calls aCheapPause)
        ([], start)) := by
    decide +kernel
  obtain ⟨⟨log, s⟩, hrec, ⟨sub, hfound, hpaused, hat, htrial, hends, tier, htier, hprice, hperiod⟩,
    hcancel, hresume⟩ := h.exists_ok
  obtain ⟨⟨refund, s₁⟩, hcancelled, hrefund⟩ := hcancel.exists_ok
  obtain ⟨⟨sub', s₂⟩, hresumed, hcancel'⟩ := hresume.exists_ok
  obtain ⟨⟨refund', s₃⟩, hcancelled', -⟩ := hcancel'.exists_ok
  have hrun : History (next approvedAsset contract) (fun _ _ _ => True) start log s :=
    record_history _ (fun _ _ _ _ _ => trivial) .nil hrec
  obtain ⟨env₀, sub₀, tier₀, hby, htier₀, hneutral⟩ := pause_neutral hrun hfound hpaused
  have hsame : sub.tierId = sub₀.tierId := by rw [hby.record]
  obtain rfl : tier = tier₀ := Option.some.inj (htier.symm.trans (hsame ▸ htier₀))
  have hat₀ : env₀.timestamp = 15 := by rw [← hat, hby.record]
  have htrial₀ : sub₀.trialEnd = 0 := by rw [← htrial, hby.record]
  have hends₀ : sub₀.currentPeriodEnd = 100 := by rw [← hends, hby.record]
  have hlater : env₀.timestamp ≤ (env 20).timestamp := by
    rw [hat₀]
    decide
  obtain ⟨hback, hrefunds⟩ := hneutral (env 20) hlater
  have hback := hback sub' s₂ hresumed
  rw [hat₀] at hback
  refine ⟨log, s, sub₀, sub', s₂, refund, s₁, refund', s₃, hrun, hresumed, hback, hcancelled,
    hcancelled', hrefund, (hrefunds refund s₁ sub' s₂ refund' s₃ hcancelled hresumed hcancelled').mpr ?_⟩
  unfold RefundKept
  rw [hat₀, htrial₀, hends₀, hprice, hperiod]
  decide

/-- Bob pauses when ten of a hundred seconds have passed. -/
def aPause : List (ℕ × Op) := opening ++ [
  (10, .pauseSubscription bob)]

/-- After half a minute he is refunded 180 when he cancels, and 270 when he comes back first. -/
theorem pause_costs_refund :
    ¬ ∀ (log : List (State (Balances × Approvals) × Action (Balances × Approvals)))
        (s : State (Balances × Approvals)) (member : Address) (sub : Subscription) (env : Env)
        (refund refund' : ℤ) (sub' : Subscription) (s₁ s₂ s₃ : State (Balances × Approvals)),
      History (next approvedAsset contract) (fun _ _ _ => True) start log s →
      s.subscription.get? member = some sub → sub.status = .paused →
      sub.pausedAt ≤ env.timestamp →
      cancelSubscription approvedAsset contract env member s = .ok (refund, s₁) →
      resumeSubscription env member s = .ok (sub', s₂) →
      cancelSubscription approvedAsset contract env member s₂ = .ok (refund', s₃) →
      refund = refund' := by
  have h : After (fun h => (∃ sub ∈ h.2.subscription.get? bob, sub.status = .paused ∧
          sub.pausedAt = 10) ∧
        After (fun r => r.1 = 180) (cancelSubscription approvedAsset contract (env 40) bob h.2) ∧
        After (fun r => After (fun r' => r'.1 = 270)
          (cancelSubscription approvedAsset contract (env 40) bob r.2))
          (resumeSubscription (env 40) bob h.2))
      (record (next approvedAsset contract) (fun _ _ _ => True) (calls aPause) ([], start)) := by
    decide +kernel
  obtain ⟨⟨log, s⟩, hrec, ⟨sub, hfound, hpaused, hat⟩, hcancel, hresume⟩ := h.exists_ok
  obtain ⟨⟨refund, s₁⟩, hcancelled, hrefund⟩ := hcancel.exists_ok
  obtain ⟨⟨sub', s₂⟩, hresumed, hcancel'⟩ := hresume.exists_ok
  obtain ⟨⟨refund', s₃⟩, hcancelled', hrefund'⟩ := hcancel'.exists_ok
  have hrun : History (next approvedAsset contract) (fun _ _ _ => True) start log s :=
    record_history _ (fun _ _ _ _ _ => trivial) .nil hrec
  have hlater : sub.pausedAt ≤ (env 40).timestamp := by
    rw [hat]
    decide
  intro hall
  have hsame := hall log s bob sub (env 40) refund refund' sub' s₁ s₂ s₃ hrun hfound hpaused hlater
    hcancelled hresumed hcancelled'
  simp only at hrefund hrefund'
  omega

end Runs

end MembershipSubscription
