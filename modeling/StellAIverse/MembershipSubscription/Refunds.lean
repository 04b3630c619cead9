import StellAIverse.MembershipSubscription.Effects
import StellAIverse.Soroban.History

/-!
# Refunds and payments

A refund is computed from the status, the end of the period and the price of the
tier, not from what was paid. What a subscription has still to give back is worth
what is left of a period that was paid for, and nothing while a trial is running
or paused; every call keeps the refunds and that worth within the charges, but for
the cancellation of a paused trial, which is refunded as if it had been paid.
-/

namespace MembershipSubscription

open Soroban

variable {τ : Type} {tok : AllowanceToken τ} {self : Address} {s s' : State τ} {a : Action τ}
  {tiers tiers' : Store ℕ MembershipTier} {tier : MembershipTier} {T now : ℕ} {member : Address}
  {sub sub' : Subscription} {receipt : Receipt}

theorem value_nonneg (h : tier.Valid) (e t : ℕ) : 0 ≤ value tier e t := by
  unfold value
  split
  · exact le_rfl
  · exact Int.tdiv_nonneg (mul_nonneg h.price.le (Int.natCast_nonneg _)) (Int.natCast_nonneg _)

/-- Time that has passed is not refunded. -/
theorem value_antitone (h : tier.Valid) (e : ℕ) {t t' : ℕ} (ht : t ≤ t') :
    value tier e t' ≤ value tier e t := by
  by_cases hover : e ≤ t'
  · have hzero : value tier e t' = 0 := if_pos hover
    rw [hzero]
    exact value_nonneg h e t
  · unfold value
    rw [if_neg hover, if_neg (by omega)]
    apply Int.tdiv_le_tdiv (Int.natCast_pos.mpr h.period)
    apply mul_le_mul_of_nonneg_left _ h.price.le
    exact_mod_cast Nat.sub_le_sub_left ht e

/-- A period that has just begun is worth its price. -/
theorem value_full (h : tier.Valid) (t : ℕ) :
    value tier (t + tier.periodSeconds) t = tier.pricePerPeriod := by
  have hperiod := h.period
  unfold value
  rw [if_neg (by omega), Nat.add_sub_cancel_left]
  exact Int.mul_tdiv_cancel _ (by omega)

/-- A pause moves the end and the present alike. -/
theorem value_shift (e t d : ℕ) : value tier (e + d) (t + d) = value tier e t := by
  unfold value
  rw [Nat.add_sub_add_right]
  simp only [Nat.add_le_add_iff_right]

/-- Every tier keeps its price and its period. -/
def Kept (tiers tiers' : Store ℕ MembershipTier) : Prop :=
  ∀ id tier, tiers.get? id = some tier → ∃ tier', tiers'.get? id = some tier' ∧
    tier'.pricePerPeriod = tier.pricePerPeriod ∧ tier'.periodSeconds = tier.periodSeconds

theorem Kept.refl (tiers : Store ℕ MembershipTier) : Kept tiers tiers :=
  fun _ tier h => ⟨tier, h, rfl, rfl⟩

theorem kept_set {tierId : ℕ}
    (h : ∀ old, tiers.get? tierId = some old → tier.pricePerPeriod = old.pricePerPeriod ∧
      tier.periodSeconds = old.periodSeconds) : Kept tiers (tiers.set tierId tier) := by
  intro id old hold
  rw [Store.get?_set]
  split
  · rename_i he
    exact ⟨tier, rfl, h old (he ▸ hold)⟩
  · exact ⟨old, hold, rfl, rfl⟩

/-- What is still to be given back if the subscription ends now. -/
def held (tiers : Store ℕ MembershipTier) (T : ℕ) (sub : Subscription) : ℤ :=
  match sub.status with
  | .active => worth tiers sub T
  | .paused => if sub.pausedAt < sub.trialEnd then 0 else worth tiers sub sub.pausedAt
  | _ => 0

/-- What a stored subscription satisfies at ledger time `T`. -/
structure Sound (tiers : Store ℕ MembershipTier) (T : ℕ) (member : Address) (sub : Subscription) :
    Prop where
  belongs : sub.member = member
  tier : ∃ tier, tiers.get? sub.tierId = some tier
  trial : sub.status = .trial → sub.trialEnd = sub.currentPeriodEnd
  active : sub.status = .active → sub.trialEnd ≤ T
  paused : sub.status = .paused →
    sub.pausedAt ≤ T ∧ (sub.pausedAt < sub.trialEnd → sub.trialEnd = sub.currentPeriodEnd)

theorem Sound.mono (h : Sound tiers T member sub) (hT : T ≤ now) (hkept : Kept tiers tiers') :
    Sound tiers' now member sub where
  belongs := h.belongs
  tier := by
    obtain ⟨tier, htier⟩ := h.tier
    obtain ⟨tier', htier', -⟩ := hkept _ tier htier
    exact ⟨tier', htier'⟩
  trial := h.trial
  active hs := (h.active hs).trans hT
  paused hs := ⟨(h.paused hs).1.trans hT, (h.paused hs).2⟩

/-- Every tier is as `validate_tier_terms` wants it. -/
def AllValid (tiers : Store ℕ MembershipTier) : Prop :=
  ∀ id tier, tiers.get? id = some tier → tier.Valid

theorem worth_nonneg (hv : AllValid tiers) (sub : Subscription) (t : ℕ) : 0 ≤ worth tiers sub t := by
  unfold worth
  split
  · rename_i tier htier
    exact value_nonneg (hv _ tier htier) _ _
  · exact le_rfl

theorem worth_antitone (hv : AllValid tiers) (sub : Subscription) {t t' : ℕ} (ht : t ≤ t') :
    worth tiers sub t' ≤ worth tiers sub t := by
  unfold worth
  split
  · rename_i tier htier
    exact value_antitone (hv _ tier htier) _ ht
  · exact le_rfl

theorem worth_of_le (tiers : Store ℕ MembershipTier) {t : ℕ} (h : sub.currentPeriodEnd ≤ t) :
    worth tiers sub t = 0 := by
  unfold worth
  split
  · exact if_pos h
  · rfl

theorem worth_kept (hkept : Kept tiers tiers') (h : ∃ tier, tiers.get? sub.tierId = some tier)
    (t : ℕ) : worth tiers' sub t = worth tiers sub t := by
  obtain ⟨tier, htier⟩ := h
  obtain ⟨tier', htier', hprice, hperiod⟩ := hkept _ tier htier
  simp only [worth, htier, htier', value, hprice, hperiod]

theorem held_nonneg (hv : AllValid tiers) (T : ℕ) (sub : Subscription) : 0 ≤ held tiers T sub := by
  unfold held
  split
  · exact worth_nonneg hv sub T
  · split
    · exact le_rfl
    · exact worth_nonneg hv sub _
  · exact le_rfl

/-- Left alone, a subscription is worth less and less. -/
theorem held_mono (hv : AllValid tiers) (h : Sound tiers T member sub) (hT : T ≤ now)
    (hkept : Kept tiers tiers') : held tiers' now sub ≤ held tiers T sub := by
  unfold held
  split
  · rw [worth_kept hkept h.tier]
    exact worth_antitone hv sub hT
  · rw [worth_kept hkept h.tier]
  · exact le_rfl

/-- A running subscription is credited with no more than is left of it. -/
theorem unusedAt_le_held (hv : AllValid tiers) (hrunning : Running sub) (hT : T ≤ now) :
    unusedAt tiers sub now ≤ held tiers T sub := by
  unfold unusedAt held
  rcases hrunning with hs | hs
  · simp only [hs]
    exact worth_antitone hv sub hT
  · simp [hs]

/-- The trial of a paused subscription is still running. -/
def TrialPaused (now : ℕ) (sub : Subscription) : Prop :=
  sub.status = .paused ∧ now < sub.trialEnd

instance (now : ℕ) (sub : Subscription) : Decidable (TrialPaused now sub) :=
  inferInstanceAs (Decidable (_ ∧ _))

theorem unusedAt_le_held_of_live (hv : AllValid tiers) (h : Sound tiers T member sub)
    (hlive : isNonTerminal sub.status = true) (hT : T ≤ now) (htrial : ¬ TrialPaused now sub) :
    unusedAt tiers sub now ≤ held tiers T sub := by
  by_cases hs : sub.status = .paused
  · have hover : sub.trialEnd ≤ now := not_lt.mp fun hlt => htrial ⟨hs, hlt⟩
    obtain ⟨hpaused, hends⟩ := h.paused hs
    unfold unusedAt held
    simp only [hs, reduceCtorEq, if_false]
    split
    · rename_i hlt
      rw [worth_of_le tiers (hends hlt ▸ hover)]
    · exact worth_antitone hv sub (hpaused.trans hT)
  · exact unusedAt_le_held hv (running_of_live hs hlive) hT

/-- A period that has just been paid for is held in full. -/
theorem held_fresh (hv : AllValid tiers) {tierId : ℕ} (hfound : tiers.get? tierId = some tier)
    (hstatus : sub.status = .active) (htier : sub.tierId = tierId)
    (hends : sub.currentPeriodEnd = now + tier.periodSeconds) :
    held tiers now sub = tier.pricePerPeriod := by
  simp only [held, hstatus, worth, htier, hfound, hends]
  exact value_full (hv _ tier hfound) now

/-- A trial that was running when the pause began is running after it. -/
theorem extendedTrialEnd_of_lt (hlater : sub.pausedAt ≤ now) (h : sub.pausedAt < sub.trialEnd) :
    extendedTrialEnd sub (now - sub.pausedAt) = sub.trialEnd + (now - sub.pausedAt) ∧
      now < extendedTrialEnd sub (now - sub.pausedAt) := by
  unfold extendedTrialEnd
  rw [if_pos ⟨h.le, by omega⟩]
  omega

theorem extendedTrialEnd_le (hlater : sub.pausedAt ≤ now) (h : sub.trialEnd ≤ sub.pausedAt) :
    extendedTrialEnd sub (now - sub.pausedAt) ≤ now := by
  unfold extendedTrialEnd
  split <;> omega

theorem sound_change (h : Sound tiers T member sub) {op : Op}
    (hchange : Change tiers now sub op receipt sub') (hT : T ≤ now) : Sound tiers now member sub' := by
  cases hchange with
  | expire | cancel => exact ⟨h.belongs, h.tier, nofun, nofun, nofun⟩
  | renew m tier reward running due found =>
    exact ⟨h.belongs, ⟨tier, found⟩, nofun, fun _ => Nat.zero_le _, nofun⟩
  | pause m running =>
    refine ⟨h.belongs, h.tier, nofun, nofun, fun _ => ⟨le_rfl, fun hlt => ?_⟩⟩
    rcases running with hs | hs
    · have hover := h.active hs
      simp only at hlt
      omega
    · exact h.trial hs
  | resume m paused later =>
    obtain ⟨-, hends⟩ := h.paused paused
    rcases lt_or_ge sub.pausedAt sub.trialEnd with hlt | hge
    · obtain ⟨hextended, hruns⟩ := extendedTrialEnd_of_lt later hlt
      have hends := hends hlt
      rw [if_pos hruns]
      exact ⟨h.belongs, h.tier, fun _ => by simp only; omega, nofun, nofun⟩
    · have hover := extendedTrialEnd_le later hge
      rw [if_neg (not_lt.mpr hover)]
      exact ⟨h.belongs, h.tier, nofun, fun _ => hover, nofun⟩
  | changeTier m newTierId newTier running found =>
    exact ⟨h.belongs, ⟨newTier, found⟩, nofun, fun _ => Nat.zero_le _, nofun⟩

/-- What is refunded and what is still to be given back grow by no more than the charge. -/
theorem held_change (hv : AllValid tiers) (h : Sound tiers T member sub) {op : Op}
    (hchange : Change tiers now sub op receipt sub') (hacts : op.member = some member) (hT : T ≤ now)
    (htrial : op = .cancelSubscription member → ¬ TrialPaused now sub) :
    receipt.refund + held tiers now sub' ≤ held tiers T sub + receipt.charge := by
  have hheld := held_nonneg hv T sub
  cases hchange with
  | expire =>
    change 0 + 0 ≤ held tiers T sub + 0
    omega
  | renew m tier reward running due found =>
    simp only [held_fresh hv found]
    omega
  | cancel m live =>
    cases hacts
    have hunused := unusedAt_le_held_of_live hv h live hT (htrial rfl)
    change unusedAt tiers sub now + 0 ≤ held tiers T sub + 0
    omega
  | pause m running =>
    change 0 + (if now < sub.trialEnd then 0 else worth tiers sub now) ≤ held tiers T sub + 0
    split
    · omega
    · rename_i hover
      rcases running with hs | hs
      · have hle := worth_antitone hv sub hT
        simp only [held, hs]
        omega
      · rw [worth_of_le tiers (h.trial hs ▸ not_lt.mp hover)]
        omega
  | resume m paused later =>
    rcases lt_or_ge sub.pausedAt sub.trialEnd with hlt | hge
    · rw [if_pos (extendedTrialEnd_of_lt later hlt).2]
      change 0 + 0 ≤ held tiers T sub + 0
      omega
    · rw [if_neg (not_lt.mpr (extendedTrialEnd_le later hge))]
      have hshift : ∀ tier, value tier (sub.currentPeriodEnd + (now - sub.pausedAt)) now =
          value tier sub.currentPeriodEnd sub.pausedAt := by
        intro tier
        have hnow : now = sub.pausedAt + (now - sub.pausedAt) := by omega
        nth_rewrite 2 [hnow]
        exact value_shift _ _ _
      simp only [held, paused, if_neg (not_lt.mpr hge), worth, hshift, Receipt.none]
      omega
  | changeTier m newTierId newTier running found =>
    have hunused := unusedAt_le_held hv running hT
    simp only [held_fresh hv found]
    omega

/-- What the member was charged is what the record says was paid. -/
theorem totalPaid_change {op : Op} (hchange : Change tiers now sub op receipt sub') :
    sub'.totalPaid = sub.totalPaid + receipt.charge := by
  cases hchange with
  | expire | cancel | pause | resume => exact (add_zero _).symm
  | renew | changeTier => rfl

/-- A new subscription holds what was paid for it. -/
theorem held_opens (hv : AllValid tiers) (hfound : tiers.get? sub.tierId = some tier)
    (hopens : Opens tier now sub receipt) :
    receipt.charge = sub.totalPaid ∧ receipt.refund + held tiers now sub ≤ sub.totalPaid := by
  cases hopens with
  | trial status ends paid =>
    simp only [held, status, paid]
    exact ⟨rfl, le_rfl⟩
  | paid reward status ends period paid =>
    rw [paid, held_fresh hv hfound status rfl period]
    exact ⟨rfl, (zero_add _).le⟩

def Action.time : Action τ → Option ℕ
  | .call env _ => some env.timestamp
  | .transfers _ => none

def Action.subscriber : Action τ → Option Address
  | .call _ op => op.member
  | .transfers _ => none

/-- Terms of a tier do not change: an update leaves price and period as they are. -/
def Action.KeepsTerms (s : State τ) : Action τ → Prop
  | .call _ (.updateTier _ tierId _ price period _ _ _ _) =>
    ∀ tier ∈ s.tier.get? tierId, price = tier.pricePerPeriod ∧ period = tier.periodSeconds
  | _ => True

/-- No subscription is cancelled while its trial is paused. -/
def Action.SparesTrial (s : State τ) : Action τ → Prop
  | .call env (.cancelSubscription member) =>
    ∀ sub ∈ s.subscription.get? member, ¬ TrialPaused env.timestamp sub
  | _ => True

instance (s : State τ) : (a : Action τ) → Decidable (a.KeepsTerms s)
  | .call _ (.updateTier ..) => inferInstanceAs (Decidable (∀ tier ∈ _, _ ∧ _))
  | .call _ (.initializeContract ..) | .call _ (.createTier ..) | .call _ (.subscribe ..)
  | .call _ (.renewSubscription ..) | .call _ (.cancelSubscription ..)
  | .call _ (.pauseSubscription ..) | .call _ (.resumeSubscription ..) | .call _ (.changeTier ..)
  | .transfers _ => .isTrue trivial

instance (s : State τ) : (a : Action τ) → Decidable (a.SparesTrial s)
  | .call _ (.cancelSubscription _) => inferInstanceAs (Decidable (∀ sub ∈ _, ¬ _))
  | .call _ (.initializeContract ..) | .call _ (.createTier ..) | .call _ (.updateTier ..)
  | .call _ (.subscribe ..) | .call _ (.renewSubscription ..) | .call _ (.pauseSubscription ..)
  | .call _ (.resumeSubscription ..) | .call _ (.changeTier ..) | .transfers _ => .isTrue trivial

structure Regular (T : ℕ) (s : State τ) : Prop where
  valid : AllValid s.tier
  sound : ∀ member sub, s.subscription.get? member = some sub → Sound s.tier T member sub
  unset : s.admin = none → ∀ id, s.tier.get? id = none

theorem regular_deployed (tokens : τ) : Regular 0 (deployed tokens) where
  valid _ _ hk := by cases hk
  sound _ _ hk := by cases hk
  unset _ _ := rfl

/-- The state at a later time, with the same terms. -/
theorem Regular.later (h : Regular T s) (hT : T ≤ now) : Regular now s where
  valid := h.valid
  sound m sub hk := (h.sound m sub hk).mono hT (.refl _)
  unset := h.unset

theorem kept_effect (hkeeps : a.KeepsTerms s) (heffect : Effect s a receipt s') :
    Kept s.tier s'.tier := by
  cases heffect with
  | transfers | initializeContract | subscribed | changed => exact .refl _
  | createTier env admin tierId name price period trial flags bps tier tierIds known new =>
    exact kept_set fun old hold => by cases new.symm.trans hold
  | updateTier env admin tierId name price period trial flags bps active old tier known found valid
      terms =>
    refine kept_set fun old' hold => ?_
    obtain ⟨hprice, hperiod⟩ := hkeeps old' hold
    exact ⟨terms.1.trans hprice, terms.2.trans hperiod⟩

theorem regular_effect (h : Regular T s) (hT : ∀ t, a.time = some t → T ≤ t)
    (hkeeps : a.KeepsTerms s) (heffect : Effect s a receipt s') :
    Regular (a.time.getD T) s' := by
  have hkept := kept_effect hkeeps heffect
  cases heffect with
  | transfers => exact ⟨h.valid, h.sound, h.unset⟩
  | initializeContract env admin fresh =>
    have h' := h.later (hT _ rfl)
    exact ⟨h'.valid, h'.sound, nofun⟩
  | createTier env admin tierId name price period trial flags bps tier tierIds known new valid =>
    refine ⟨Store.forall_set h.valid valid, fun m sub hk => ?_, fun hnone => ?_⟩
    · exact (h.sound m sub hk).mono (hT _ rfl) hkept
    · cases known.symm.trans hnone
  | updateTier env admin tierId name price period trial flags bps active old tier known found valid =>
    refine ⟨Store.forall_set h.valid valid, fun m sub hk => ?_, fun hnone => ?_⟩
    · exact (h.sound m sub hk).mono (hT _ rfl) hkept
    · cases known.symm.trans hnone
  | subscribed env member token tierId autoRenew referrer tier sub receipt analytics rewards lock
      tokens found free belongs opens books =>
    have h' := h.later (hT _ rfl)
    refine ⟨h'.valid, Store.forall_set h'.sound ?_, h'.unset⟩
    obtain ⟨hmember, htier⟩ := belongs
    have hfound : ∃ tier, s.tier.get? sub.tierId = some tier := ⟨tier, htier ▸ found⟩
    cases opens with
    | trial status ends => exact ⟨hmember, hfound, fun _ => ends, by simp [status], by simp [status]⟩
    | paid reward status ends =>
      exact ⟨hmember, hfound, by simp [status], fun _ => by omega, by simp [status]⟩
  | changed env op member key sub receipt sub' analytics rewards lock tokens acts found located
      change =>
    have h' := h.later (hT _ rfl)
    have hsound := h.sound member sub found
    obtain rfl : key = member := located.elim id fun hk => hk.trans hsound.belongs
    exact ⟨h'.valid, Store.forall_set h'.sound (sound_change hsound change (hT _ rfl)), h'.unset⟩

def Action.opens : Action τ → Bool
  | .call _ (.subscribe ..) => true
  | _ => false

/-- What calls for the member added up to, from the last `subscribe` on. -/
def sinceOpened (amount : State τ × Action τ → ℤ) (member : Address) :
    List (State τ × Action τ) → ℤ
  | [] => 0
  | (s, a) :: log =>
    if a.subscriber = some member then
      amount (s, a) + if a.opens = true then 0 else sinceOpened amount member log
    else sinceOpened amount member log

def charged (tok : AllowanceToken τ) (self member : Address) (log : List (State τ × Action τ)) : ℤ :=
  sinceOpened (fun e => (receiptOf tok self e.2 e.1).charge) member log

def refunded (tok : AllowanceToken τ) (self member : Address) (log : List (State τ × Action τ)) : ℤ :=
  sinceOpened (fun e => (receiptOf tok self e.2 e.1).refund) member log

/-- Refunds and what is still held are within what was charged. -/
def Backed (tok : AllowanceToken τ) (self : Address) (log : List (State τ × Action τ)) (T : ℕ)
    (s : State τ) : Prop :=
  ∀ member sub, s.subscription.get? member = some sub →
    charged tok self member log = sub.totalPaid ∧
    refunded tok self member log + held s.tier T sub ≤ sub.totalPaid

/-- A call that does not concern the member. -/
theorem sinceOpened_other {amount : State τ × Action τ → ℤ} {log : List (State τ × Action τ)}
    (h : a.subscriber ≠ some member) :
    sinceOpened amount member ((s, a) :: log) = sinceOpened amount member log :=
  if_neg h

theorem sinceOpened_more {amount : State τ × Action τ → ℤ} {log : List (State τ × Action τ)}
    (h : a.subscriber = some member) (hopens : a.opens = false) :
    sinceOpened amount member ((s, a) :: log) =
      amount (s, a) + sinceOpened amount member log := by
  simp [sinceOpened, h, hopens]

theorem sinceOpened_new {amount : State τ × Action τ → ℤ} {log : List (State τ × Action τ)}
    (h : a.subscriber = some member) (hopens : a.opens = true) :
    sinceOpened amount member ((s, a) :: log) = amount (s, a) := by
  simp [sinceOpened, h, hopens]

/-- Between its own calls a subscription stays backed. -/
theorem Backed.other {log : List (State τ × Action τ)} (hbacked : Backed tok self log T s)
    (h : Regular T s) (hT : T ≤ now) (hkept : Kept s.tier tiers')
    (hfound : s.subscription.get? member = some sub) (hother : a.subscriber ≠ some member) :
    charged tok self member ((s, a) :: log) = sub.totalPaid ∧
      refunded tok self member ((s, a) :: log) + held tiers' now sub ≤ sub.totalPaid := by
  obtain ⟨hcharged, hrefunded⟩ := hbacked member sub hfound
  have hheld := held_mono h.valid (h.sound member sub hfound) hT hkept
  unfold charged refunded at *
  rw [sinceOpened_other hother, sinceOpened_other hother]
  exact ⟨hcharged, by omega⟩

theorem opens_of_change {op : Op} (hchange : Change tiers now sub op receipt sub') (env : Env) :
    (Action.call env op : Action τ).opens = false := by
  cases hchange <;> rfl

theorem backed_step {log : List (State τ × Action τ)} (h : Regular T s)
    (hT : ∀ t, a.time = some t → T ≤ t) (hkeeps : a.KeepsTerms s) (hspares : a.SparesTrial s)
    (hbacked : Backed tok self log T s) (heffect : Effect s a (receiptOf tok self a s) s') :
    Backed tok self ((s, a) :: log) (a.time.getD T) s' := by
  have hkept := kept_effect hkeeps heffect
  generalize hreceipt : receiptOf tok self a s = receipt at heffect
  intro who stored hstored
  cases heffect with
  | transfers => exact hbacked.other h le_rfl hkept hstored nofun
  | initializeContract | createTier | updateTier =>
    exact hbacked.other h (hT _ rfl) hkept hstored nofun
  | subscribed env member token tierId autoRenew referrer tier sub receipt analytics rewards lock
      tokens found free belongs opens books =>
    rw [Store.get?_set] at hstored
    split at hstored
    · rename_i he
      subst he
      cases hstored
      unfold charged refunded
      rw [sinceOpened_new rfl rfl, sinceOpened_new rfl rfl, hreceipt]
      exact held_opens h.valid (belongs.2 ▸ found) opens
    · rename_i hne
      exact hbacked.other h (hT _ rfl) hkept hstored fun he => hne (Option.some.inj he).symm
  | changed env op member key sub receipt sub' analytics rewards lock tokens acts found located
      change =>
    have hsound := h.sound member sub found
    obtain rfl : key = member := located.elim id fun hk => hk.trans hsound.belongs
    rw [Store.get?_set] at hstored
    split at hstored
    · rename_i he
      subst he
      cases hstored
      obtain ⟨hcharged, hrefunded⟩ := hbacked who sub found
      have hpaid := totalPaid_change change
      have hheld := held_change h.valid hsound change acts (hT _ rfl) (by
        rintro rfl
        exact hspares sub found)
      unfold charged refunded at *
      have hsubscriber : (Action.call env op : Action τ).subscriber = some who := acts
      have hopens : (Action.call env op : Action τ).opens = false := opens_of_change change env
      rw [sinceOpened_more hsubscriber hopens, sinceOpened_more hsubscriber hopens, hreceipt]
      simp only [Action.time, Option.getD_some]
      omega
    · rename_i hne
      refine hbacked.other h (hT _ rfl) hkept hstored fun he => hne ?_
      exact Option.some.inj (he.symm.trans acts)

/-- In every run in which tiers keep their terms and no subscription is cancelled while its
trial is paused, what a member was refunded for a subscription is within what the member was
charged for it. -/
theorem refunds_covered {tokens : τ} {log : List (State τ × Action τ)}
    (hrun : History (next tok self)
      (fun log s a => OnTime Action.time log a ∧ a.KeepsTerms s ∧ a.SparesTrial s)
      (deployed tokens) log s)
    (hfound : s.subscription.get? member = some sub) :
    charged tok self member log = sub.totalPaid ∧ refunded tok self member log ≤ sub.totalPaid := by
  have hkept : Regular (clock Action.time log) s ∧
      Backed tok self log (clock Action.time log) s := by
    refine hrun.preserves (P := fun log s => Regular (clock Action.time log) s ∧
      Backed tok self log (clock Action.time log) s) ⟨regular_deployed tokens, nofun⟩ ?_
    rintro log s a s' ⟨htime, hkeeps, hspares⟩ hn ⟨hregular, hbacked⟩
    have heffect := next_effect hn
    rw [clock_cons]
    exact ⟨regular_effect hregular htime hkeeps heffect,
      backed_step hregular htime hkeeps hspares hbacked heffect⟩
  obtain ⟨hregular, hbacked⟩ := hkept
  obtain ⟨hcharged, hrefunded⟩ := hbacked member sub hfound
  have hheld := held_nonneg hregular.valid (clock Action.time log) sub
  exact ⟨hcharged, by omega⟩

namespace Sample

def contract : Address := ⟨0⟩

def admin : Address := ⟨1⟩

def usdc : Address := ⟨2⟩

def alice : Address := ⟨3⟩

def bob : Address := ⟨4⟩

def carol : Address := ⟨5⟩

/-- Everyone signs. -/
def env (t : ℕ) : Env := ⟨t, fun _ => true⟩

/-- Two members with money, of whom Alice has approved renewals. -/
def start : State (Balances × Approvals) :=
  deployed (Balances.issue [(usdc, alice, 1000), (usdc, bob, 1000)],
    Store.empty.set (usdc, alice, contract) 1000)

/-- A tier with a trial and one without. -/
def opening : List (ℕ × Op) := [
  (0, .initializeContract admin),
  (0, .createTier admin 1 "basic" 100 100 50 1 5000),
  (0, .createTier admin 2 "plus" 300 100 0 3 1000),
  (0, .subscribe bob usdc 2 false none)]

/-- Calls at their times. -/
def calls (ops : List (ℕ × Op)) : List (Action (Balances × Approvals)) :=
  ops.map fun e => .call (env e.1) e.2

end Sample

section Runs

open Sample

/-- Alice pauses her trial, renews, goes up a tier and down again, and cancels while paused. -/
def aMembership : List (ℕ × Op) := opening ++ [
  (0, .subscribe alice usdc 1 true (some carol)),
  (10, .pauseSubscription alice),
  (30, .resumeSubscription alice),
  (70, .renewSubscription alice),
  (80, .changeTier alice 2),
  (130, .changeTier alice 1),
  (155, .pauseSubscription alice),
  (165, .cancelSubscription alice)]

theorem refunds_covered_membership :
    ∃ s log sub, History (next approvedAsset contract)
        (fun log s a => OnTime Action.time log a ∧ a.KeepsTerms s ∧ a.SparesTrial s) start log s ∧
      s.subscription.get? alice = some sub ∧ sub.totalPaid = 310 ∧
      refunded approvedAsset contract alice log = 115 ∧
      refunded approvedAsset contract alice log ≤ sub.totalPaid := by
  have h : After (fun h => refunded approvedAsset contract alice h.1 = 115 ∧
        ∃ sub ∈ h.2.subscription.get? alice, sub.totalPaid = 310)
      (record (next approvedAsset contract)
        (fun log s a => OnTime Action.time log a ∧ a.KeepsTerms s ∧ a.SparesTrial s)
        (calls aMembership) ([], start)) := by
    decide +kernel
  obtain ⟨⟨log, s⟩, hrec, hrefunded, sub, hsub, hpaid⟩ := h.exists_ok
  have hrun := record_run hrec
  exact ⟨s, log, sub, hrun, hsub, hpaid, hrefunded, (refunds_covered hrun hsub).2⟩

/-- Alice pauses her trial and cancels. -/
def aPausedTrial : List (ℕ × Op) := opening ++ [
  (0, .subscribe alice usdc 1 true none),
  (0, .pauseSubscription alice),
  (0, .cancelSubscription alice)]

/-- She paid nothing and is refunded half the price. -/
theorem paused_trial_refunded :
    ∃ s log sub, History (next approvedAsset contract)
        (fun log s a => OnTime Action.time log a ∧ a.KeepsTerms s) start log s ∧
      s.subscription.get? alice = some sub ∧ sub.totalPaid = 0 ∧
      approvedAsset.balance s.tokens usdc alice = 1050 ∧
      refunded approvedAsset contract alice log = 50 ∧
      ¬ refunded approvedAsset contract alice log ≤ sub.totalPaid := by
  have h : After (fun h => refunded approvedAsset contract alice h.1 = 50 ∧
        approvedAsset.balance h.2.tokens usdc alice = 1050 ∧
        ∃ sub ∈ h.2.subscription.get? alice, sub.totalPaid = 0)
      (record (next approvedAsset contract)
        (fun log s a => OnTime Action.time log a ∧ a.KeepsTerms s) (calls aPausedTrial)
        ([], start)) := by
    decide +kernel
  obtain ⟨⟨log, s⟩, hrec, hrefunded, hbalance, sub, hsub, hpaid⟩ := h.exists_ok
  have hrun := record_run hrec
  simp only at hrefunded
  exact ⟨s, log, sub, hrun, hsub, hpaid, hbalance, hrefunded, by omega⟩

end Runs

end MembershipSubscription
