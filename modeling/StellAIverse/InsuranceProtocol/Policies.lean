import StellAIverse.InsuranceProtocol.Registry
import StellAIverse.InsuranceProtocol.Solvency

/-!
# Policies and their counters

A policy ends when it is cancelled or when a claim on it is paid. A payout looks
at the claim and not at the policy, so a policy with several open claims, or one
that was cancelled, is paid again, and the counter of the pool is lowered each
time. Runs that pay for policies that have not ended keep both in order.
-/

namespace InsuranceProtocol

open Soroban

variable {τ : Type} {tok : Token τ} {self : Address} {s s' : State τ} {a : Action τ}
  {entry : Option Entry} {log : List (State τ × Action τ)} {policyId : ℕ}
  {policy : CoveragePolicy} {pool pool' : InsurancePool}

/-- The policy that a queued payout is made for. -/
def policyOf (s : State τ) (queueId : ℕ) : Option ℕ :=
  match s.payoutQueueItem.get? queueId with
  | some item => (s.claim.get? item.claimId).map Claim.policyId
  | none => none

theorem policyOf_eq {queueId : ℕ} {item : PayoutQueueItem} {claim : Claim}
    (hitem : s.payoutQueueItem.get? queueId = some item)
    (hclaim : s.claim.get? item.claimId = some claim) :
    policyOf s queueId = some claim.policyId := by
  simp [policyOf, hitem, hclaim]

/-- For which policy a completed call of `pay_claim` paid, and how much. -/
def paymentOf (tok : Token τ) (self : Address) (a : Action τ) (s : State τ) : Option (ℕ × ℤ) :=
  match a with
  | .call _ (.payClaim _ queueId) =>
    match entryOf tok self a s, policyOf s queueId with
    | some entry, some policyId => some (policyId, entry.amount)
    | _, _ => none
  | _ => none

/-- What a payment counts for one policy. -/
def paidAs (policyId : ℕ) : Option (ℕ × ℤ) → ℤ
  | some payment => if payment.1 = policyId then payment.2 else 0
  | none => 0

/-- Everything that a run paid on claims of a policy. -/
def paidOn (tok : Token τ) (self : Address) (policyId : ℕ) (log : List (State τ × Action τ)) : ℤ :=
  (log.map fun e => paidAs policyId (paymentOf tok self e.2 e.1)).sum

theorem paidOn_cons (policyId : ℕ) (s : State τ) (a : Action τ) (log : List (State τ × Action τ)) :
    paidOn tok self policyId ((s, a) :: log) =
      paidAs policyId (paymentOf tok self a s) + paidOn tok self policyId log := by
  simp [paidOn]

/-- The call cancelled the policy or paid a claim on it. -/
def Ends (policyId : ℕ) (e : State τ × Action τ) : Prop :=
  match e.2 with
  | .call _ (.cancelPolicy _ id) => id = policyId
  | .call _ (.payClaim _ queueId) => policyOf e.1 queueId = some policyId
  | _ => False

theorem paidAs_of_not_ends (h : ¬ Ends policyId (s, a)) :
    paidAs policyId (paymentOf tok self a s) = 0 := by
  unfold paymentOf
  split
  · split
    · rename_i entry id hentry hid
      refine if_neg fun he => h ?_
      rw [← he]
      exact hid
    · rfl
  · rfl

theorem paidOn_of_not_ends (h : ∀ e ∈ log, ¬ Ends policyId e) : paidOn tok self policyId log = 0 := by
  induction log with
  | nil => rfl
  | cons e log ih =>
    obtain ⟨s, a⟩ := e
    have hlog := ih fun e he => h e (List.mem_cons_of_mem _ he)
    rw [paidOn_cons, paidAs_of_not_ends (h (s, a) List.mem_cons_self), hlog, add_zero]

/-- Claims are paid on policies that were neither cancelled nor paid for before. -/
def Action.PaysFirst (log : List (State τ × Action τ)) (s : State τ) : Action τ → Prop
  | .call _ (.payClaim _ queueId) =>
    ∀ policyId ∈ policyOf s queueId, ∀ e ∈ log, ¬ Ends policyId e
  | _ => True

/-- A policy is active until it ends. -/
structure Lives (log : List (State τ × Action τ)) (s : State τ) : Prop where
  active : ∀ id policy, s.policy.get? id = some policy →
    (policy.isActive = true ↔ ∀ e ∈ log, ¬ Ends id e)
  unsold : ∀ id, s.policy.get? id = none → ∀ e ∈ log, ¬ Ends id e

theorem Lives.keep (h : Lives log s) (hpolicy : s'.policy = s.policy)
    (hends : ∀ id, ¬ Ends id (s, a)) : Lives ((s, a) :: log) s' := by
  constructor
  · intro id policy hk
    rw [hpolicy] at hk
    rw [List.forall_mem_cons, h.active id policy hk]
    exact (and_iff_right (hends id)).symm
  · intro id hk
    rw [hpolicy] at hk
    exact List.forall_mem_cons.mpr ⟨hends id, h.unsold id hk⟩

theorem Lives.sell (h : Lives log s) (hset : s'.policy = s.policy.set policyId policy)
    (hnew : s.policy.get? policyId = none) (hactive : policy.isActive = true)
    (hends : ∀ id, ¬ Ends id (s, a)) : Lives ((s, a) :: log) s' := by
  have hlog : ∀ id, (∀ e ∈ (s, a) :: log, ¬ Ends id e) ↔ ∀ e ∈ log, ¬ Ends id e := by
    intro id
    rw [List.forall_mem_cons]
    exact and_iff_right (hends id)
  constructor
  · rw [hset]
    refine Store.forall_set (fun id policy hk => (h.active id policy hk).trans (hlog id).symm) ?_
    exact iff_of_true hactive ((hlog policyId).mpr (h.unsold policyId hnew))
  · intro id hk
    rw [hset, Store.get?_set] at hk
    split at hk
    · cases hk
    · exact (hlog id).mpr (h.unsold id hk)

theorem Lives.close (h : Lives log s) (hset : s'.policy = s.policy.set policyId policy)
    (hclosed : policy.isActive = false) (hends : ∀ id, Ends id (s, a) ↔ id = policyId) :
    Lives ((s, a) :: log) s' := by
  have hother : ∀ id, id ≠ policyId →
      ((∀ e ∈ (s, a) :: log, ¬ Ends id e) ↔ ∀ e ∈ log, ¬ Ends id e) := by
    intro id hne
    rw [List.forall_mem_cons]
    exact and_iff_right (mt (hends id).mp hne)
  constructor
  · intro id policy' hk
    rw [hset, Store.get?_set] at hk
    split at hk
    · rename_i hid
      cases hk
      rw [hclosed]
      refine iff_of_false Bool.false_ne_true fun hnone => ?_
      exact hnone (s, a) List.mem_cons_self ((hends id).mpr hid)
    · rename_i hid
      exact (h.active id policy' hk).trans (hother id hid).symm
  · intro id hk
    rw [hset, Store.get?_set] at hk
    split at hk
    · cases hk
    · rename_i hid
      exact (hother id hid).mpr (h.unsold id hk)

theorem lives_step (h : Lives log s) (hregistry : Registry s)
    (heffect : Effect tok self s a entry s') : Lives ((s, a) :: log) s' := by
  cases heffect with
  | purchased => exact h.sell rfl hregistry.new_policy rfl fun _ => id
  | cancelled env buyer policyId => exact h.close rfl rfl fun id => eq_comm
  | paid env admin queueId item claim pool policy requiredReserve reserveAmount token tokens listed
      waiting stored =>
    refine h.close rfl rfl fun id => ?_
    change policyOf s queueId = some id ↔ id = claim.policyId
    rw [policyOf_eq listed stored, Option.some.injEq, eq_comm]
  | _ => exact h.keep rfl fun _ => id

/-- The limit of a policy is not negative. -/
theorem purchaseCoverage_limit {env : Env} {buyer : Address} {poolId : Symbol} {tier : CoverageTier}
    {coverageAmount : ℤ}
    (h : purchaseCoverage tok self env buyer poolId tier coverageAmount s = .ok (policyId, s')) :
    ∃ policy, s'.policy = s.policy.set policyId policy ∧ 0 ≤ policy.coverageLimit := by
  unfold purchaseCoverage at h
  obtain ⟨-, h⟩ := requireAuth_bind.mp h
  obtain ⟨-, h⟩ := failIf_bind.mp h
  obtain ⟨hpositive, h⟩ := failIf_bind.mp h
  obtain ⟨pool, -, h⟩ := okOr_bind.mp h
  obtain ⟨-, h⟩ := failIf_bind.mp h
  obtain ⟨params, -, h⟩ := expect_bind.mp h
  obtain ⟨-, h⟩ := failIf_bind.mp h
  obtain ⟨-, h⟩ := failIf_bind.mp h
  obtain ⟨premium, -, h⟩ := bind_ok.mp h
  obtain ⟨config, -, h⟩ := expect_bind.mp h
  obtain ⟨-, h⟩ := I128.checked_bind.mp h
  obtain ⟨-, -, h⟩ := I128.div_bind.mp h
  obtain ⟨-, h⟩ := I128.checked_bind.mp h
  obtain ⟨-, -, h⟩ := I128.div_bind.mp h
  obtain ⟨token, -, h⟩ := expect_bind.mp h
  obtain ⟨tokens, -, h⟩ := tok.pay_bind.mp h
  obtain ⟨-, h⟩ := U64.checked_bind.mp h
  obtain ⟨-, h⟩ := U64.add_bind.mp h
  obtain ⟨-, h⟩ := I128.checked_bind.mp h
  obtain ⟨-, h⟩ := I128.checked_bind.mp h
  obtain ⟨-, h⟩ := U32.add_bind.mp h
  obtain ⟨reserve, -, h⟩ := bind_ok.mp h
  cases h
  refine ⟨_, rfl, ?_⟩
  exact Int.tdiv_nonneg (mul_nonneg (not_le.mp hpositive).le (Int.natCast_nonneg _)) (by decide)

/-- No limit is negative. -/
def Limited (s : State τ) : Prop :=
  ∀ id policy, s.policy.get? id = some policy → 0 ≤ policy.coverageLimit

theorem limited_step (h : Limited s) (hnext : next tok self a s = .ok s') : Limited s' := by
  have hsold : ∀ env buyer poolId tier coverageAmount,
      a = .call env (.purchaseCoverage buyer poolId tier coverageAmount) → Limited s' := by
    rintro env buyer poolId tier coverageAmount rfl
    obtain ⟨⟨id, s₁⟩, hcall, rfl⟩ := map_ok.mp hnext
    obtain ⟨policy, hset, hlimit⟩ := purchaseCoverage_limit hcall
    unfold Limited
    rw [hset]
    exact Store.forall_set h hlimit
  have heffect := next_effect hnext
  generalize entryOf tok self a s = entry at heffect
  cases heffect with
  | purchased => exact hsold _ _ _ _ _ rfl
  | cancelled env buyer policyId policy pool refund reserveAmount tokens stored =>
    exact Store.forall_set h (h policyId policy stored)
  | paid env admin queueId item claim pool policy requiredReserve reserveAmount token tokens listed
      waiting stored approved found reserve checks insured =>
    exact Store.forall_set h (h claim.policyId policy insured)
  | _ => exact h

/-- The amount of a queued payout is within the limit of its policy. -/
theorem Registry.amount_le (h : Registry s) {queueId : ℕ} {item : PayoutQueueItem} {claim : Claim}
    (hitem : s.payoutQueueItem.get? queueId = some item)
    (hclaim : s.claim.get? item.claimId = some claim)
    (hpolicy : s.policy.get? claim.policyId = some policy) :
    item.amount ≤ policy.coverageLimit ∧ item.poolId = policy.poolId := by
  obtain ⟨-, claim', hclaim', hpool, hamount⟩ := h.items queueId item hitem
  obtain rfl : claim = claim' := Option.some.inj (hclaim.symm.trans hclaim')
  obtain ⟨policy', hpolicy', hpool', hlimit⟩ := (h.claims _ claim hclaim).2.policy
  obtain rfl : policy = policy' := Option.some.inj (hpolicy.symm.trans hpolicy')
  exact ⟨hamount.trans_le hlimit, hpool.trans hpool'⟩

/-- On a policy that has not ended, one payment is within the limit. -/
theorem paid_within (hregistry : Registry s) (hfirst : a.PaysFirst log s)
    (hnext : next tok self a s = .ok s') (hstored : s.policy.get? policyId = some policy)
    (h : paidOn tok self policyId log ≤ policy.coverageLimit) :
    paidOn tok self policyId ((s, a) :: log) ≤ policy.coverageLimit := by
  rw [paidOn_cons]
  by_cases hends : Ends policyId (s, a)
  · have heffect := next_effect hnext
    generalize hentry : entryOf tok self a s = entry at heffect
    cases heffect with
    | cancelled =>
      change 0 + paidOn tok self policyId log ≤ policy.coverageLimit
      rwa [zero_add]
    | paid env admin queueId item claim pool policy' requiredReserve reserveAmount token tokens
        listed waiting stored approved found reserve checks insured =>
      have hpolicy := policyOf_eq listed stored
      obtain rfl : claim.policyId = policyId := Option.some.inj (hpolicy.symm.trans hends)
      have hbefore : paidOn tok self claim.policyId log = 0 :=
        paidOn_of_not_ends (hfirst claim.policyId hpolicy)
      have hpayment : paymentOf tok self (.call env (.payClaim admin queueId)) s =
          some (claim.policyId, item.amount) := by
        simp only [paymentOf, hentry, hpolicy]
      rw [hpayment, hbefore, add_zero, paidAs, if_pos rfl]
      exact (hregistry.amount_le listed stored hstored).1
    | _ => exact absurd hends id
  · rwa [paidAs_of_not_ends hends, zero_add]

theorem ends_stored (heffect : Effect tok self s a entry s') (h : Ends policyId (s, a)) :
    ∃ policy, s.policy.get? policyId = some policy := by
  cases heffect with
  | cancelled env buyer id policy pool refund reserveAmount tokens stored =>
    obtain rfl : id = policyId := h
    exact ⟨policy, stored⟩
  | paid env admin queueId item claim pool policy requiredReserve reserveAmount token tokens listed
      waiting stored approved found reserve checks insured =>
    obtain rfl : claim.policyId = policyId :=
      Option.some.inj ((policyOf_eq listed stored).symm.trans h)
    exact ⟨policy, insured⟩
  | _ => exact absurd h id

theorem ends_of_payment (log : List (State τ × Action τ)) {payment : ℕ × ℤ}
    (h : paymentOf tok self a s = some payment) :
    Ends payment.1 (s, a) ∧ (a.PaysFirst log s → ∀ e ∈ log, ¬ Ends payment.1 e) := by
  unfold paymentOf at h
  split at h
  · split at h
    · rename_i entry id hentry hid
      cases h
      exact ⟨hid, fun hfirst => hfirst id hid⟩
    · cases h
  · cases h

/-- What a run that pays first knows of its policies. -/
structure PaidOnce (tok : Token τ) (holder : Address) (log : List (State τ × Action τ))
    (s : State τ) : Prop where
  lives : Lives log s
  limited : Limited s
  within : ∀ id policy, s.policy.get? id = some policy →
    paidOn tok holder id log ≤ policy.coverageLimit
  active : ∀ e ∈ log, ∀ payment ∈ paymentOf tok holder e.2 e.1,
    ∃ policy, e.1.policy.get? payment.1 = some policy ∧ policy.isActive = true

theorem paidOnce_step (h : PaidOnce tok self log s) (hregistry : Registry s)
    (hfirst : a.PaysFirst log s) (hnext : next tok self a s = .ok s') :
    PaidOnce tok self ((s, a) :: log) s' := by
  have heffect := next_effect hnext
  have hlives := lives_step h.lives hregistry heffect
  have hlimited := limited_step h.limited hnext
  refine ⟨hlives, hlimited, fun id policy' hk => ?_, ?_⟩
  · cases hstored : s.policy.get? id with
    | some policy =>
      obtain ⟨policy'', hk', hsame⟩ := (keeps_step hregistry heffect).policies id policy hstored
      obtain rfl : policy' = policy'' := Option.some.inj (hk.symm.trans hk')
      rw [hsame.limit]
      exact paid_within hregistry hfirst hnext hstored (h.within id policy hstored)
    | none =>
      -- A policy that was not there has been sold just now.
      have hnot : ∀ e ∈ (s, a) :: log, ¬ Ends id e := by
        refine List.forall_mem_cons.mpr ⟨fun hends => ?_, h.lives.unsold id hstored⟩
        obtain ⟨policy, hpolicy⟩ := ends_stored heffect hends
        cases hstored.symm.trans hpolicy
      rw [paidOn_of_not_ends hnot]
      exact hlimited id policy' hk
  · refine List.forall_mem_cons.mpr ⟨fun payment hpayment => ?_, h.active⟩
    obtain ⟨hends, hbefore⟩ := ends_of_payment log hpayment
    obtain ⟨policy, hpolicy⟩ := ends_stored heffect hends
    exact ⟨policy, hpolicy, (h.lives.active _ policy hpolicy).mpr (hbefore hfirst)⟩

/-- In every run in which claims are paid on policies that were neither cancelled nor paid for
before, no policy is paid more than its limit, and every policy is active when it is paid. -/
theorem policies_paid_once {start : τ}
    (hrun : History (next tok self) (fun log s a => a.PaysFirst log s) (deployed start) log s) :
    (∀ id policy, s.policy.get? id = some policy →
      paidOn tok self id log ≤ policy.coverageLimit) ∧
    ∀ e ∈ log, ∀ payment ∈ paymentOf tok self e.2 e.1,
      ∃ policy, e.1.policy.get? payment.1 = some policy ∧ policy.isActive = true := by
  obtain ⟨-, h⟩ := run_preserves (P := PaidOnce tok self) hrun
    ⟨⟨fun _ _ hk => (by cases hk), fun _ _ _ he => (by cases he)⟩, fun _ _ hk => (by cases hk),
      fun _ _ hk => (by cases hk), fun _ he => (by cases he)⟩
    fun log s a s' hregistry hfirst hnext _ h => paidOnce_step h hregistry hfirst hnext
  exact ⟨h.within, h.active⟩

instance (policyId : ℕ) (e : State τ × Action τ) : Decidable (Ends policyId e) :=
  match e with
  | (_, .call _ (.cancelPolicy _ id)) => inferInstanceAs (Decidable (id = policyId))
  | (s, .call _ (.payClaim _ queueId)) =>
    inferInstanceAs (Decidable (policyOf s queueId = some policyId))
  | (_, .transfers _) | (_, .call _ (.initializeContract _ _ _)) | (_, .call _ (.createPool _ _ _ _))
  | (_, .call _ (.depositAsUnderwriter _ _ _)) | (_, .call _ (.withdrawAsUnderwriter _ _ _))
  | (_, .call _ (.purchaseCoverage _ _ _ _)) | (_, .call _ (.submitClaim _ _ _ _))
  | (_, .call _ (.voteOnClaim _ _ _)) | (_, .call _ (.processClaim _))
  | (_, .call _ (.setRiskParameters _ _)) | (_, .call _ (.setTierConfig _ _ _))
  | (_, .call _ (.updateReserveRatio _ _ _)) | (_, .call _ (.emergencyPause _))
  | (_, .call _ (.emergencyUnpause _)) => .isFalse id

instance (log : List (State τ × Action τ)) (s : State τ) (a : Action τ) :
    Decidable (a.PaysFirst log s) :=
  match a with
  | .call _ (.payClaim _ queueId) =>
    inferInstanceAs (Decidable (∀ policyId ∈ policyOf s queueId, ∀ e ∈ log, ¬ Ends policyId e))
  | .transfers _ | .call _ (.initializeContract _ _ _) | .call _ (.createPool _ _ _ _)
  | .call _ (.depositAsUnderwriter _ _ _) | .call _ (.withdrawAsUnderwriter _ _ _)
  | .call _ (.purchaseCoverage _ _ _ _) | .call _ (.cancelPolicy _ _)
  | .call _ (.submitClaim _ _ _ _) | .call _ (.voteOnClaim _ _ _) | .call _ (.processClaim _)
  | .call _ (.setRiskParameters _ _) | .call _ (.setTierConfig _ _ _)
  | .call _ (.updateReserveRatio _ _ _) | .call _ (.emergencyPause _)
  | .call _ (.emergencyUnpause _) => .isTrue trivial

section Runs

open Sample

/-- A claim on the first of two policies is paid, the second policy is cancelled. -/
theorem policies_paid_once_ordinary :
    ∃ log s, History (next asset contract) (fun log s a => a.PaysFirst log s) start log s ∧
      paidOn asset contract 1 log = 500 ∧ ∃ policy ∈ s.policy.get? 1, 500 ≤ policy.coverageLimit := by
  have h : After (fun h => paidOn asset contract 1 h.1 = 500 ∧ ∃ policy ∈ h.2.policy.get? 1, True)
      (record (next asset contract) (fun log s a => a.PaysFirst log s) (calls ordinary)
        ([], start)) := by
    decide +kernel
  obtain ⟨⟨log, s⟩, hrec, hpaid, policy, hpolicy, -⟩ := h.exists_ok
  have hrun := record_run hrec
  have hle := (policies_paid_once hrun).1 1 policy hpolicy
  rw [hpaid] at hle
  exact ⟨log, s, hrun, hpaid, policy, hpolicy, hle⟩

/-- Two claims for the full limit are open at once. -/
def claimedTwice : List (ℕ × Op) := opened ++ [
  (3, .purchaseCoverage carol "bridges" .standard 900),
  (4, .submitClaim carol 1 990 "exploit"),
  (4, .submitClaim carol 1 990 "exploit"),
  (300000, .processClaim 1),
  (300000, .processClaim 2),
  (300001, .payClaim admin 1),
  (300002, .payClaim admin 2)]

theorem policy_paid_twice :
    ¬ ∀ (log : List (State Balances × Action Balances)) (s : State Balances) (id : ℕ)
        (policy : CoveragePolicy),
      History (next asset contract) (fun _ _ _ => True) start log s →
      s.policy.get? id = some policy → paidOn asset contract id log ≤ policy.coverageLimit := by
  have h : After (fun h => paidOn asset contract 1 h.1 = 1800 ∧
        ∃ policy ∈ h.2.policy.get? 1, policy.coverageLimit = 900)
      (record (next asset contract) (fun _ _ _ => True) (calls claimedTwice) ([], start)) := by
    decide +kernel
  obtain ⟨⟨log, s⟩, hrec, hpaid, policy, hpolicy, hlimit⟩ := h.exists_ok
  have hrun := record_run hrec
  intro hall
  have hle := hall log s 1 policy hrun hpolicy
  rw [hpaid, hlimit] at hle
  exact absurd hle (by decide)

end Runs

/-- Active policies as the pool counts them. -/
def counterOf (s : State τ) (id : Symbol) : ℤ :=
  s.pool.weight (fun _ pool => (pool.activePolicies : ℤ)) id

/-- The number of policies of a pool that are active. -/
def activeIn (s : State τ) (id : Symbol) : ℤ :=
  s.policy.total fun _ policy => if policy.poolId = id ∧ policy.isActive = true then 1 else 0

def Counted (s : State τ) : Prop := ∀ id, counterOf s id = activeIn s id

/-- Claims are paid on policies that are active. -/
def Action.PaysActive (s : State τ) : Action τ → Prop
  | .call _ (.payClaim _ queueId) =>
    ∀ policyId ∈ policyOf s queueId, ∀ policy ∈ s.policy.get? policyId, policy.isActive = true
  | _ => True

theorem counterOf_write {poolId : Symbol} {d : ℤ} (hset : s'.pool = s.pool.set poolId pool')
    (hcount : (pool'.activePolicies : ℤ) = counterOf s poolId + d) (id : Symbol) :
    counterOf s' id = counterOf s id + if poolId = id then d else 0 := by
  unfold counterOf
  rw [hset]
  exact Store.weight_set_add hcount id

theorem counterOf_found {poolId : Symbol} (hfound : s.pool.get? poolId = some pool) :
    counterOf s poolId = pool.activePolicies :=
  Store.weight_some hfound

/-- No policy is sold or ends. -/
theorem Counted.keep (h : Counted s) {poolId : Symbol} (hset : s'.pool = s.pool.set poolId pool')
    (hcount : (pool'.activePolicies : ℤ) = counterOf s poolId) (hpolicy : s'.policy = s.policy) :
    Counted s' := by
  intro id
  rw [counterOf_write (d := 0) hset (by rw [hcount, add_zero]), ite_self, add_zero, h id]
  unfold activeIn
  rw [hpolicy]

theorem Counted.sell (h : Counted s) (hsetpool : s'.pool = s.pool.set policy.poolId pool')
    (hset : s'.policy = s.policy.set policyId policy) (hnew : s.policy.get? policyId = none)
    (hactive : policy.isActive = true)
    (hcount : (pool'.activePolicies : ℤ) = counterOf s policy.poolId + 1) : Counted s' := by
  intro id
  rw [counterOf_write hsetpool hcount, h id]
  unfold activeIn
  rw [hset, Store.total_set_add]
  rw [Store.weight_none hnew, zero_add]
  simp only [hactive, and_true]

/-- An active policy is counted. -/
theorem Counted.positive (h : Counted s) (hstored : s.policy.get? policyId = some policy)
    (hactive : policy.isActive = true) (hfound : s.pool.get? policy.poolId = some pool) :
    0 < pool.activePolicies := by
  have hle := Store.weight_le_total policyId (s := s.policy)
    (w := fun _ p => if p.poolId = policy.poolId ∧ p.isActive = true then 1 else 0) (by
      intro _ p _
      split <;> decide)
  rw [Store.weight_some hstored, if_pos ⟨rfl, hactive⟩] at hle
  have hcount := h policy.poolId
  rw [counterOf_found hfound] at hcount
  unfold activeIn at hcount
  omega

theorem Counted.close (h : Counted s) (hstored : s.policy.get? policyId = some policy)
    (hactive : policy.isActive = true) (hfound : s.pool.get? policy.poolId = some pool)
    (hsetpool : s'.pool = s.pool.set policy.poolId pool')
    (hset : s'.policy = s.policy.set policyId { policy with isActive := false })
    (hcount : pool'.activePolicies = pool.activePolicies - 1) : Counted s' := by
  have hpositive := h.positive hstored hactive hfound
  intro id
  rw [counterOf_write (d := -1) hsetpool, h id]
  · unfold activeIn
    rw [hset, Store.total_set_add (d := if policy.poolId = id then -1 else 0)]
    rw [Store.weight_some hstored]
    simp only [hactive, and_true, Bool.false_eq_true, and_false, if_false]
    split <;> decide
  · rw [counterOf_found hfound, hcount]
    push_cast [Nat.cast_sub (show 1 ≤ pool.activePolicies from hpositive)]
    ring

theorem counted_step (h : Counted s) (hregistry : Registry s) (hpays : a.PaysActive s)
    (heffect : Effect tok self s a entry s') : Counted s' := by
  cases heffect with
  | createPool env admin poolId coverageType reserveRatioBps poolIds poolCounter known new =>
    exact h.keep rfl (Store.weight_none new).symm rfl
  | deposited env underwriter poolId amount pool shares reserveAmount token tokens positive found =>
    exact h.keep rfl (counterOf_found found).symm rfl
  | withdrawn env underwriter poolId shares pool assets reserveAmount token tokens positive found =>
    exact h.keep rfl (counterOf_found found).symm rfl
  | reserveRatio env admin poolId newRatioBps pool reserveAmount found =>
    exact h.keep rfl (counterOf_found found).symm rfl
  | purchased env buyer poolId tier coverageAmount pool coverageLimit deductible premium
      reserveAmount policyIds holderPolicies token tokens found =>
    refine h.sell rfl rfl hregistry.new_policy rfl ?_
    change ((pool.activePolicies + 1 : ℕ) : ℤ) = counterOf s poolId + 1
    rw [counterOf_found found]
    exact Nat.cast_succ _
  | cancelled env buyer policyId policy pool refund reserveAmount tokens stored holds active due
      found => exact h.close stored active found rfl rfl rfl
  | paid env admin queueId item claim pool policy requiredReserve reserveAmount token tokens listed
      waiting stored approved found reserve checks insured =>
    have hpool := (hregistry.amount_le listed stored insured).2
    rw [hpool] at found
    have hactive := hpays _ (policyOf_eq listed stored) policy insured
    exact h.close insured hactive found (congrArg (s.pool.set · _) hpool) rfl rfl
  | _ => exact h

/-- The call lowers the counter of this pool. -/
def Lowers (tok : Token τ) (self : Address) (id : Symbol) (e : State τ × Action τ) : Prop :=
  ∃ entry ∈ entryOf tok self e.2 e.1,
    entry.pool = id ∧ (entry.movement = .refund ∨ entry.movement = .payout)

/-- A counter that is lowered is positive. -/
theorem lowers_positive (h : Counted s) (hregistry : Registry s) (hpays : a.PaysActive s)
    (hnext : next tok self a s = .ok s') {id : Symbol} (hlowers : Lowers tok self id (s, a)) :
    ∃ pool, s.pool.get? id = some pool ∧ 0 < pool.activePolicies := by
  obtain ⟨e, he, hpool, hmovement⟩ := hlowers
  have heffect := next_effect hnext
  rw [Option.mem_def.mp he] at heffect
  subst hpool
  cases heffect with
  | deposited | purchased | withdrawn => simp at hmovement
  | cancelled env buyer policyId policy pool refund reserveAmount tokens stored holds active due
      found => exact ⟨pool, found, h.positive stored active found⟩
  | paid env admin queueId item claim pool policy requiredReserve reserveAmount token tokens listed
      waiting stored approved found reserve checks insured =>
    have hpool := (hregistry.amount_le listed stored insured).2
    have hactive := hpays _ (policyOf_eq listed stored) policy insured
    exact ⟨pool, found, h.positive insured hactive (hpool ▸ found)⟩

/-- In every run in which claims are paid on active policies, every pool counts its active policies,
no counter is lowered at zero, and a pool has the shares that its underwriters hold, none of them
negative. -/
theorem counts_exact {start : τ}
    (hrun : History (next tok self) (fun _ s a => a.PaysActive s) (deployed start) log s) :
    (∀ id pool, s.pool.get? id = some pool →
      (pool.activePolicies : ℤ) = (s.policy.total fun _ policy =>
        if policy.poolId = id ∧ policy.isActive = true then 1 else 0) ∧
      pool.totalShares = (s.underwriter.total fun key uw => if key.1 = id then uw.shares else 0) ∧
      0 ≤ pool.totalShares) ∧
    (∀ key uw, s.underwriter.get? key = some uw → 0 ≤ uw.shares) ∧
    ∀ e ∈ log, ∀ id, Lowers tok self id e →
      ∃ pool, e.1.pool.get? id = some pool ∧ 0 < pool.activePolicies := by
  have hshares := history_shares hrun
  obtain ⟨-, hcounted, hlowers⟩ := run_preserves (P := fun log s => Counted s ∧
      ∀ e ∈ log, ∀ id, Lowers tok self id e →
        ∃ pool, e.1.pool.get? id = some pool ∧ 0 < pool.activePolicies) hrun
    ⟨fun _ => rfl, fun _ he => (by cases he)⟩ (by
      rintro log s a s' hregistry hpays hnext heffect ⟨h, hlog⟩
      refine ⟨counted_step h hregistry hpays heffect, List.forall_mem_cons.mpr ⟨?_, hlog⟩⟩
      exact fun id => lowers_positive h hregistry hpays hnext)
  refine ⟨fun id pool hfound => ?_, hshares.nonneg, hlowers⟩
  have htotal := hshares.total id
  unfold sharesOf at htotal
  rw [Store.weight_some hfound] at htotal
  refine ⟨(counterOf_found hfound).symm.trans (hcounted id), htotal, ?_⟩
  rw [htotal]
  refine Store.total_nonneg fun key uw hk => ?_
  have := hshares.nonneg key uw hk
  split <;> omega

instance (s : State τ) (a : Action τ) : Decidable (a.PaysActive s) :=
  match a with
  | .call _ (.payClaim _ queueId) =>
    inferInstanceAs (Decidable (∀ policyId ∈ policyOf s queueId, ∀ policy ∈ s.policy.get? policyId,
      policy.isActive = true))
  | .transfers _ | .call _ (.initializeContract _ _ _) | .call _ (.createPool _ _ _ _)
  | .call _ (.depositAsUnderwriter _ _ _) | .call _ (.withdrawAsUnderwriter _ _ _)
  | .call _ (.purchaseCoverage _ _ _ _) | .call _ (.cancelPolicy _ _)
  | .call _ (.submitClaim _ _ _ _) | .call _ (.voteOnClaim _ _ _) | .call _ (.processClaim _)
  | .call _ (.setRiskParameters _ _) | .call _ (.setTierConfig _ _ _)
  | .call _ (.updateReserveRatio _ _ _) | .call _ (.emergencyPause _)
  | .call _ (.emergencyUnpause _) => .isTrue trivial

section Runs

open Sample

/-- Of three policies, one is paid for and one is cancelled. -/
theorem counts_exact_ordinary :
    ∃ log s, History (next asset contract) (fun _ s a => a.PaysActive s) start log s ∧
      ∃ pool ∈ s.pool.get? "bridges", pool.activePolicies = 1 ∧ activeIn s "bridges" = 1 ∧
        sharesHeld s "bridges" = 5000 := by
  have h : After (fun h => ∃ pool ∈ h.2.pool.get? "bridges", pool.activePolicies = 1 ∧
        pool.totalShares = 5000)
      (record (next asset contract) (fun _ s a => a.PaysActive s)
        (calls (ordinary ++ [(300003, .purchaseCoverage bob "bridges" .basic 500)])) ([], start)) := by
    decide +kernel
  obtain ⟨⟨log, s⟩, hrec, pool, hpool, hcount, hshares⟩ := h.exists_ok
  have hrun := record_run hrec
  obtain ⟨hactive, hheld, -⟩ := (counts_exact hrun).1 "bridges" pool hpool
  refine ⟨log, s, hrun, pool, hpool, hcount, ?_, hheld.symm.trans hshares⟩
  rw [hcount] at hactive
  exact hactive.symm

/-- A policy is paid for twice while another one is active. -/
def countedTwice : List (ℕ × Op) := opened ++ [
  (3, .purchaseCoverage bob "bridges" .basic 500),
  (3, .purchaseCoverage carol "bridges" .standard 900),
  (4, .submitClaim carol 2 990 "exploit"),
  (4, .submitClaim carol 2 990 "exploit"),
  (300000, .processClaim 1),
  (300000, .processClaim 2),
  (300001, .payClaim admin 1),
  (300002, .payClaim admin 2)]

theorem counter_lowered_twice :
    ¬ ∀ (log : List (State Balances × Action Balances)) (s : State Balances) (id : Symbol)
        (pool : InsurancePool),
      History (next asset contract) (fun _ _ _ => True) start log s →
      s.pool.get? id = some pool → (pool.activePolicies : ℤ) = s.policy.total fun _ policy =>
        if policy.poolId = id ∧ policy.isActive = true then 1 else 0 := by
  have h : After (fun h => activeIn h.2 "bridges" = 1 ∧
        ∃ pool ∈ h.2.pool.get? "bridges", pool.activePolicies = 0)
      (record (next asset contract) (fun _ _ _ => True) (calls countedTwice) ([], start)) := by
    decide +kernel
  obtain ⟨⟨log, s⟩, hrec, hactive, pool, hpool, hcount⟩ := h.exists_ok
  have hrun := record_run hrec
  intro hall
  have heq : (pool.activePolicies : ℤ) = activeIn s "bridges" := hall log s "bridges" pool hrun hpool
  rw [hactive, hcount] at heq
  exact absurd heq (by decide)

end Runs

end InsuranceProtocol
