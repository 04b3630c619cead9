import StellAIverse.InsuranceProtocol.Shares

/-!
# How the records refer to each other

A queued payout belongs to a claim, a claim to a policy and a policy to a pool.
Records are numbered in turn and never removed, and what a reference relies on
does not change.
-/

namespace InsuranceProtocol

open Soroban

variable {τ : Type} {tok : Token τ} {self : Address} {s s' : State τ} {a : Action τ}
  {entry : Option Entry}

/-- The terms of a policy stay, and what is inactive stays so. -/
structure SameTerms (p p' : CoveragePolicy) : Prop where
  pool : p'.poolId = p.poolId
  limit : p'.coverageLimit = p.coverageLimit
  inactive : p.isActive = false → p'.isActive = false

theorem SameTerms.refl (p : CoveragePolicy) : SameTerms p p := ⟨rfl, rfl, id⟩

theorem SameTerms.closed (p : CoveragePolicy) : SameTerms p { p with isActive := false } :=
  ⟨rfl, rfl, fun _ => rfl⟩

structure SameClaim (c c' : Claim) : Prop where
  policy : c'.policyId = c.policyId
  pool : c'.poolId = c.poolId
  amount : c'.amount = c.amount

theorem SameClaim.refl (c : Claim) : SameClaim c c := ⟨rfl, rfl, rfl⟩

/-- The policy is one of a pool. -/
def Insures (s : State τ) (policy : CoveragePolicy) : Prop :=
  ∃ pool, s.pool.get? policy.poolId = some pool

/-- The claim is one on a policy and within its limit. -/
structure Refers (s : State τ) (claim : Claim) : Prop where
  positive : 0 < claim.amount
  policy : ∃ policy, s.policy.get? claim.policyId = some policy ∧
    claim.poolId = policy.poolId ∧ claim.amount ≤ policy.coverageLimit

/-- The payout is that of a claim. -/
def Queues (s : State τ) (item : PayoutQueueItem) : Prop :=
  ∃ claim, s.claim.get? item.claimId = some claim ∧ item.poolId = claim.poolId ∧
    item.amount = claim.amount

/-- What one invocation leaves of the records that were there. -/
structure Keeps (s s' : State τ) : Prop where
  pools : s.pool.Extends (fun _ _ => True) s'.pool
  policies : s.policy.Extends SameTerms s'.policy
  claims : s.claim.Extends SameClaim s'.claim

theorem Insures.later (hkeeps : Keeps s s') {policy : CoveragePolicy} (h : Insures s policy) :
    Insures s' policy := by
  obtain ⟨pool, hfound⟩ := h
  obtain ⟨pool', hfound', -⟩ := hkeeps.pools _ pool hfound
  exact ⟨pool', hfound'⟩

theorem Refers.later (hkeeps : Keeps s s') {claim : Claim} (h : Refers s claim) :
    Refers s' claim := by
  obtain ⟨policy, hfound, hpool, hlimit⟩ := h.policy
  obtain ⟨policy', hfound', hsame⟩ := hkeeps.policies _ policy hfound
  exact ⟨h.positive, policy', hfound', hpool.trans hsame.pool.symm, hlimit.trans hsame.limit.ge⟩

theorem Refers.same {claim claim' : Claim} (h : Refers s claim) (hsame : SameClaim claim claim') :
    Refers s claim' := by
  obtain ⟨policy, hfound, hpool, hlimit⟩ := h.policy
  refine ⟨hsame.amount ▸ h.positive, policy, ?_, hsame.pool.trans hpool, hsame.amount.trans_le hlimit⟩
  rw [hsame.policy]
  exact hfound

theorem Queues.later (hkeeps : Keeps s s') {item : PayoutQueueItem} (h : Queues s item) :
    Queues s' item := by
  obtain ⟨claim, hfound, hpool, hamount⟩ := h
  obtain ⟨claim', hfound', hsame⟩ := hkeeps.claims _ claim hfound
  exact ⟨claim', hfound', hpool.trans hsame.pool.symm, hamount.trans hsame.amount.symm⟩

structure Registry (s : State τ) : Prop where
  fresh : s.admin = none → ∀ id, s.pool.get? id = none
  policies : ∀ id policy, s.policy.get? id = some policy →
    id ≤ s.policyCounter.getD 0 ∧ Insures s policy
  claims : ∀ id claim, s.claim.get? id = some claim → id ≤ s.claimCounter.getD 0 ∧ Refers s claim
  items : ∀ id item, s.payoutQueueItem.get? id = some item →
    id ≤ s.payoutQueueCounter.getD 0 ∧ Queues s item

namespace Registry

theorem opened (h : Registry s) {id : Symbol} {pool : InsurancePool}
    (hfound : s.pool.get? id = some pool) : s.admin ≠ none := by
  intro hnone
  cases (h.fresh hnone id).symm.trans hfound

theorem no_policy (h : Registry s) (hnone : s.admin = none) (id : ℕ) : s.policy.get? id = none := by
  cases hk : s.policy.get? id with
  | none => rfl
  | some policy =>
    obtain ⟨-, pool, hpool⟩ := h.policies id policy hk
    exact absurd hnone (h.opened hpool)

theorem no_claim (h : Registry s) (hnone : s.admin = none) (id : ℕ) : s.claim.get? id = none := by
  cases hk : s.claim.get? id with
  | none => rfl
  | some claim =>
    obtain ⟨policy, hpolicy, -⟩ := (h.claims id claim hk).2.policy
    cases (h.no_policy hnone claim.policyId).symm.trans hpolicy

theorem no_item (h : Registry s) (hnone : s.admin = none) (id : ℕ) :
    s.payoutQueueItem.get? id = none := by
  cases hk : s.payoutQueueItem.get? id with
  | none => rfl
  | some item =>
    obtain ⟨-, claim, hclaim, -⟩ := h.items id item hk
    cases (h.no_claim hnone item.claimId).symm.trans hclaim

theorem new_policy (h : Registry s) : s.policy.get? (s.policyCounter.getD 0 + 1) = none := by
  cases hk : s.policy.get? (s.policyCounter.getD 0 + 1) with
  | none => rfl
  | some policy => exact absurd (h.policies _ policy hk).1 (Nat.not_succ_le_self _)

theorem new_claim (h : Registry s) : s.claim.get? (s.claimCounter.getD 0 + 1) = none := by
  cases hk : s.claim.get? (s.claimCounter.getD 0 + 1) with
  | none => rfl
  | some claim => exact absurd (h.claims _ claim hk).1 (Nat.not_succ_le_self _)

end Registry

theorem keeps_pool {poolId : Symbol} {pool : InsurancePool} (hset : s'.pool = s.pool.set poolId pool)
    (hpolicy : s'.policy = s.policy) (hclaim : s'.claim = s.claim) : Keeps s s' where
  pools := by
    rw [hset]
    exact Store.extends_set (fun _ => trivial) fun _ _ => trivial
  policies := by
    rw [hpolicy]
    exact .refl .refl _
  claims := by
    rw [hclaim]
    exact .refl .refl _

theorem keeps_step (h : Registry s) (heffect : Effect tok self s a entry s') : Keeps s s' := by
  have hpools : ∀ poolId pool, s.pool.Extends (fun _ _ => True) (s.pool.set poolId pool) :=
    fun _ _ => Store.extends_set (fun _ => trivial) fun _ _ => trivial
  cases heffect with
  | createPool | deposited | withdrawn | reserveRatio => exact keeps_pool rfl rfl rfl
  | purchased => exact ⟨hpools _ _, Store.extends_new .refl _ h.new_policy, .refl .refl _⟩
  | cancelled env buyer policyId policy pool refund reserveAmount tokens stored =>
    exact ⟨hpools _ _, Store.extends_old .refl stored (.closed policy), .refl .refl _⟩
  | claimed =>
    exact ⟨.refl (fun _ => trivial) _, .refl .refl _, Store.extends_new .refl _ h.new_claim⟩
  | voted env underwriter claimId approve claim votesFor votesAgainst totalVoters record stored =>
    exact ⟨.refl (fun _ => trivial) _, .refl .refl _, Store.extends_old .refl stored ⟨rfl, rfl, rfl⟩⟩
  | denied env claimId claim stored =>
    exact ⟨.refl (fun _ => trivial) _, .refl .refl _, Store.extends_old .refl stored ⟨rfl, rfl, rfl⟩⟩
  | approved env claimId claim payoutQueueIds stored =>
    exact ⟨.refl (fun _ => trivial) _, .refl .refl _, Store.extends_old .refl stored ⟨rfl, rfl, rfl⟩⟩
  | paid env admin queueId item claim pool policy requiredReserve reserveAmount token tokens listed
      waiting stored approved found reserve checks insured =>
    exact ⟨hpools _ _, Store.extends_old .refl insured (.closed policy),
      Store.extends_old .refl stored ⟨rfl, rfl, rfl⟩⟩
  | _ => exact ⟨.refl (fun _ => trivial) _, .refl .refl _, .refl .refl _⟩

/-- Records that were there are referred to as before. -/
structure Registry.Old (s s' : State τ) : Prop where
  policies : ∀ id policy, s.policy.get? id = some policy →
    id ≤ s.policyCounter.getD 0 ∧ Insures s' policy
  claims : ∀ id claim, s.claim.get? id = some claim → id ≤ s.claimCounter.getD 0 ∧ Refers s' claim
  items : ∀ id item, s.payoutQueueItem.get? id = some item →
    id ≤ s.payoutQueueCounter.getD 0 ∧ Queues s' item

theorem Registry.old (h : Registry s) (hkeeps : Keeps s s') : Registry.Old s s' where
  policies id policy hk := ⟨(h.policies id policy hk).1, (h.policies id policy hk).2.later hkeeps⟩
  claims id claim hk := ⟨(h.claims id claim hk).1, (h.claims id claim hk).2.later hkeeps⟩
  items id item hk := ⟨(h.items id item hk).1, (h.items id item hk).2.later hkeeps⟩

theorem registry_step (h : Registry s) (heffect : Effect tok self s a entry s') : Registry s' := by
  have hold := h.old (keeps_step h heffect)
  cases heffect with
  | initializeContract env admin token oracle fresh =>
    refine ⟨fun hnone => (by cases hnone), fun id policy hk => ?_, fun id claim hk => ?_,
      fun id item hk => ?_⟩
    · cases (h.no_policy fresh id).symm.trans hk
    · cases (h.no_claim fresh id).symm.trans hk
    · cases (h.no_item fresh id).symm.trans hk
  | createPool env admin poolId coverageType reserveRatioBps poolIds poolCounter known =>
    exact ⟨fun hnone => (by cases known.symm.trans hnone), hold.policies, hold.claims, hold.items⟩
  | deposited env underwriter poolId amount pool shares reserveAmount token tokens positive found =>
    exact ⟨fun hnone => absurd hnone (h.opened found), hold.policies, hold.claims, hold.items⟩
  | withdrawn env underwriter poolId shares pool assets reserveAmount token tokens positive found =>
    exact ⟨fun hnone => absurd hnone (h.opened found), hold.policies, hold.claims, hold.items⟩
  | reserveRatio env admin poolId newRatioBps pool reserveAmount found =>
    exact ⟨fun hnone => absurd hnone (h.opened found), hold.policies, hold.claims, hold.items⟩
  | purchased env buyer poolId tier coverageAmount pool coverageLimit deductible premium
      reserveAmount policyIds holderPolicies token tokens found =>
    refine ⟨fun hnone => absurd hnone (h.opened found), ?_, hold.claims, hold.items⟩
    refine Store.forall_set (fun id policy hk => ?_) ⟨le_rfl, _, Store.get?_set_self _ _ _⟩
    exact ⟨(hold.policies id policy hk).1.trans (Nat.le_succ _), (hold.policies id policy hk).2⟩
  | cancelled env buyer policyId policy pool refund reserveAmount tokens stored holds active due
      found =>
    refine ⟨fun hnone => absurd hnone (h.opened found), ?_, hold.claims, hold.items⟩
    exact Store.forall_set hold.policies (hold.policies policyId policy stored)
  | claimed env claimant policyId amount evidence policy votingDeadline requiresVoting claimIds
      stored holds active current positive limited =>
    refine ⟨h.fresh, hold.policies, ?_, hold.items⟩
    refine Store.forall_set (fun id claim hk => ?_) ⟨le_rfl, positive, policy, stored, rfl, limited⟩
    exact ⟨(hold.claims id claim hk).1.trans (Nat.le_succ _), (hold.claims id claim hk).2⟩
  | voted env underwriter claimId approve claim votesFor votesAgainst totalVoters record stored =>
    obtain ⟨hle, hrefers⟩ := hold.claims claimId claim stored
    exact ⟨h.fresh, hold.policies,
      Store.forall_set hold.claims ⟨hle, hrefers.same ⟨rfl, rfl, rfl⟩⟩, hold.items⟩
  | denied env claimId claim stored =>
    obtain ⟨hle, hrefers⟩ := hold.claims claimId claim stored
    exact ⟨h.fresh, hold.policies,
      Store.forall_set hold.claims ⟨hle, hrefers.same ⟨rfl, rfl, rfl⟩⟩, hold.items⟩
  | approved env claimId claim payoutQueueIds stored =>
    obtain ⟨hle, hrefers⟩ := hold.claims claimId claim stored
    refine ⟨h.fresh, hold.policies,
      Store.forall_set hold.claims ⟨hle, hrefers.same ⟨rfl, rfl, rfl⟩⟩, ?_⟩
    refine Store.forall_set (fun id item hk => ?_) ⟨le_rfl, _, Store.get?_set_self _ _ _, rfl, rfl⟩
    exact ⟨(hold.items id item hk).1.trans (Nat.le_succ _), (hold.items id item hk).2⟩
  | paid env admin queueId item claim pool policy requiredReserve reserveAmount token tokens listed
      waiting stored approved found reserve checks insured =>
    obtain ⟨hle, hrefers⟩ := hold.claims item.claimId claim stored
    exact ⟨fun hnone => absurd hnone (h.opened found),
      Store.forall_set hold.policies (hold.policies claim.policyId policy insured),
      Store.forall_set hold.claims ⟨hle, hrefers.same ⟨rfl, rfl, rfl⟩⟩,
      Store.forall_set hold.items (hold.items queueId item listed)⟩
  | _ => exact ⟨h.fresh, hold.policies, hold.claims, hold.items⟩

theorem registry_deployed (tokens : τ) : Registry (deployed tokens) :=
  ⟨fun _ _ => rfl, fun _ _ hk => (by cases hk), fun _ _ hk => (by cases hk),
    fun _ _ hk => (by cases hk)⟩

/-- A law about runs, from what an invocation does to records that are in order. -/
theorem run_preserves {P : List (State τ × Action τ) → State τ → Prop}
    {ok : List (State τ × Action τ) → State τ → Action τ → Prop} {tokens : τ}
    {log : List (State τ × Action τ)} (hrun : History (next tok self) ok (deployed tokens) log s)
    (hstart : P [] (deployed tokens))
    (step : ∀ log s a s', Registry s → ok log s a → next tok self a s = .ok s' →
      Effect tok self s a (entryOf tok self a s) s' → P log s → P ((s, a) :: log) s') :
    Registry s ∧ P log s := by
  refine hrun.preserves (P := fun log s => Registry s ∧ P log s) ⟨registry_deployed tokens, hstart⟩ ?_
  rintro log s a s' hok hnext ⟨hregistry, h⟩
  have heffect := next_effect hnext
  exact ⟨registry_step hregistry heffect, step log s a s' hregistry hok hnext heffect h⟩

end InsuranceProtocol
