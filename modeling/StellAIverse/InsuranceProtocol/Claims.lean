import StellAIverse.InsuranceProtocol.Policies

/-!
# Withdrawals and open claims

A withdrawal leaves enough for the open claims of the pool if the pool counts an
active policy. Claims stay open when their policy is cancelled, so a pool can have
open claims and no active policy, and then nothing is kept for them.
-/

namespace InsuranceProtocol

open Soroban

variable {τ : Type} {tok : Token τ} {self : Address} {s s' : State τ} {a : Action τ}
  {entry : Option Entry} {log : List (State τ × Action τ)} {poolId : Symbol}

/-- The claim has still to be decided or paid. -/
def Claim.Open (claim : Claim) : Prop := claim.status = .pending ∨ claim.status = .approved

instance (claim : Claim) : Decidable claim.Open := inferInstanceAs (Decidable (_ ∨ _))

/-- What the open claims of a pool ask for. -/
def openClaims (s : State τ) (id : Symbol) : ℤ :=
  s.claim.total fun _ claim => if claim.poolId = id ∧ claim.Open then claim.amount else 0

def claimsOf (s : State τ) (id : Symbol) : List ℕ := (s.poolClaims.get? id).getD []

structure Listed (s : State τ) : Prop where
  nodup : ∀ id, (claimsOf s id).Nodup
  exact : ∀ id claimId, claimId ∈ claimsOf s id ↔
    ∃ claim, s.claim.get? claimId = some claim ∧ claim.poolId = id

theorem Listed.keep (h : Listed s) (hlists : s'.poolClaims = s.poolClaims)
    (hclaims : ∀ claimId id, (∃ claim, s'.claim.get? claimId = some claim ∧ claim.poolId = id) ↔
      ∃ claim, s.claim.get? claimId = some claim ∧ claim.poolId = id) : Listed s' := by
  have hsame : ∀ id, claimsOf s' id = claimsOf s id := by
    intro id
    unfold claimsOf
    rw [hlists]
  constructor
  · intro id
    rw [hsame id]
    exact h.nodup id
  · intro id claimId
    rw [hsame id, hclaims claimId id]
    exact h.exact id claimId

/-- A claim is written and stays in its pool. -/
theorem pool_set {claimId : ℕ} {claim claim' : Claim} (hstored : s.claim.get? claimId = some claim)
    (hset : s'.claim = s.claim.set claimId claim') (hpool : claim'.poolId = claim.poolId)
    (id : ℕ) (poolId : Symbol) :
    (∃ c, s'.claim.get? id = some c ∧ c.poolId = poolId) ↔
      ∃ c, s.claim.get? id = some c ∧ c.poolId = poolId := by
  rw [hset]
  by_cases hid : id = claimId
  · subst hid
    simp [hstored, hpool]
  · simp only [Store.get?_set_ne _ _ hid]

theorem Listed.submit (h : Listed s) {claimId : ℕ} {claim : Claim}
    (hnew : s.claim.get? claimId = none) (hset : s'.claim = s.claim.set claimId claim)
    (hlist : s'.poolClaims = s.poolClaims.set claim.poolId (claimsOf s claim.poolId ++ [claimId])) :
    Listed s' := by
  have hlists : ∀ id, claimsOf s' id =
      if id = claim.poolId then claimsOf s claim.poolId ++ [claimId] else claimsOf s id := by
    intro id
    unfold claimsOf
    rw [hlist, Store.get?_set]
    split <;> rfl
  have hunlisted : ∀ id, claimId ∉ claimsOf s id := by
    intro id hmem
    obtain ⟨old, hold, -⟩ := (h.exact id claimId).mp hmem
    cases hnew.symm.trans hold
  constructor
  · intro id
    rw [hlists id]
    split
    · exact List.nodup_append.mpr ⟨h.nodup _, List.nodup_singleton _, by
        rintro old hold new hnew' rfl
        rw [List.mem_singleton.mp hnew'] at hold
        exact hunlisted _ hold⟩
    · exact h.nodup id
  · intro id other
    rw [hlists id, hset, Store.get?_set]
    by_cases hother : other = claimId
    · subst hother
      by_cases hid : id = claim.poolId
      · simp [hid]
      · simp [hid, hunlisted id, Ne.symm hid]
    · rw [if_neg hother, ← h.exact id other]
      by_cases hid : id = claim.poolId
      · simp [hid, hother]
      · simp [hid]

theorem listed_step (h : Listed s) (hregistry : Registry s)
    (heffect : Effect tok self s a entry s') : Listed s' := by
  cases heffect with
  | claimed => exact h.submit hregistry.new_claim rfl rfl
  | voted env underwriter claimId approve claim votesFor votesAgainst totalVoters record stored =>
    exact h.keep rfl (pool_set stored rfl rfl)
  | denied env claimId claim stored => exact h.keep rfl (pool_set stored rfl rfl)
  | approved env claimId claim payoutQueueIds stored => exact h.keep rfl (pool_set stored rfl rfl)
  | paid env admin queueId item claim pool policy requiredReserve reserveAmount token tokens listed
      waiting stored => exact h.keep rfl (pool_set stored rfl rfl)
  | _ => exact h.keep rfl fun _ _ => Iff.rfl

theorem history_listed {ok : List (State τ × Action τ) → State τ → Action τ → Prop} {start : τ}
    (hrun : History (next tok self) ok (deployed start) log s) : Registry s ∧ Listed s := by
  refine run_preserves (P := fun _ s => Listed s) hrun ⟨fun _ => List.nodup_nil, fun id claimId => ?_⟩
    fun log s a s' hregistry _ _ heffect h => listed_step h hregistry heffect
  simp [claimsOf, deployed]

theorem sumLiabilities_ok {claimIds : List ℕ} {total result : ℤ}
    (h : sumLiabilities s claimIds total = .ok result) :
    result = total + (claimIds.map (s.claim.weight fun _ claim =>
      if claim.Open then claim.amount else 0)).sum := by
  induction claimIds generalizing total with
  | nil =>
    cases h
    simp
  | cons claimId rest ih =>
    unfold sumLiabilities at h
    obtain ⟨claim, hclaim, h⟩ := okOr_bind.mp h
    rw [List.map_cons, List.sum_cons, Store.weight_some hclaim]
    split at h
    · rename_i hopen
      obtain ⟨-, h⟩ := I128.checked_bind.mp h
      rw [ih h, if_pos (show claim.Open from hopen), add_assoc]
    · rename_i hclosed
      rw [ih h, if_neg (show ¬ claim.Open from hclosed), zero_add]

/-- The estimate is what the open claims of the pool ask for. -/
theorem Listed.estimate (h : Listed s) {liabilities : ℤ}
    (hestimate : estimateTotalLiabilities s poolId = .ok liabilities) :
    liabilities = openClaims s poolId := by
  have hsum := sumLiabilities_ok hestimate
  have htotal : openClaims s poolId = ((claimsOf s poolId).map (s.claim.weight fun _ claim =>
      if claim.poolId = poolId ∧ claim.Open then claim.amount else 0)).sum := by
    refine Store.total_eq_sum_of_zero (h.nodup poolId) fun claimId claim hk hnot => ?_
    exact if_neg fun hpool => hnot ((h.exact poolId claimId).mpr ⟨claim, hk, hpool.1⟩)
  rw [hsum, htotal, zero_add]
  congr 1
  apply List.map_congr_left
  intro claimId hmem
  obtain ⟨claim, hk, hpool⟩ := (h.exact poolId claimId).mp hmem
  simp only [Store.weight_some hk, hpool, true_and]

/-- An open claim is for no more than all of them. -/
theorem Registry.claim_le (h : Registry s) {claimId : ℕ} {claim : Claim}
    (hk : s.claim.get? claimId = some claim) (hopen : claim.Open) :
    claim.amount ≤ openClaims s claim.poolId := by
  have hle := Store.weight_le_total claimId (s := s.claim)
    (w := fun _ c => if c.poolId = claim.poolId ∧ c.Open then c.amount else 0) (by
      intro id c hc
      have := (h.claims id c hc).2.positive
      split <;> omega)
  rwa [Store.weight_some hk, if_pos ⟨rfl, hopen⟩] at hle

theorem reserveAfterWithdrawal_nonneg {totalAssets totalShares reserve : ℤ} {reserveRatioBps : ℕ}
    (hassets : 0 ≤ totalAssets)
    (h : reserveAfterWithdrawal totalAssets totalShares reserveRatioBps = .ok reserve) :
    0 ≤ reserve := by
  unfold reserveAfterWithdrawal at h
  split at h
  · unfold reserveOf at h
    obtain ⟨-, h⟩ := I128.checked_bind.mp h
    obtain ⟨-, -, rfl⟩ := I128.div_ok.mp h
    exact Int.tdiv_nonneg (mul_nonneg hassets (Int.natCast_nonneg _)) (by decide)
  · cases h
    exact le_rfl

theorem withdrawable_covers (h : Listed s) {activePolicies : ℕ} {totalAssets reserve : ℤ}
    (hactive : 0 < activePolicies) (hreserve : 0 ≤ reserve)
    (hallowed : withdrawable s poolId activePolicies totalAssets reserve = .ok true) :
    openClaims s poolId ≤ totalAssets := by
  unfold withdrawable at hallowed
  rw [if_neg hactive.ne'] at hallowed
  obtain ⟨liabilities, hestimate, hallowed⟩ := bind_ok.mp hallowed
  obtain ⟨-, hallowed⟩ := I128.checked_bind.mp hallowed
  have havailable := of_decide_eq_true (Except.ok.inj hallowed)
  rw [h.estimate hestimate] at havailable
  omega

/-- In every reachable state, a withdrawal from a pool that is not in debt and has an active policy
or no open claims leaves enough for the open claims of the pool, and for each of them. -/
theorem withdrawal_leaves_claims {ok : List (State τ × Action τ) → State τ → Action τ → Prop}
    {start : τ} (hrun : History (next tok self) ok (deployed start) log s) {env : Env}
    {underwriter : Address} {shares assets : ℤ} {pool : InsurancePool}
    (hwithdraw : withdrawAsUnderwriter tok self env underwriter poolId shares s = .ok (assets, s'))
    (hpool : s.pool.get? poolId = some pool) (hdebt : 0 ≤ pool.totalAssets)
    (hbacked : 0 < pool.activePolicies ∨
      ∀ id claim, s.claim.get? id = some claim → claim.poolId = poolId → ¬ claim.Open) :
    ∃ pool', s'.pool.get? poolId = some pool' ∧
      (s'.claim.total fun _ claim =>
        if claim.poolId = poolId ∧ (claim.status = .pending ∨ claim.status = .approved)
        then claim.amount else 0) ≤ pool'.totalAssets ∧
      ∀ id claim, s'.claim.get? id = some claim → claim.poolId = poolId →
        (claim.status = .pending ∨ claim.status = .approved) → claim.amount ≤ pool'.totalAssets := by
  obtain ⟨hregistry, hlisted⟩ := history_listed hrun
  have hshares := history_shares hrun
  cases withdrawAsUnderwriter_effect hwithdraw with
  | withdrawn _ _ _ _ pool₀ _ reserveAmount token tokens positive found holds shared share reserve
      allowed =>
    obtain rfl : pool = pool₀ := Option.some.inj (hpool.symm.trans found)
    have hleft : 0 ≤ pool.totalAssets - assets := by
      rw [share]
      exact sub_nonneg.mpr (share_le (holds.trans (hshares.held_le found underwriter)) positive hdebt)
    have hcovered : openClaims s poolId ≤ pool.totalAssets - assets := by
      rcases hbacked with hactive | hnone
      · exact withdrawable_covers hlisted hactive (reserveAfterWithdrawal_nonneg hleft reserve) allowed
      · have hzero : openClaims s poolId = 0 :=
          Store.total_eq_zero fun id claim hk => if_neg fun hopen => hnone id claim hk hopen.1 hopen.2
        rw [hzero]
        exact hleft
    refine ⟨_, Store.get?_set_self _ _ _, hcovered, fun id claim hk hclaim hopen => ?_⟩
    have hle := hregistry.claim_le hk hopen
    rw [hclaim] at hle
    exact hle.trans hcovered

section Runs

open Sample

/-- One of two policies has an open claim, the other one is cancelled. -/
def insured : List (ℕ × Op) := opened ++ [
  (3, .purchaseCoverage carol "bridges" .standard 1000),
  (3, .purchaseCoverage bob "bridges" .standard 1000),
  (4, .submitClaim carol 1 600 "exploit"),
  (5, .cancelPolicy bob 2)]

theorem withdrawal_leaves_claims_insured :
    ∃ log s s', History (next asset contract) (fun _ _ _ => True) start log s ∧
      withdrawAsUnderwriter asset contract (env 6) alice "bridges" 9000 s = .ok (9067, s') ∧
      ∃ pool ∈ s'.pool.get? "bridges", openClaims s' "bridges" = 500 ∧ 500 ≤ pool.totalAssets := by
  have h : After (fun h => (∃ pool ∈ h.2.pool.get? "bridges", 0 ≤ pool.totalAssets ∧
          0 < pool.activePolicies) ∧
        After (fun r => r.1 = 9067 ∧ openClaims r.2 "bridges" = 500)
          (withdrawAsUnderwriter asset contract (env 6) alice "bridges" 9000 h.2))
      (record (next asset contract) (fun _ _ _ => True) (calls insured) ([], start)) := by
    decide +kernel
  obtain ⟨⟨log, s⟩, hrec, ⟨pool, hpool, hdebt, hactive⟩, hcall⟩ := h.exists_ok
  obtain ⟨⟨assets, s'⟩, hwithdraw, rfl, hopen⟩ := hcall.exists_ok
  have hrun := record_run hrec
  obtain ⟨pool', hpool', hcovered, -⟩ :=
    withdrawal_leaves_claims hrun hwithdraw hpool hdebt (.inl hactive)
  exact ⟨log, s, s', hrun, hwithdraw, pool', hpool', hopen, hopen.symm.trans_le hcovered⟩

/-- The policy of an open claim is cancelled, and no other policy is active. -/
def stranded : List (ℕ × Op) := opened ++ [
  (3, .purchaseCoverage carol "bridges" .standard 1000),
  (4, .submitClaim carol 1 600 "exploit"),
  (5, .cancelPolicy carol 1)]

theorem withdrawal_strands_claim :
    ¬ ∀ (log : List (State Balances × Action Balances)) (s s' : State Balances) (env : Env)
        (underwriter : Address) (poolId : Symbol) (shares assets : ℤ),
      History (next asset contract) (fun _ _ _ => True) start log s →
      withdrawAsUnderwriter asset contract env underwriter poolId shares s = .ok (assets, s') →
      ∃ pool', s'.pool.get? poolId = some pool' ∧
        (s'.claim.total fun _ claim =>
          if claim.poolId = poolId ∧ (claim.status = .pending ∨ claim.status = .approved)
          then claim.amount else 0) ≤ pool'.totalAssets := by
  have h : After (fun h => After (fun r => openClaims r.2 "bridges" = 500 ∧
          ∃ pool ∈ r.2.pool.get? "bridges", pool.totalAssets = 0)
        (withdrawAsUnderwriter asset contract (env 6) alice "bridges" 10000 h.2))
      (record (next asset contract) (fun _ _ _ => True) (calls stranded) ([], start)) := by
    decide +kernel
  obtain ⟨⟨log, s⟩, hrec, hcall⟩ := h.exists_ok
  obtain ⟨⟨assets, s'⟩, hwithdraw, hopen, pool, hpool, hassets⟩ := hcall.exists_ok
  have hrun := record_run hrec
  intro hall
  obtain ⟨pool', hpool', hle⟩ := hall log s s' _ alice "bridges" 10000 assets hrun hwithdraw
  obtain rfl : pool = pool' := Option.some.inj (Option.mem_def.mp hpool ▸ hpool')
  have hcovered : openClaims s' "bridges" ≤ pool.totalAssets := hle
  rw [hopen, hassets] at hcovered
  exact absurd hcovered (by decide)

end Runs

end InsuranceProtocol
