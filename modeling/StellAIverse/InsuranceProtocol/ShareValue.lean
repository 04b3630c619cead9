import StellAIverse.InsuranceProtocol.Solvency

/-!
# What a share is worth

Deposits and withdrawals round toward the pool, and premiums add to it. Only claims and refunds
lower what is behind a share.
-/

namespace InsuranceProtocol

open Soroban

variable {τ : Type} {tok : Token τ} {self : Address} {s s' : State τ} {a : Action τ}
  {entry : Option Entry} {poolId id : Symbol} {holder : Address} {pool pool' : InsurancePool}

/-- The holder is not the underwriter of the call, and the pool pays no claim and refunds
nothing. -/
def Action.Quiet (id : Symbol) (holder : Address) (s : State τ) : Action τ → Prop
  | .call _ (.depositAsUnderwriter underwriter _ _)
  | .call _ (.withdrawAsUnderwriter underwriter _ _) => holder ≠ underwriter
  | .call env (.cancelPolicy _ policyId) => ∀ policy ∈ s.policy.get? policyId, policy.poolId = id →
      refundOf policy env.timestamp = .ok 0
  | .call _ (.payClaim _ queueId) => ∀ item ∈ s.payoutQueueItem.get? queueId, item.poolId ≠ id
  | _ => True

instance (id : Symbol) (holder : Address) (s : State τ) (a : Action τ) :
    Decidable (a.Quiet id holder s) := by
  unfold Action.Quiet
  split <;> infer_instance

/-- The pool is not in debt, and its assets per share do not fall. -/
def KeepsValue (id : Symbol) (s s' : State τ) : Prop :=
  0 ≤ assetsOf s id → 0 < sharesOf s id →
    0 ≤ assetsOf s' id ∧ assetsOf s id * sharesOf s' id ≤ assetsOf s' id * sharesOf s id

/-- What all shares of the holder are worth. -/
def worth (s : State τ) (id : Symbol) (holder : Address) : ℤ :=
  ((loadUnderwriter s id holder).shares * assetsOf s id).tdiv (sharesOf s id)

theorem KeepsValue.refl (s : State τ) : KeepsValue id s s := fun hassets _ => ⟨hassets, le_rfl⟩

theorem KeepsValue.trans {t : State τ} (h : KeepsValue id s t) (h' : KeepsValue id t s')
    (ht : 0 < sharesOf t id) (hs' : 0 < sharesOf s' id) : KeepsValue id s s' := by
  intro hassets hshares
  obtain ⟨hnonneg, hle⟩ := h hassets hshares
  obtain ⟨hnonneg', hle'⟩ := h' hnonneg ht
  refine ⟨hnonneg', le_of_mul_le_mul_right ?_ ht⟩
  have hfirst := mul_le_mul_of_nonneg_right hle hs'.le
  have hsecond := mul_le_mul_of_nonneg_right hle' hshares.le
  linarith

theorem KeepsValue.write (hfound : s.pool.get? poolId = some pool)
    (hset : s'.pool = s.pool.set poolId pool')
    (h : poolId = id → 0 ≤ pool.totalAssets → 0 < pool.totalShares → 0 ≤ pool'.totalAssets ∧
      pool.totalAssets * pool'.totalShares ≤ pool'.totalAssets * pool.totalShares) :
    KeepsValue id s s' := by
  unfold KeepsValue assetsOf sharesOf
  rw [hset, Store.weight_set, Store.weight_set]
  by_cases he : id = poolId
  · subst he
    rw [if_pos rfl, if_pos rfl, Store.weight_some hfound, Store.weight_some hfound]
    exact h rfl
  · rw [if_neg he, if_neg he]
    exact fun hassets _ => ⟨hassets, le_rfl⟩

/-- Minting rounds the shares down. -/
theorem sharesFor_le {amount shares : ℤ} (hpositive : 0 < amount) (hassets : 0 ≤ pool.totalAssets)
    (htotal : 0 < pool.totalShares) (h : sharesFor pool amount = .ok shares) :
    pool.totalAssets * shares ≤ amount * pool.totalShares := by
  have hproduct : 0 ≤ amount * pool.totalShares := by positivity
  unfold sharesFor at h
  split at h
  · have hzero : pool.totalAssets = 0 := by omega
    rwa [hzero, zero_mul]
  · obtain ⟨-, h⟩ := I128.checked_bind.mp h
    obtain ⟨-, -, rfl⟩ := I128.div_ok.mp h
    linarith [I128.tdiv_mul_le hproduct (by omega : 0 < pool.totalAssets)]

theorem value_step (hledger : ShareLedger s) (hquiet : a.Quiet id holder s)
    (h : Effect tok self s a entry s') :
    loadUnderwriter s' id holder = loadUnderwriter s id holder ∧ KeepsValue id s s' := by
  have other : ∀ {key : Symbol × Address} {uw : Underwriter},
      s'.underwriter = s.underwriter.set key uw → holder ≠ key.2 →
      loadUnderwriter s' id holder = loadUnderwriter s id holder := by
    intro key uw hset hne
    rw [loadUnderwriter, hset, Store.get?_set_ne _ _ fun h => hne (congrArg Prod.snd h)]
    rfl
  cases h with
  | createPool _ _ poolId _ _ _ _ _ new =>
    refine ⟨rfl, fun hassets hshares => ?_⟩
    have hne : id ≠ poolId := by
      rintro rfl
      rw [sharesOf, Store.weight_none new] at hshares
      omega
    unfold assetsOf sharesOf at *
    rw [Store.weight_set, if_neg hne, Store.weight_set, if_neg hne]
    exact ⟨hassets, le_rfl⟩
  | deposited _ _ _ _ _ _ _ _ _ positive found minted =>
    refine ⟨other rfl hquiet, .write found rfl fun _ hassets htotal => ?_⟩
    have hle := sharesFor_le positive hassets htotal minted
    constructor <;> dsimp only <;> linarith
  | withdrawn _ underwriter _ _ _ _ _ _ _ positive found holds _ share =>
    refine ⟨other rfl hquiet, .write found rfl fun _ hassets htotal => ?_⟩
    have hle := share_le (holds.trans (hledger.held_le found underwriter)) positive hassets
    have hfloor := I128.tdiv_mul_le (mul_nonneg positive.le hassets) htotal
    rw [← share] at hle hfloor
    constructor <;> dsimp only <;> linarith
  | purchased _ _ _ _ _ _ _ _ _ _ _ _ _ _ found priced =>
    refine ⟨rfl, .write found rfl fun _ hassets htotal => ?_⟩
    have hpremium := calculatePremium_pos priced
    constructor <;> dsimp only <;> nlinarith
  | cancelled _ _ _ policy _ refund _ _ stored _ _ due found =>
    refine ⟨rfl, .write found rfl fun he hassets _ => ?_⟩
    obtain rfl : refund = 0 := Except.ok.inj (due.symm.trans (hquiet policy stored he))
    rw [sub_zero]
    exact ⟨hassets, le_rfl⟩
  | paid _ _ _ item _ _ _ _ _ _ _ listed _ _ _ found =>
    exact ⟨rfl, .write found rfl fun he => absurd he (hquiet item listed)⟩
  | reserveRatio _ _ _ _ _ _ found =>
    exact ⟨rfl, .write found rfl fun _ hassets _ => ⟨hassets, le_rfl⟩⟩
  | _ => exact ⟨rfl, .refl s⟩

theorem ShareLedger.held_le_sharesOf (h : ShareLedger s) (id : Symbol) (holder : Address) :
    (loadUnderwriter s id holder).shares ≤ sharesOf s id := by
  have hle := Store.weight_le_total (id, holder) (s := s.underwriter)
    (w := fun key uw => if key.1 = id then uw.shares else 0) fun key uw hk => by
      have hnonneg := h.nonneg key uw hk
      split <;> omega
  rw [weight_shares, if_pos rfl] at hle
  exact (h.total id).symm ▸ hle

/-- From every reachable state in which a pool is not in debt, over every run in which it pays no
claim and no refund, what an underwriter holds keeps its worth, whatever others do. -/
theorem holding_keeps_worth {tokens : τ}
    (hreached : Steps (next tok self) (fun _ _ => True) (deployed tokens) s)
    (hassets : 0 ≤ assetsOf s id) (hholds : 0 < (loadUnderwriter s id holder).shares)
    (hrun : Steps (next tok self) (fun s a => a.Quiet id holder s) s s') :
    loadUnderwriter s' id holder = loadUnderwriter s id holder ∧ 0 ≤ assetsOf s' id ∧
      worth s id holder ≤ worth s' id holder := by
  have hledger : ShareLedger s := hreached.preserves (P := ShareLedger)
    (fun _ _ _ _ hnext h => shares_step h (next_effect hnext)) (shareLedger_deployed tokens)
  have hpositive : ∀ {t : State τ}, ShareLedger t →
      loadUnderwriter t id holder = loadUnderwriter s id holder → 0 < sharesOf t id :=
    fun ht hload => (hload ▸ hholds).trans_le (ht.held_le_sharesOf id holder)
  obtain ⟨hledger', hload, hkeeps⟩ : ShareLedger s' ∧
      loadUnderwriter s' id holder = loadUnderwriter s id holder ∧ KeepsValue id s s' := by
    refine hrun.preserves (P := fun t => ShareLedger t ∧
      loadUnderwriter t id holder = loadUnderwriter s id holder ∧ KeepsValue id s t) ?_
      ⟨hledger, rfl, .refl s⟩
    rintro t a t' hquiet hnext ⟨ht, hload, hkeeps⟩
    have ht' := shares_step ht (next_effect hnext)
    obtain ⟨hsame, hkept⟩ := value_step ht hquiet (next_effect hnext)
    exact ⟨ht', hsame.trans hload, hkeeps.trans hkept (hpositive ht hload)
      (hpositive ht' (hsame.trans hload))⟩
  have hshares := hpositive hledger rfl
  obtain ⟨hassets', hle⟩ := hkeeps hassets hshares
  refine ⟨hload, hassets', ?_⟩
  rw [worth, worth, hload]
  refine I128.tdiv_le_tdiv_of_cross hshares (hpositive hledger' hload) ?_
  linarith [mul_le_mul_of_nonneg_left hle hholds.le]

open Sample in
/-- Carol buys coverage, bob deposits, and carol cancels too late for a refund: alice's shares are
worth more than she paid. -/
theorem holding_keeps_worth_premium :
    ∃ s s' : State Balances, worth s "bridges" alice = 10000 ∧ worth s' "bridges" alice = 10050 ∧
      worth s "bridges" alice ≤ worth s' "bridges" alice := by
  have h : After (fun s => worth s "bridges" alice = 10000 ∧ 0 ≤ assetsOf s "bridges" ∧
      0 < (loadUnderwriter s "bridges" alice).shares ∧
      After (fun h => worth h.2 "bridges" alice = 10050)
        (record (next asset contract) (fun _ s a => a.Quiet "bridges" alice s)
          (calls [(3, .purchaseCoverage carol "bridges" .standard 1000),
            (4, .depositAsUnderwriter bob "bridges" 3333),
            (20000000, .cancelPolicy carol 1)]) ([], s)))
      (execute (next asset contract) (calls opened) start) := by
    decide +kernel
  obtain ⟨s, hs, hworth, hassets, hholds, hlater⟩ := h.exists_ok
  obtain ⟨⟨log, s'⟩, hrec, hworth'⟩ := hlater.exists_ok
  have hreached : Steps (next asset contract) (fun _ _ => True) start s :=
    execute_steps _ (fun _ _ _ => trivial) hs
  have hhistory : History (next asset contract) (fun _ s a => a.Quiet "bridges" alice s) s log s' :=
    record_run hrec
  have hrun : Steps (next asset contract) (fun s a => a.Quiet "bridges" alice s) s s' :=
    hhistory.steps fun _ _ _ hquiet => hquiet
  exact ⟨s, s', hworth, hworth', (holding_keeps_worth hreached hassets hholds hrun).2.2⟩

end InsuranceProtocol
