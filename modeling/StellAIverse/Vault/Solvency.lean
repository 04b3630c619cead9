import StellAIverse.Vault.ShareLedger

/-!
# Solvency

What the vault reports, total assets and collected fees, against the tokens it
holds. Every operation moves both sides together except `harvest_strategy`,
which takes a gain from the caller's word and receives nothing.
-/

namespace Vault

open Soroban

variable {τ : Type} {tok : Token τ} {self : Address} {s s' : State τ} {a : Action τ}

/-- Users and recipients of an invocation. -/
def Op.parties : Op → List Address
  | .deposit user _ => [user]
  | .withdraw user _ => [user]
  | .emergencyWithdraw user => [user]
  | .governanceWithdraw _ recipient _ => [recipient]
  | .withdrawFees _ recipient => [recipient]
  | .queueWithdrawal user _ => [user]
  | _ => []

/-- The vault is no party to its own calls, and other transfers do not spend
what it holds. -/
def Action.Outside (tok : Token τ) (self : Address) (s : State τ) : Action τ → Prop
  | .call _ op => self ∉ op.parties
  | .transfers tokens => ∀ t, tok.balance s.tokens t self ≤ tok.balance tokens t self

/-- A gain that `harvest_strategy` reports has been received: the vault holds it
on top of everything it has accounted for. -/
def Action.GainReceived (tok : Token τ) (self : Address) (s : State τ) : Action τ → Prop
  | .call _ (.harvestStrategy id reported) =>
    ∀ config token, s.strategy.get? id = some config → s.token = some token →
      config.currentBalance < reported →
      reported - config.currentBalance ≤
        tok.balance s.tokens token self - (s.totalAssets + s.totalFeesCollected)
  | _ => True

/-- What all shares, with users and in the queue, are worth at the reported
price. -/
def redeemable (s : State τ) : ℤ :=
  s.userDeposit.total (fun _ record => assetsFor record.shares s.totalAssets s.totalSupply) +
    s.withdrawalQueueItem.total
      fun _ item => assetsFor item.pending s.totalAssets s.totalSupply

structure Solvent (tok : Token τ) (vault : Address) (s : State τ) : Prop where
  fees : 0 ≤ s.totalFeesCollected
  covered : ∀ token, s.token = some token →
    s.totalAssets + s.totalFeesCollected ≤ tok.balance s.tokens token vault

theorem feeOn_nonneg {gains : ℤ} {feeBps : ℕ} (h : 0 < gains) : 0 ≤ feeOn gains feeBps :=
  Int.tdiv_nonneg (mul_nonneg h.le (Int.natCast_nonneg _)) (by decide)

/-- Accounting and balance fall together when the vault pays. -/
theorem Solvent.pay (hex : tok.Exact) (hs : Solvent tok self s) {token target : Address} {n : ℤ}
    {tokens : τ} (htoken : s.token = some token)
    (hpaid : tok.transfer s.tokens token self target n = some tokens)
    (hfees : 0 ≤ s'.totalFeesCollected) (htokens : s'.tokens = tokens) (hsame : s'.token = s.token)
    (hsum : s'.totalAssets + s'.totalFeesCollected ≤ s.totalAssets + s.totalFeesCollected - n) :
    Solvent tok self s' where
  fees := hfees
  covered token' htoken' := by
    rw [hsame, htoken] at htoken'
    cases htoken'
    have hold := hs.covered token htoken
    have hout := hex.debit_same hpaid
    rw [htokens]
    omega

theorem solvent_step (hex : tok.Exact) (ho : a.Outside tok self s)
    (hg : a.GainReceived tok self s) (hs : Solvent tok self s) (h : Effect tok self s a s') :
    Solvent tok self s' := by
  have hfees := hs.fees
  cases h with
  | transfers tokens => exact ⟨hfees, fun token ht => (hs.covered token ht).trans (ho token)⟩
  | initializeContract => exact ⟨le_rfl, fun token _ => by simpa using hex.nonneg s.tokens token self⟩
  | deposit env user token amount _ tokens _ _ _ asset paid =>
    have hne : user ≠ self := fun he => ho (by simp [Op.parties, he])
    refine ⟨hfees, fun token' htoken' => ?_⟩
    have hold := hs.covered token' htoken'
    have hin := hex.credit paid hne token'
    rw [if_pos (Option.some.inj (htoken'.symm.trans asset))] at hin
    simp only
    omega
  | withdraw env user token shares gross fee tokens _ _ _ _ fee_eq asset _ paid =>
    have hfee : 0 ≤ fee := by
      rw [fee_eq]
      split
      · exact feeOn_nonneg (by omega)
      · exact le_rfl
    refine hs.pay hex asset paid ?_ rfl rfl ?_
    · simp only
      omega
    · simp only [burned]
      omega
  | emergencyWithdraw _ _ _ _ _ _ _ _ _ _ asset _ paid =>
    refine hs.pay hex asset paid hfees rfl rfl ?_
    simp only [burned]
    omega
  | governanceWithdraw _ _ _ _ _ _ _ _ _ asset paid =>
    refine hs.pay hex asset paid hfees rfl rfl ?_
    simp only
    omega
  | withdrawFees _ _ _ _ _ _ _ asset paid =>
    refine hs.pay hex asset paid le_rfl rfl rfl ?_
    simp only
    omega
  | harvestStrategy env id reported gains fee config stored _ gains_eq fee_eq =>
    have hfee : 0 ≤ fee := by
      rw [fee_eq]
      split
      · exact feeOn_nonneg (by omega)
      · exact le_rfl
    refine ⟨by simp only; omega, fun token htoken => ?_⟩
    have hold := hs.covered token htoken
    simp only
    by_cases hgain : config.currentBalance < reported
    · have := hg config token stored htoken hgain
      omega
    · omega
  | processWithdrawalQueue _ _ _ _ _ _ _ _ _ asset _ paid =>
    refine hs.pay hex asset paid hfees rfl rfl ?_
    simp only [burned]
    omega
  | emergencyStrategyWithdrawal =>
    split
    · exact hs
    · exact ⟨hs.fees, hs.covered⟩
  | _ => exact ⟨hs.fees, hs.covered⟩

/-- Rounding each holding down, together they are worth at most the assets. -/
theorem redeemable_le (hl : ShareLedger s) : redeemable s ≤ max s.totalAssets 0 := by
  have hu := hl.userShares_nonneg
  have hq := hl.queuedShares_nonneg
  have hsupply := hl.supply
  rcases le_or_gt s.totalSupply 0 with hnone | hpos
  · have hzero : s.totalSupply = 0 := by omega
    have : redeemable s = 0 := by
      simp only [redeemable, hzero, assetsFor, Int.tdiv_zero]
      rw [Store.total_eq_zero fun _ _ _ => rfl, Store.total_eq_zero fun _ _ _ => rfl]
      rfl
    omega
  · -- Each worth is bounded by its exact share of the assets, or of nothing.
    have worth : ∀ {x : ℤ}, 0 ≤ x →
        assetsFor x s.totalAssets s.totalSupply * s.totalSupply ≤ x * max s.totalAssets 0 := by
      intro x hx
      have hmono : assetsFor x s.totalAssets s.totalSupply ≤
          assetsFor x (max s.totalAssets 0) s.totalSupply :=
        Int.tdiv_le_tdiv hpos (mul_le_mul_of_nonneg_left (le_max_left _ _) hx)
      have hfloor := I128.tdiv_mul_le (mul_nonneg hx (le_max_right s.totalAssets 0)) hpos
      exact (mul_le_mul_of_nonneg_right hmono hpos.le).trans hfloor
    have husers := Store.total_le_total (s := s.userDeposit) fun user record hk =>
      worth (hl.users user record hk)
    have hqueue := Store.total_le_total (s := s.withdrawalQueueItem) fun id item hk =>
      worth (WithdrawalQueueItem.pending_nonneg (hl.queued id item hk).1.le)
    rw [Store.total_mul, Store.total_mul] at husers hqueue
    change _ ≤ userShares s * _ at husers
    change _ ≤ queuedShares s * _ at hqueue
    have hall : redeemable s * s.totalSupply ≤ max s.totalAssets 0 * s.totalSupply := by
      unfold redeemable
      rw [add_mul]
      calc _ ≤ userShares s * max s.totalAssets 0 + queuedShares s * max s.totalAssets 0 :=
            add_le_add husers hqueue
        _ = max s.totalAssets 0 * s.totalSupply := by rw [hsupply]; ring
    exact le_of_mul_le_mul_right hall hpos

/-- While every reported gain has been received, the vault holds what it
reports, and all shares together can be redeemed at the reported price. -/
theorem reported_assets_held (hex : tok.Exact)
    (h : ReachableVia tok self
      (fun s a => a.Outside tok self s ∧ a.GainReceived tok self s) s)
    {token : Address} (htoken : s.token = some token) :
    s.totalAssets + s.totalFeesCollected ≤ tok.balance s.tokens token self ∧
      redeemable s ≤ tok.balance s.tokens token self := by
  have hreach : Reachable tok self s := by
    obtain ⟨tokens, hrun⟩ := h
    exact ⟨tokens, hrun.mono fun _ _ _ => trivial⟩
  have hs : Solvent tok self s := by
    obtain ⟨tokens, hrun⟩ := h
    refine Steps.preserves (P := Solvent tok self) ?_ hrun ⟨le_rfl, fun _ hn => by cases hn⟩
    rintro s a s' ⟨ho, hg⟩ hn hs
    exact solvent_step hex ho hg hs (next_effect hn)
  have hcovered := hs.covered token htoken
  have hfees := hs.fees
  have hbalance := hex.nonneg s.tokens token self
  have hworth := redeemable_le hreach.ledger.1
  exact ⟨hcovered, by omega⟩

section Runs

open Sample

/-- A vault that was sent a thousand tokens before it opened. -/
def endowed (calls : List Op) : Result (State Balances) :=
  execute (next asset contract) (calls.map (.call env))
    (deployed (Balances.issue [(usdc, alice, 10 ^ 6), (usdc, contract, 1000)]))

/-- A gain of five hundred, half of what the vault holds beyond the deposit. -/
theorem reported_assets_held_received_gain :
    ∃ s s' : State Balances,
      endowed [.initializeContract admin usdc, .addStrategy admin "lending" alice,
        .deposit alice 5000] = .ok s ∧
      next asset contract (.call env (.harvestStrategy "lending" 500)) s = .ok s' ∧
      s'.totalAssets + s'.totalFeesCollected = 5500 ∧
      s'.totalAssets + s'.totalFeesCollected ≤ asset.balance s'.tokens usdc contract ∧
      redeemable s' ≤ asset.balance s'.tokens usdc contract := by
  have h : After (fun s => (∀ config ∈ s.strategy.get? "lending", config.currentBalance = 0) ∧
      s.token = some usdc ∧ s.totalAssets + s.totalFeesCollected = 5000 ∧
      asset.balance s.tokens usdc contract = 6000 ∧
      After (fun s' => s'.token = some usdc ∧ s'.totalAssets + s'.totalFeesCollected = 5500)
        (next asset contract (.call env (.harvestStrategy "lending" 500)) s))
      (endowed [.initializeContract admin usdc, .addStrategy admin "lending" alice,
        .deposit alice 5000]) := by
    decide +kernel
  obtain ⟨s, hs, hconfig, htoken, hsum, hbalance, hharvest⟩ := h.exists_ok
  obtain ⟨s', hs', htoken', hsum'⟩ := hharvest.exists_ok
  have hvia : ReachableVia asset contract
      (fun s a => a.Outside asset contract s ∧ a.GainReceived asset contract s) s' := by
    refine ⟨_, (execute_steps _ ?_ hs).tail ⟨?_, ?_⟩ hs'⟩
    · intro a ha s
      simp only [List.map_cons, List.map_nil, List.mem_cons, List.not_mem_nil, or_false] at ha
      rcases ha with rfl | rfl | rfl <;>
      · simp only [Action.Outside, Op.parties, Action.GainReceived]
        decide
    · exact List.not_mem_nil
    · intro config token hstored ht _
      rw [htoken] at ht
      cases ht
      rw [hconfig config hstored, hsum, hbalance]
      decide
  exact ⟨s, s', hs, hs', hsum', reported_assets_held asset_exact hvia htoken'⟩

/-- Anybody reports a gain of a thousand that the vault never received. -/
theorem reported_assets_not_held :
    ¬ ∀ (s : State Balances) (token : Address),
      ReachableVia asset contract (fun s a => a.Outside asset contract s) s →
      s.token = some token →
      s.totalAssets + s.totalFeesCollected ≤ asset.balance s.tokens token contract := by
  intro hall
  have h : After (fun s => s.token = some usdc ∧
      asset.balance s.tokens usdc contract < s.totalAssets + s.totalFeesCollected)
      (run [.initializeContract admin usdc, .addStrategy admin "lending" alice,
        .deposit alice 5000, .harvestStrategy "lending" 1000]) := by
    decide +kernel
  obtain ⟨s, hs, htoken, hlt⟩ := h.exists_ok
  refine absurd (hall s usdc ⟨_, execute_steps _ ?_ hs⟩ htoken) (not_le.mpr hlt)
  intro a ha s
  simp only [List.map_cons, List.map_nil, List.mem_cons, List.not_mem_nil, or_false] at ha
  rcases ha with rfl | rfl | rfl | rfl <;>
  · simp only [Action.Outside, Op.parties]
    decide

end Runs

end Vault
