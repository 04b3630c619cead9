import StellAIverse.Staking.Emission

/-!
# Backing of the principal

Principal, penalties and reward money lie in one balance, and no operation asks
how much of it is reward money. The balance covers all stakes as long as each
payment of rewards is covered by what lies beyond them.
-/

namespace Staking

open Soroban

variable {τ : Type} {tok : Token τ} {self : Address} {s s' : State τ} {a : Action τ}

/-- Users and funders of an invocation. -/
def Op.parties : Op → List Address
  | .stake user _ _ => [user]
  | .unstake user _ => [user]
  | .claimRewards user _ => [user]
  | .claimRewardsBatch user _ => [user]
  | .emergencyWithdraw _ user _ => [user]
  | .emergencyWithdrawAll _ user => [user]
  | .fundRewards funder _ => [funder]
  | _ => []

/-- The contract is no party to its own calls, and other transfers do not spend
what it holds. -/
def Action.Outside (tok : Token τ) (self : Address) (s : State τ) : Action τ → Prop
  | .call _ op => self ∉ op.parties
  | .transfers tokens => ∀ t, tok.balance s.tokens t self ≤ tok.balance tokens t self

/-- What the contract holds beyond the stakes. -/
def budget (tok : Token τ) (self token : Address) (s : State τ) : ℤ :=
  tok.balance s.tokens token self - s.totalStaked

/-- Rewards pending on the listed stakes, counted as often as they are listed. -/
def pendingSum (env : Env) (ids : List ℕ) (s : State τ) : ℤ :=
  (ids.map fun id => reading (getPendingRewards env id s)).sum

/-- The budget covers the rewards that the call pays; `unstake` adds the penalty
it keeps. -/
def Action.Funded (tok : Token τ) (self : Address) (s : State τ) : Action τ → Prop
  | .call env (.claimRewards _ id) =>
    ∀ token, s.rewardToken = some token →
      reading (getPendingRewards env id s) ≤ budget tok self token s
  | .call env (.claimRewardsBatch _ ids) =>
    ∀ token, s.rewardToken = some token → pendingSum env ids s ≤ budget tok self token s
  | .call env (.unstake _ id) =>
    ∀ token p tier penalty principal, s.rewardToken = some token →
      s.stakePosition.get? id = some p → s.tier.get? p.tierId = some tier →
      exitTerms env p tier.penaltyBps = .ok (penalty, principal) →
      reading (getPendingRewards env id s) ≤ budget tok self token s + penalty
  | _ => True

/-- The view shows what a claim pays. -/
theorem getPendingRewards_eq {env : Env} (hw : WellFormed s) {id : ℕ} {p : StakePosition}
    {tier : StakingTier} (hk : s.stakePosition.get? id = some p) (hactive : p.active = true)
    (htier : s.tier.get? p.tierId = some tier) :
    getPendingRewards env id s =
      calculatePendingRewardsStatic env s p tier.rewardMultiplierBps := by
  have hid := (hw.positions id p hk).1
  have htierId := (hw.tiered id p hk).1
  unfold getPendingRewards loadStake loadTier
  rw [panicIf_of_not (by omega), hk]
  simp only [expect, ok_bind]
  rw [if_neg (by simp [hactive]), panicIf_of_not htierId, htier]
  rfl

theorem pendings_eq {env : Env} {user : Address} {ids : List ℕ} {pendings : List ℤ}
    (hw : WellFormed s) (ha : Accrued s) (hdue : List.Forall₂ (Due env user s) ids pendings) :
    paidOut pendings = pendingSum env ids s := by
  induction hdue with
  | nil => rfl
  | @cons id pending _ _ hhead _ ih =>
    obtain ⟨p, tier, hk, -, hactive, htier, hpending⟩ := hhead.due
    have hnonneg : 0 ≤ pending := by
      rw [calculatePendingRewardsStatic_ok hpending]
      exact (pending_le_due hw ha hk hactive htier).1
    have hview : getPendingRewards env id s = .ok pending :=
      (getPendingRewards_eq hw hk hactive htier).trans hpending
    unfold paidOut pendingSum at ih ⊢
    simp only [List.map_cons, List.sum_cons, ih, hview, reading, max_eq_left hnonneg]

theorem Sent.debit (hex : tok.Exact) {t t' : τ} {token target : Address} {n : ℤ}
    (h : Sent tok t token self target n t') :
    tok.balance t token self - max n 0 ≤ tok.balance t' token self := by
  unfold Sent at h
  split at h
  · have hout := hex.debit_same h
    omega
  · rw [h]
    omega

/-- The balance covers all stakes. -/
def Backed (tok : Token τ) (self : Address) (s : State τ) : Prop :=
  ∀ token, s.rewardToken = some token → 0 ≤ budget tok self token s

theorem backed_step (hex : tok.Exact) (hw : WellFormed s) (ha : Accrued s)
    (ho : a.Outside tok self s) (hf : a.Funded tok self s) (hb : Backed tok self s)
    (h : Effect tok self s a s') : Backed tok self s' := by
  have same : ∀ {t t' : Address}, s.rewardToken = some t → s.rewardToken = some t' → t = t' := by
    intro t t' ht ht'
    exact Option.some.inj (ht.symm.trans ht')
  intro token htoken
  cases h with
  | transfers tokens =>
    have hold := hb token htoken
    have hmore := ho token
    unfold budget at hold ⊢
    simp only
    omega
  | initializeContract => exact sub_nonneg.mpr (hex.nonneg s.tokens token self)
  | stake _ user _ amount _ _ tokens _ _ _ _ _ _ asset paid =>
    have hold := hb token htoken
    have hin := hex.credit paid (notSelf ho) token
    rw [if_pos (same htoken asset)] at hin
    simp only [budget] at hold ⊢
    omega
  | unstake env user _ id p tier pending penalty principal tokens₁ tokens stored _ active tiered
      calculated _ terms asset sent sent' =>
    cases same htoken asset
    have hamount := (hw.positions id p stored).2.2
    obtain ⟨hprincipal, hpenalty, hle⟩ :=
      exitTerms_ok terms hamount.le (hw.penalties _ tier tiered)
    have hold := hb token htoken
    have hfunded := hf token p tier penalty principal htoken stored tiered terms
    rw [getPendingRewards_eq hw stored active tiered, calculated] at hfunded
    have hout := sent.debit hex
    have hout' := sent'.debit hex
    simp only [budget, closed, settled, reading] at hold hfunded ⊢
    omega
  | claimRewards env _ _ id p tier pending tokens stored _ active tiered calculated positive _
      asset paid =>
    cases same htoken asset
    have hfunded := hf token htoken
    rw [getPendingRewards_eq hw stored active tiered, calculated] at hfunded
    have hout := hex.debit_same paid
    simp only [budget, settled, reading] at hfunded ⊢
    omega
  | claimRewardsBatch env _ _ ids pendings tokens due _ _ asset paid =>
    cases same htoken asset
    have hfunded := hf token htoken
    rw [← pendings_eq hw ha due] at hfunded
    have hout := hex.debit_same paid
    simp only [budget, settled] at hfunded ⊢
    omega
  | emergencyWithdraw _ _ _ _ _ p _ tokens _ _ _ _ _ asset paid =>
    cases same htoken asset
    have hold := hb token htoken
    have hout := hex.debit_same paid
    simp only [budget, closed] at hold ⊢
    omega
  | emergencyWithdrawAll _ _ _ total s₁ tokens _ _ closings sent =>
    obtain ⟨-, -, htotal, hnonneg, -⟩ := closings.totals hw
    have hkeep : s₁.rewardToken = s.rewardToken := by rw [closings.frame]
    have htoken₀ : s.rewardToken = some token := hkeep ▸ htoken
    have hold := hb token htoken₀
    simp only [budget] at hold ⊢
    split at sent
    · obtain ⟨token', asset, paid⟩ := sent
      cases same htoken₀ asset
      have hout := hex.debit_same paid
      omega
    · rw [sent]
      omega
  | fundRewards _ funder _ amount tokens positive asset paid =>
    have hold := hb token htoken
    have hin := hex.credit paid (notSelf ho) token
    rw [if_pos (same htoken asset)] at hin
    simp only [budget] at hold ⊢
    omega
  | _ => exact hb token htoken

/-- While every payment of rewards is covered by what lies beyond the stakes, the
balance covers the stakes. -/
theorem principal_backed (hex : tok.Exact)
    (h : ReachableVia tok self (fun s a => a.Outside tok self s ∧ a.Funded tok self s) s)
    {token : Address} (htoken : s.rewardToken = some token) :
    s.totalStaked ≤ tok.balance s.tokens token self := by
  have hb : Backed tok self s := by
    refine ReachableVia.induction (P := Backed tok self) (fun tokens => nofun) ?_ h
    rintro s a s' hr ⟨ho, hf⟩ heff hb
    exact backed_step hex hr.wellFormed hr.accrued ho hf hb heff
  exact sub_nonneg.mp (hb token htoken)

section Runs

open Sample

/-- Funded with a hundred, the contract pays alice's seventy and still holds her
stake. -/
theorem principal_backed_funded :
    ∃ s s' : State Balances, run (opened 10 ++ [call 0 (.fundRewards bob 100)]) = .ok s ∧
      next asset contract (call 7 (.claimRewards alice 1)) s = .ok s' ∧
      s'.totalStaked = 1000 ∧ asset.balance s'.tokens usdc contract = 1030 ∧
      s'.totalStaked ≤ asset.balance s'.tokens usdc contract := by
  have h : After (fun s => s.rewardToken = some usdc ∧
      reading (getPendingRewards (envAt 7) 1 s) = 70 ∧ budget asset contract usdc s = 100 ∧
      After (fun s' => s'.rewardToken = some usdc ∧ s'.totalStaked = 1000 ∧
          asset.balance s'.tokens usdc contract = 1030)
        (next asset contract (call 7 (.claimRewards alice 1)) s))
      (run (opened 10 ++ [call 0 (.fundRewards bob 100)])) := by
    decide +kernel
  obtain ⟨s, hs, htoken, hpending, hbudget, hclaim⟩ := h.exists_ok
  obtain ⟨s', hs', htoken', hstaked, hbalance⟩ := hclaim.exists_ok
  have houtside : (call 7 (.claimRewards alice 1)).Outside asset contract s :=
    (by decide : contract ∉ [alice])
  have hfunded : (call 7 (.claimRewards alice 1)).Funded asset contract s := by
    intro token ht
    rw [htoken] at ht
    cases ht
    rw [hpending, hbudget]
    decide
  have hvia : ReachableVia asset contract
      (fun s a => a.Outside asset contract s ∧ a.Funded asset contract s) s' := by
    refine ⟨_, (execute_steps _ ?_ hs).tail ⟨houtside, hfunded⟩ hs'⟩
    intro a ha s
    simp only [opened, List.cons_append, List.nil_append, List.mem_cons, List.not_mem_nil,
      or_false] at ha
    rcases ha with rfl | rfl | rfl | rfl <;>
    · simp only [call, Action.Outside, Op.parties, Action.Funded]
      decide
  exact ⟨s, s', hs, hs', hstaked, hbalance, principal_backed asset_exact hvia htoken'⟩

/-- Nobody funds, and alice is paid seventy out of her own stake. -/
theorem principal_not_backed :
    ¬ ∀ (s : State Balances) (token : Address),
      ReachableVia asset contract (fun s a => a.Outside asset contract s) s →
      s.rewardToken = some token → s.totalStaked ≤ asset.balance s.tokens token contract := by
  intro hall
  have h : After (fun s => s.rewardToken = some usdc ∧
      asset.balance s.tokens usdc contract < s.totalStaked)
      (run (opened 10 ++ [call 7 (.claimRewards alice 1)])) := by
    decide +kernel
  obtain ⟨s, hs, htoken, hlt⟩ := h.exists_ok
  refine absurd (hall s usdc ⟨_, execute_steps _ ?_ hs⟩ htoken) (not_le.mpr hlt)
  intro a ha s
  simp only [opened, List.cons_append, List.nil_append, List.mem_cons, List.not_mem_nil,
    or_false] at ha
  rcases ha with rfl | rfl | rfl | rfl <;>
  · simp only [call, Action.Outside, Op.parties]
    decide

end Runs

end Staking
