import Mathlib.Algebra.Order.Field.Basic
import Mathlib.Data.Rat.Cast.Order
import StellAIverse.Vault.Exits

/-!
# The price of a share

Deposits and withdrawals exchange shares at the price of the moment, and every
division rounds toward the vault. So the assets behind a share do not fall, in
any regime of the accounting: also where assets are zero or negative and shares
are minted one for one.
-/

namespace Vault

open Soroban

variable {τ : Type} {tok : Token τ} {self : Address} {s s' : State τ} {a : Action τ}

/-- Deposits, the two withdrawals and the two halves of a queued one. -/
def Op.Exchange : Op → Prop
  | .deposit _ _ => True
  | .withdraw _ _ => True
  | .emergencyWithdraw _ => True
  | .queueWithdrawal _ _ => True
  | .processWithdrawalQueue _ => True
  | _ => False

/-- An exchange in which `holder` has no part, or other transfers of tokens. -/
def Action.ByOthers (holder : Address) : Action τ → Prop
  | .call _ op => op.Exchange ∧ holder ∉ op.parties
  | .transfers _ => True

/-- Assets per share. -/
def sharePrice (s : State τ) : ℚ := s.totalAssets / s.totalSupply

theorem sharePrice_le_iff (h : 0 < s.totalSupply) (h' : 0 < s'.totalSupply) :
    sharePrice s ≤ sharePrice s' ↔
      s.totalAssets * s'.totalSupply ≤ s'.totalAssets * s.totalSupply := by
  unfold sharePrice
  rw [div_le_div_iff₀ (by exact_mod_cast h) (by exact_mod_cast h')]
  exact_mod_cast Iff.rfl

/-- Minting rounds the shares down. -/
theorem deposit_price {A S amount : ℤ} (hS : 0 < S) (hpos : 0 < amount) :
    A * (S + sharesFor amount A S) ≤ (A + amount) * S := by
  unfold sharesFor
  split
  · -- One for one, where a share is backed by nothing or by less.
    have hA : A ≤ 0 := by omega
    nlinarith
  · have hfloor := I128.tdiv_mul_le (a := amount * S) (b := A) (by positivity) (by omega)
    linarith

/-- Burning rounds the assets down. -/
theorem burn_price {A S shares : ℤ} (hS : 0 < S) (hpos : 0 < assetsFor shares A S) :
    A * (S - shares) ≤ (A - assetsFor shares A S) * S := by
  have hproduct : 0 ≤ shares * A := by
    by_contra hneg
    have hmirror := Int.tdiv_nonneg (by omega : 0 ≤ -(shares * A)) hS.le
    rw [Int.neg_tdiv] at hmirror
    unfold assetsFor at hpos
    omega
  have hfloor := I128.tdiv_mul_le hproduct hS
  unfold assetsFor
  linarith

theorem exchange_price (hm : s.totalAssets ≤ s.highWaterMark) (hS : 0 < s.totalSupply) {env : Env}
    {op : Op} (hop : op.Exchange) (h : Effect tok self s (.call env op) s') :
    s.totalAssets * s'.totalSupply ≤ s'.totalAssets * s.totalSupply := by
  cases h with
  | deposit _ _ _ _ _ _ _ positive minted =>
    rw [minted]
    exact deposit_price hS positive
  | withdraw _ _ _ _ _ _ _ _ _ _ gross_eq fee_eq _ net_pos =>
    rw [if_neg (by omega)] at fee_eq
    simp only [burned]
    rw [gross_eq] at net_pos ⊢
    exact burn_price hS (by omega)
  | emergencyWithdraw _ _ _ _ _ _ _ _ _ gross_eq _ gross_pos =>
    simp only [burned]
    rw [gross_eq] at gross_pos ⊢
    exact burn_price hS gross_pos
  | queueWithdrawal => exact le_rfl
  | processWithdrawalQueue _ _ _ _ _ _ _ _ gross_eq _ gross_pos =>
    simp only [burned]
    rw [gross_eq] at gross_pos ⊢
    exact burn_price hS gross_pos
  | _ => exact hop.elim

theorem ShareLedger.holding_le_supply (h : ShareLedger s) (user : Address) :
    (loadUserDeposit s user).shares ≤ s.totalSupply := by
  have hle := Store.weight_le_total user h.users
  have hqueue := h.queuedShares_nonneg
  have hsupply := h.supply
  have husers := h.userShares_nonneg
  unfold loadUserDeposit
  unfold Store.weight at hle
  change _ ≤ userShares s at hle
  cases hk : s.userDeposit.get? user with
  | none =>
    simp only [Option.getD_none]
    omega
  | some record =>
    simp only [hk] at hle
    simp only [Option.getD_some]
    omega

theorem load_set_ne {holder user : Address} {record : VaultUserDeposit}
    (husers : s'.userDeposit = s.userDeposit.set user record) (hne : holder ≠ user) :
    loadUserDeposit s' holder = loadUserDeposit s holder := by
  unfold loadUserDeposit
  rw [husers, Store.get?_set_ne _ _ hne]

theorem load_byOthers {holder : Address} (ha : a.ByOthers holder) (h : Effect tok self s a s') :
    loadUserDeposit s' holder = loadUserDeposit s holder := by
  have other : ∀ {user : Address}, holder ∉ [user] → holder ≠ user := by
    intro user hnot he
    exact hnot (by simp [he])
  cases h with
  | transfers => rfl
  | deposit => exact load_set_ne rfl (other ha.2)
  | withdraw => exact load_set_ne rfl (other ha.2)
  | emergencyWithdraw => exact load_set_ne rfl (other ha.2)
  | queueWithdrawal => exact load_set_ne rfl (other ha.2)
  | processWithdrawalQueue => rfl
  | _ => exact ha.1.elim

theorem Reachable.step (hs : Reachable tok self s) (h : next tok self a s = .ok s') :
    Reachable tok self s' := by
  obtain ⟨tokens, hrun⟩ := hs
  exact ⟨tokens, hrun.tail trivial h⟩

/-- No exchange lowers the assets per share, and over any number of exchanges of
others neither the price nor the worth of a holding falls. -/
theorem holders_not_diluted (hs : Reachable tok self s) :
    (∀ env op s', op.Exchange → 0 < s.totalSupply → next tok self (.call env op) s = .ok s' →
      s.totalAssets * s'.totalSupply ≤ s'.totalAssets * s.totalSupply) ∧
    ∀ holder s', 0 < (loadUserDeposit s holder).shares →
      Steps (next tok self) (fun _ a => a.ByOthers holder) s s' →
      loadUserDeposit s' holder = loadUserDeposit s holder ∧ 0 < s'.totalSupply ∧
        sharePrice s ≤ sharePrice s' ∧
        assetsFor (loadUserDeposit s holder).shares s.totalAssets s.totalSupply ≤
          assetsFor (loadUserDeposit s' holder).shares s'.totalAssets s'.totalSupply := by
  constructor
  · intro env op s' hop hS hn
    exact exchange_price hs.marked.1 hS hop (next_effect hn)
  intro holder s' hholding hrun
  have supplied : ∀ {t : State τ}, Reachable tok self t →
      loadUserDeposit t holder = loadUserDeposit s holder → 0 < t.totalSupply := by
    intro t ht hload
    have hle := ht.ledger.1.holding_le_supply holder
    rw [hload] at hle
    omega
  have hall : Reachable tok self s' ∧ loadUserDeposit s' holder = loadUserDeposit s holder ∧
      sharePrice s ≤ sharePrice s' := by
    refine Steps.preserves (P := fun t => Reachable tok self t ∧
      loadUserDeposit t holder = loadUserDeposit s holder ∧ sharePrice s ≤ sharePrice t) ?_ hrun
      ⟨hs, rfl, le_rfl⟩
    rintro t a t' ha hn ⟨ht, hload, hprice⟩
    have heff := next_effect hn
    have ht' := ht.step hn
    have hload' := (load_byOthers ha heff).trans hload
    refine ⟨ht', hload', hprice.trans ?_⟩
    cases a with
    | transfers tokens =>
      cases heff
      exact le_rfl
    | call env op =>
      rw [sharePrice_le_iff (supplied ht hload) (supplied ht' hload')]
      exact exchange_price ht.marked.1 (supplied ht hload) ha.1 heff
  obtain ⟨hs', hload, hprice⟩ := hall
  have hS := supplied hs rfl
  have hS' := supplied hs' hload
  refine ⟨hload, hS', hprice, ?_⟩
  rw [sharePrice_le_iff hS hS'] at hprice
  rw [hload]
  refine I128.tdiv_le_tdiv_of_cross hS hS' ?_
  have hscaled := mul_le_mul_of_nonneg_left hprice hholding.le
  linarith

section Runs

open Sample

def bob : Address := ⟨4⟩

/-- A vault whose two users have tokens. -/
def shared (calls : List Op) : Result (State Balances) :=
  execute (next asset contract) (calls.map (.call env))
    (deployed (Balances.issue [(usdc, alice, 10 ^ 6), (usdc, bob, 10 ^ 6)]))

/-- After a loss of a third, bob's deposit of 100 mints 150 shares, and alice's
holding keeps its worth. -/
theorem holders_not_diluted_by_deposit :
    ∃ s s' : State Balances,
      shared [.initializeContract admin usdc, .deposit alice 3000,
        .addStrategy admin "lending" alice, .harvestStrategy "lending" (-1000)] = .ok s ∧
      next asset contract (.call env (.deposit bob 100)) s = .ok s' ∧
      s.totalSupply = 3000 ∧ s'.totalSupply = 3150 ∧
      s.totalAssets * s'.totalSupply ≤ s'.totalAssets * s.totalSupply ∧
      assetsFor (loadUserDeposit s alice).shares s.totalAssets s.totalSupply ≤
        assetsFor (loadUserDeposit s' alice).shares s'.totalAssets s'.totalSupply := by
  have h : After (fun s => s.totalSupply = 3000 ∧ (loadUserDeposit s alice).shares = 3000 ∧
      After (fun s' => s'.totalSupply = 3150)
        (next asset contract (.call env (.deposit bob 100)) s))
      (shared [.initializeContract admin usdc, .deposit alice 3000,
        .addStrategy admin "lending" alice, .harvestStrategy "lending" (-1000)]) := by
    decide +kernel
  obtain ⟨s, hs, hsupply, halice, hdeposit⟩ := h.exists_ok
  obtain ⟨s', hs', hsupply'⟩ := hdeposit.exists_ok
  have hreach : Reachable asset contract s := ⟨_, execute_steps _ (fun _ _ _ => trivial) hs⟩
  obtain ⟨hstep, hholder⟩ := holders_not_diluted hreach
  have hother : (Action.call env (.deposit bob 100) : Action Balances).ByOthers alice :=
    ⟨trivial, by decide⟩
  have hothers : Steps (next asset contract) (fun _ a => a.ByOthers alice) s s' :=
    (Steps.refl s).tail hother hs'
  exact ⟨s, s', hs, hs', hsupply, hsupply',
    hstep env (.deposit bob 100) s' trivial (by omega) hs',
    (hholder alice s' (by omega) hothers).2.2.2⟩

end Runs

end Vault
