import Mathlib.Algebra.Order.Floor.Ring
import Mathlib.Data.Rat.Floor
import StellAIverse.Vault.SharePrice

/-!
# What a deposit is worth

The shares of a deposit, redeemed at once. At a price the deposit rounds in favour of the
vault by less than the price of a share, and may round to no share at all. Where shares are
minted one for one although there are others, the deposit is shared with the others.
-/

namespace Vault

open Soroban

variable {τ : Type} {tok : Token τ} {self : Address} {s s' : State τ}

/-- The depositor has shares, and loses about the price of one share by redeeming them. -/
def FairDeposit (amount shares : ℤ) (s' : State τ) : Prop :=
  0 < shares ∧ ∃ assets, previewWithdraw shares s' = .ok assets ∧
    amount - ⌈sharePrice s'⌉ - 1 ≤ assets

/-- A deposit that mints one for one gives at most about two units to the holders before. -/
def LittleShared (amount totalAssets totalSupply : ℤ) : Prop :=
  if 0 < totalAssets + amount then
    amount * (totalSupply - totalAssets) ≤ 2 * (totalSupply + amount)
  else amount = 1 ∧ -(totalAssets + amount) < totalSupply + amount

/-- The deposit buys a share, or does not give much away, and the redemption can be computed. -/
def DepositFair (amount totalAssets totalSupply : ℤ) : Prop :=
  I128.InRange (sharesFor amount totalAssets totalSupply * (totalAssets + amount)) ∧
    if totalAssets ≤ 0 ∨ totalSupply ≤ 0 then LittleShared amount totalAssets totalSupply
    else totalAssets ≤ amount * totalSupply

theorem ceil_sharePrice_le_iff (h : 0 < s.totalSupply) (n : ℤ) :
    ⌈sharePrice s⌉ ≤ n ↔ s.totalAssets ≤ n * s.totalSupply := by
  have hS : (0 : ℚ) < s.totalSupply := by exact_mod_cast h
  rw [Int.ceil_le, sharePrice, div_le_iff₀ hS]
  exact_mod_cast Iff.rfl

theorem previewWithdraw_ok {shares assets : ℤ} :
    previewWithdraw shares s = .ok assets ↔
      (s.totalSupply ≠ 0 ∧ I128.InRange (shares * s.totalAssets) ∧
        I128.InRange (assetsFor shares s.totalAssets s.totalSupply)) ∧
      assetsFor shares s.totalAssets s.totalSupply = assets := by
  have h : (calculateAssetsForWithdrawal shares s.totalAssets s.totalSupply >>= .ok) = .ok assets ↔
      _ := calculateAssetsForWithdrawal_bind
  rw [Except.ok.injEq] at h
  rw [← h, previewWithdraw]
  exact ⟨fun hok => by rw [hok]; rfl, fun hok => by
    obtain ⟨a, ha, hsame⟩ := bind_ok.mp hok
    rw [ha, ← hsame]⟩

/-- The bound on the loss, without the ceiling. -/
theorem loss_iff (h : 0 < s.totalSupply) {amount assets : ℤ} :
    amount - ⌈sharePrice s⌉ - 1 ≤ assets ↔
      (amount - 2 - assets) * s.totalSupply < s.totalAssets := by
  have hceil := ceil_sharePrice_le_iff h (amount - 2 - assets)
  rw [← not_le, ← hceil]
  omega

/-- At a price, only the rounding of the shares and of the assets is lost. -/
theorem loss_at_price {amount A S : ℤ} (ha : 0 < amount) (hA : 0 < A) (hS : 0 < S) :
    (amount - 2 - assetsFor (sharesFor amount A S) (A + amount) (S + sharesFor amount A S)) *
      (S + sharesFor amount A S) < A + amount := by
  have hshares : sharesFor amount A S = (amount * S).tdiv A := if_neg (by omega)
  have hnonneg : 0 ≤ sharesFor amount A S := sharesFor_nonneg ha
  have hminted := I128.lt_tdiv_add_one_mul (a := amount * S) (by positivity) hA
  rw [← hshares] at hminted
  generalize sharesFor amount A S = shares at hnonneg hminted ⊢
  have hpaid := I128.lt_tdiv_add_one_mul (a := shares * (A + amount)) (b := S + shares)
    (by positivity) (by omega)
  change _ < (assetsFor shares (A + amount) (S + shares) + 1) * (S + shares) at hpaid
  linarith

/-- One for one, the loss is what the holders before get. -/
theorem loss_one_for_one {amount A S : ℤ} (ha : 0 < amount) (hS : 0 ≤ S) (hempty : A ≤ 0 ∨ S ≤ 0) :
    (amount - 2 - assetsFor amount (A + amount) (S + amount)) * (S + amount) < A + amount ↔
      LittleShared amount A S := by
  have hS' : 0 < S + amount := by omega
  unfold LittleShared
  split
  · rename_i hA'
    have hproduct : 0 ≤ amount * (A + amount) := by positivity
    have hlow := I128.tdiv_mul_le hproduct hS'
    have hhigh := I128.lt_tdiv_add_one_mul hproduct hS'
    change assetsFor amount (A + amount) (S + amount) * _ ≤ _ at hlow
    change _ < (assetsFor amount (A + amount) (S + amount) + 1) * _ at hhigh
    generalize assetsFor amount (A + amount) (S + amount) = assets at hlow hhigh ⊢
    have hshared : amount * (S - A) ≤ 2 * (S + amount) ↔ amount - 2 ≤ assets := by
      constructor
      · intro hlittle
        have hlt : (amount - 2) * (S + amount) < (assets + 1) * (S + amount) := by linarith
        have := lt_of_mul_lt_mul_right hlt hS'.le
        omega
      · intro hle
        have hscaled := mul_le_mul_of_nonneg_right hle hS'.le
        linarith
    rw [hshared]
    constructor
    · intro hloss
      by_contra hmore
      have hscaled : 1 * (S + amount) ≤ (amount - 2 - assets) * (S + amount) :=
        mul_le_mul_of_nonneg_right (by omega) hS'.le
      rcases hempty with hA | hS0
      · omega
      · obtain rfl : S = 0 := by omega
        have hall : assets + 1 ≤ A + amount := by omega
        have := mul_le_mul_of_nonneg_right hall ha.le
        linarith
    · intro hle
      have hscaled : (amount - 2 - assets) * (S + amount) ≤ 0 :=
        mul_nonpos_of_nonpos_of_nonneg (by omega) hS'.le
      omega
  · rename_i hA'
    have hproduct : 0 ≤ -(amount * (A + amount)) := by
      have := mul_nonneg ha.le (by omega : 0 ≤ -(A + amount))
      linarith
    have hlow := I128.tdiv_mul_le hproduct hS'
    have hnonneg := Int.tdiv_nonneg hproduct hS'.le
    rw [Int.neg_tdiv] at hlow hnonneg
    change -assetsFor amount (A + amount) (S + amount) * _ ≤ _ at hlow
    change 0 ≤ -assetsFor amount (A + amount) (S + amount) at hnonneg
    constructor
    · intro hloss
      generalize assetsFor amount (A + amount) (S + amount) = assets at hlow hnonneg hloss
      have hneg : amount - 2 - assets < 0 := by
        by_contra hge
        have := mul_nonneg (not_lt.mp hge) hS'.le
        omega
      obtain rfl : amount = 1 := by omega
      obtain rfl : assets = 0 := by omega
      exact ⟨rfl, by linarith⟩
    · rintro ⟨rfl, hlt⟩
      have hzero : assetsFor 1 (A + 1) (S + 1) = 0 := by
        by_contra hne
        have : 1 * (S + 1) ≤ -assetsFor 1 (A + 1) (S + 1) * (S + 1) :=
          mul_le_mul_of_nonneg_right (by omega) hS'.le
        linarith
      rw [hzero]
      omega

theorem deposit_ok {env : Env} {user : Address} {amount shares : ℤ}
    (h : deposit tok self env user amount s = .ok (shares, s')) :
    0 < amount ∧ shares = sharesFor amount s.totalAssets s.totalSupply ∧
      s'.totalAssets = s.totalAssets + amount ∧ s'.totalSupply = s.totalSupply + shares := by
  unfold deposit at h
  simp only [requireAuth_bind, panicIf_bind, not_le, Bool.not_eq_true] at h
  obtain ⟨-, -, hpos, h⟩ := h
  obtain ⟨minted, hminted, h⟩ := bind_ok.mp h
  simp only [getToken, expect_bind, transferToken_bind, I128.checked_bind] at h
  obtain ⟨token, -, -, tokens, -, -, -, -, -, -, h⟩ := h
  cases h
  exact ⟨hpos, calculateSharesForDeposit_ok hminted, rfl, rfl⟩

/-- A product that fits is divided by the supply to something that fits. -/
theorem assetsFor_fits {shares A S : ℤ} (hS : 0 < S) (h : I128.InRange (shares * A)) :
    I128.InRange (assetsFor shares A S) := by
  obtain ⟨hmin, hmax⟩ := h
  obtain ⟨hmin0, hmax0⟩ := I128.inRange_zero
  unfold assetsFor
  rcases le_total 0 (shares * A) with hpos | hneg
  · have hnonneg := Int.tdiv_nonneg hpos hS.le
    have hle := Int.tdiv_le_self S hpos
    exact ⟨by omega, by omega⟩
  · have hnonneg := Int.tdiv_nonneg (neg_nonneg.mpr hneg) hS.le
    have hle := Int.tdiv_le_self S (neg_nonneg.mpr hneg)
    rw [Int.neg_tdiv] at hnonneg hle
    exact ⟨by omega, by omega⟩

theorem fairDeposit_iff (hS : 0 < s.totalSupply) {amount shares : ℤ} :
    FairDeposit amount shares s ↔ 0 < shares ∧ I128.InRange (shares * s.totalAssets) ∧
      (amount - 2 - assetsFor shares s.totalAssets s.totalSupply) * s.totalSupply <
        s.totalAssets := by
  constructor
  · rintro ⟨hshares, assets, hpreview, hloss⟩
    obtain ⟨⟨-, hfits, -⟩, rfl⟩ := previewWithdraw_ok.mp hpreview
    exact ⟨hshares, hfits, (loss_iff hS).mp hloss⟩
  · rintro ⟨hshares, hfits, hloss⟩
    exact ⟨hshares, _, previewWithdraw_ok.mpr ⟨⟨hS.ne', hfits, assetsFor_fits hS hfits⟩, rfl⟩,
      (loss_iff hS).mpr hloss⟩

/-- At a price a deposit buys a share exactly if it pays for one. -/
theorem sharesFor_pos_iff {amount A S : ℤ} (ha : 0 < amount) (hA : 0 < A) (hS : 0 < S) :
    0 < sharesFor amount A S ↔ A ≤ amount * S := by
  have hproduct : 0 ≤ amount * S := by positivity
  have hshares : sharesFor amount A S = (amount * S).tdiv A := if_neg (by omega)
  rw [hshares]
  constructor
  · intro hpos
    have hfloor := I128.tdiv_mul_le hproduct hA
    have := mul_le_mul_of_nonneg_right (show 1 ≤ (amount * S).tdiv A by omega) hA.le
    omega
  · intro hle
    have hceil := I128.lt_tdiv_add_one_mul hproduct hA
    by_contra hzero
    have := mul_le_mul_of_nonneg_right (show (amount * S).tdiv A + 1 ≤ 1 by omega) hA.le
    omega

/-- A deposit is fair exactly if it buys a share at the price or, where shares are minted one
for one, shares little of it with others, and the redemption does not overflow. -/
theorem deposit_fair_iff (hs : Reachable tok self s) {env : Env} {user : Address}
    {amount shares : ℤ} (h : deposit tok self env user amount s = .ok (shares, s')) :
    FairDeposit amount shares s' ↔ DepositFair amount s.totalAssets s.totalSupply := by
  obtain ⟨ha, hshares, hA', hS'⟩ := deposit_ok h
  have hledger := hs.ledger.1
  have hS : 0 ≤ s.totalSupply := by
    have husers := hledger.userShares_nonneg
    have hqueue := hledger.queuedShares_nonneg
    have hsupply := hledger.supply
    omega
  have hnonneg : 0 ≤ shares := hshares ▸ sharesFor_nonneg ha
  unfold DepositFair
  by_cases hempty : s.totalAssets ≤ 0 ∨ s.totalSupply ≤ 0
  · have hone : shares = amount := hshares.trans (if_pos hempty)
    rw [if_pos hempty, fairDeposit_iff (by omega), hA', hS', ← hshares, hone,
      ← loss_one_for_one ha hS hempty]
    exact and_iff_right ha
  · obtain ⟨hA, hSpos⟩ := not_or.mp hempty
    have hloss := loss_at_price ha (not_le.mp hA) (not_le.mp hSpos)
    rw [← hshares] at hloss
    rw [if_neg hempty, fairDeposit_iff (by omega), hA', hS', ← hshares,
      ← sharesFor_pos_iff ha (not_le.mp hA) (not_le.mp hSpos), ← hshares]
    tauto

section Runs

open Sample

/-- Bob's 1 buys no share after a gain of a million on 100 shares. -/
theorem deposit_without_shares :
    ∃ s s' : State Balances, Reachable asset contract s ∧
      deposit asset contract env bob 1 s = .ok (0, s') ∧
      ¬ FairDeposit 1 0 s' := by
  have h : After (fun s => After (fun r => r.1 = 0) (deposit asset contract env bob 1 s))
      (shared [.initializeContract admin usdc, .deposit alice 100,
        .addStrategy admin "lending" alice, .harvestStrategy "lending" (10 ^ 6)]) := by
    decide +kernel
  obtain ⟨s, hs, hdeposit⟩ := h.exists_ok
  obtain ⟨⟨shares, s'⟩, hs', hshares⟩ := hdeposit.exists_ok
  subst hshares
  exact ⟨s, s', ⟨_, execute_steps _ (fun _ _ _ => trivial) hs⟩, hs', fun hfair => hfair.1.ne rfl⟩

/-- At a price of 3/2 bob's 100 buy 66 shares, worth 99. -/
theorem deposit_fair_at_price :
    ∃ s s' : State Balances,
      shared [.initializeContract admin usdc, .deposit alice 3000, .setPerformanceFee admin 0,
        .addStrategy admin "lending" alice, .harvestStrategy "lending" 1500] = .ok s ∧
      deposit asset contract env bob 100 s = .ok (66, s') ∧ FairDeposit 100 66 s' := by
  have h : After (fun s => s.totalAssets = 4500 ∧ s.totalSupply = 3000 ∧
      After (fun r => r.1 = 66) (deposit asset contract env bob 100 s))
      (shared [.initializeContract admin usdc, .deposit alice 3000, .setPerformanceFee admin 0,
        .addStrategy admin "lending" alice, .harvestStrategy "lending" 1500]) := by
    decide +kernel
  obtain ⟨s, hs, hassets, hsupply, hdeposit⟩ := h.exists_ok
  obtain ⟨⟨shares, s'⟩, hs', hshares⟩ := hdeposit.exists_ok
  subst hshares
  have hreach : Reachable asset contract s := ⟨_, execute_steps _ (fun _ _ _ => trivial) hs⟩
  refine ⟨s, s', hs, hs', (deposit_fair_iff hreach hs').mpr ?_⟩
  rw [hassets, hsupply]
  exact ⟨by decide, by rw [if_neg (by omega)]; omega⟩

end Runs

end Vault
