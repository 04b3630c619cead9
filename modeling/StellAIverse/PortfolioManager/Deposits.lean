import Mathlib.Data.Rat.Floor
import Mathlib.Tactic.LinearCombination
import StellAIverse.PortfolioManager.Ledger

/-!
# What a deposit buys

Shares are bought at the ratio of supply and assets as it stands. Both can have
either sign, and the assets can be zero while shares are outstanding, since
rebalances and price updates take any numbers.
-/

namespace PortfolioManager

open Soroban

variable {τ : Type} {tok : Token τ} {self : Address} {env : Env} {s s' : State τ}

/-- What a deposit mints, where it divides by no zero and nothing overflows. -/
def sharesFor (amount totalAssets totalSupply : ℤ) : ℤ :=
  if totalSupply = 0 then amount else (amount * totalSupply).tdiv totalAssets

/-- The shares are redeemed for the amount or less, but by no more less than one share
is worth, rounded up. -/
def Redeems (amount shares totalAssets totalSupply : ℤ) : Prop :=
  0 < shares ∧ ∃ back, calculateAssetsForWithdrawal shares totalAssets totalSupply = .ok back ∧
    back ≤ amount ∧ amount - ⌈(totalAssets : ℚ) / totalSupply⌉ ≤ back

/-- When the shares of a deposit are redeemed for it. The first deposit finds no assets,
or a debt of one that it is large enough for. With a supply there are assets and the
amount buys a share. Where both are negative, what the division leaves over is small. -/
def Redeemable (amount totalAssets totalSupply : ℤ) : Prop :=
  if totalSupply = 0 then totalAssets = 0 ∨ totalAssets = -1 ∧ 2 ≤ amount
  else if 0 < totalSupply then 0 < totalAssets ∧ totalAssets ≤ amount * totalSupply
  else
    let shares := amount * -totalSupply / -totalAssets
    let left := amount * -totalSupply % -totalAssets
    totalAssets < 0 ∧ -totalAssets ≤ amount * -totalSupply ∧
      if amount < -totalAssets then
        ⌈(left : ℚ) / (-totalSupply - shares : ℤ)⌉ ≤
          ⌈((-totalAssets - amount : ℤ) : ℚ) / (-totalSupply - shares : ℤ)⌉
      else left < shares + totalSupply

theorem Redeemable.assets {amount totalAssets totalSupply : ℤ}
    (h : Redeemable amount totalAssets totalSupply) : totalSupply = 0 ∨ totalAssets ≠ 0 := by
  unfold Redeemable at h
  split at h
  · exact .inl ‹_›
  · split at h
    · exact .inr h.1.ne'
    · exact .inr h.1.ne

theorem sub_ceil_le_iff {amount back a b : ℤ} (hb : 0 < b) :
    amount - ⌈(a : ℚ) / b⌉ ≤ back ↔ (amount - back - 1) * b < a := by
  have hcast : (0 : ℚ) < b := by exact_mod_cast hb
  calc amount - ⌈(a : ℚ) / b⌉ ≤ back ↔ amount - back - 1 < ⌈(a : ℚ) / b⌉ := by
        constructor <;> intro h <;> linarith
    _ ↔ ((amount - back - 1 : ℤ) : ℚ) * b < a := by rw [Int.lt_ceil, lt_div_iff₀ hcast]
    _ ↔ (amount - back - 1) * b < a := by norm_cast

theorem ceil_div {a b : ℤ} (hb : 0 < b) : ⌈(a : ℚ) / b⌉ = -(-a / b) := by
  obtain ⟨n, rfl⟩ : ∃ n : ℕ, b = n := ⟨b.toNat, by omega⟩
  exact Rat.ceil_intCast_div_natCast a n

/-- With assets and a supply the shares of a deposit are redeemed for it. -/
theorem redeemed_at_price {m a n k : ℤ} (hm : 0 < m) (hn : 0 < n) (hk : 0 ≤ k)
    (hle : k * a ≤ m * n) (hlt : m * n < (k + 1) * a) :
    k * (a + m) / (n + k) ≤ m ∧ (m - k * (a + m) / (n + k) - 1) * (n + k) < a + m := by
  have hsupply : 0 < n + k := by omega
  have hback := Int.lt_ediv_add_one_mul_self (k * (a + m)) hsupply
  refine ⟨Int.ediv_le_of_le_mul hsupply ?_, ?_⟩
  · nlinarith
  · generalize k * (a + m) / (n + k) = back at hback ⊢
    nlinarith

/-- Below the debt a deposit of a negative supply comes back but for what is left over. -/
theorem redeemed_below_debt {m a n : ℤ} (ha : 0 < a) (hn : 0 < n) (hma : m < a) :
    0 < n - m * n / a ∧
    m * n / a * (a - m) / (n - m * n / a) = m + -(m * n % a) / (n - m * n / a) := by
  have hsplit := Int.mul_ediv_add_emod (m * n) a
  have hrest := Int.emod_nonneg (m * n) ha.ne'
  generalize m * n / a = k at hsplit ⊢
  generalize m * n % a = rest at hsplit hrest ⊢
  have hlt : 0 < n - k := by
    by_contra hge
    nlinarith
  have hback : k * (a - m) = -rest + m * (n - k) := by linear_combination hsplit
  refine ⟨hlt, ?_⟩
  rw [hback, Int.add_mul_ediv_right _ _ hlt.ne', add_comm]

/-- Beyond the debt it comes back with what is left over. -/
theorem redeemed_beyond_debt {m a n : ℤ} (ha : 0 < a) (hn : 0 < n) (hma : a ≤ m)
    (hne : m * n / a - n ≠ 0) :
    0 < m * n / a - n ∧
    m * n / a * (m - a) / (m * n / a - n) = m + m * n % a / (m * n / a - n) := by
  have hsplit := Int.mul_ediv_add_emod (m * n) a
  have hrest := Int.emod_lt_of_pos (m * n) ha
  generalize m * n / a = k at hsplit hne ⊢
  generalize m * n % a = rest at hsplit hrest ⊢
  have hlt : 0 < k - n := by
    by_contra hge
    have : k - n ≤ -1 := by omega
    nlinarith
  have hback : k * (m - a) = rest + m * (k - n) := by linear_combination -hsplit
  refine ⟨hlt, ?_⟩
  rw [hback, Int.add_mul_ediv_right _ _ hne, add_comm]

theorem tdiv_nonpos_of_signs {a b : ℤ} (h : 0 ≤ a ∧ b < 0 ∨ a ≤ 0 ∧ 0 < b) : a.tdiv b ≤ 0 := by
  rcases h with ⟨ha, hb⟩ | ⟨ha, hb⟩
  · have := Int.tdiv_nonneg ha (neg_nonneg.mpr hb.le)
    rw [Int.tdiv_neg] at this
    omega
  · have := Int.tdiv_nonneg (neg_nonneg.mpr ha) hb.le
    rw [Int.neg_tdiv] at this
    omega

/-- The redemption, where it overflows nowhere. -/
theorem redeems_iff_of_fits {amount k a n : ℤ} (hproduct : I128.InRange (k * a))
    (hquotient : I128.InRange ((k * a).tdiv n)) :
    Redeems amount k a n ↔ 0 < k ∧ n ≠ 0 ∧ (k * a).tdiv n ≤ amount ∧
      amount - ⌈(a : ℚ) / n⌉ ≤ (k * a).tdiv n := by
  unfold Redeems calculateAssetsForWithdrawal
  simp only [I128.mul_bind, I128.div_ok]
  constructor
  · rintro ⟨hk, back, ⟨-, hn, -, rfl⟩, hle, hge⟩
    exact ⟨hk, hn, hle, hge⟩
  · rintro ⟨hk, hn, hle, hge⟩
    exact ⟨hk, _, ⟨hproduct, hn, hquotient, rfl⟩, hle, hge⟩

section Signs

variable {m a n : ℤ} (hm : 0 < m)

include hm

/-- Nothing is outstanding, and the deposit gets all there is. -/
theorem first_deposit_redeems :
    0 < m ∧ m ≠ 0 ∧ (m * (a + m)).tdiv m ≤ m ∧
      m - ⌈((a + m : ℤ) : ℚ) / m⌉ ≤ (m * (a + m)).tdiv m ↔ a = 0 ∨ a = -1 ∧ 2 ≤ m := by
  rw [Int.mul_tdiv_cancel_left _ hm.ne', sub_ceil_le_iff hm]
  constructor
  · rintro ⟨-, -, hle, hlt⟩
    have hdebt : -1 ≤ a := by
      by_contra hbelow
      nlinarith
    rcases eq_or_lt_of_le hdebt with rfl | hzero
    · exact .inr ⟨rfl, by linarith⟩
    · exact .inl (by omega)
  · rintro (rfl | ⟨rfl, hm2⟩)
    · exact ⟨hm, hm.ne', by omega, by linarith⟩
    · exact ⟨hm, hm.ne', by omega, by linarith⟩

/-- Assets and supply are positive. -/
theorem deposit_at_price_redeems (ha : 0 < a) (hn : 0 < n) :
    0 < (m * n).tdiv a ∧ n + (m * n).tdiv a ≠ 0 ∧
      ((m * n).tdiv a * (a + m)).tdiv (n + (m * n).tdiv a) ≤ m ∧
      m - ⌈((a + m : ℤ) : ℚ) / (n + (m * n).tdiv a : ℤ)⌉ ≤
        ((m * n).tdiv a * (a + m)).tdiv (n + (m * n).tdiv a) ↔ a ≤ m * n := by
  have hproduct : 0 ≤ m * n := (mul_pos hm hn).le
  rw [Int.tdiv_eq_ediv_of_nonneg hproduct]
  have hk : 0 ≤ m * n / a := Int.ediv_nonneg hproduct ha.le
  have hle := Int.ediv_mul_le (m * n) ha.ne'
  have hlt := Int.lt_ediv_add_one_mul_self (m * n) ha
  have hpositive : 0 < m * n / a ↔ a ≤ m * n := by
    rw [← Int.add_one_le_iff, zero_add, Int.le_ediv_iff_mul_le ha, one_mul]
  obtain ⟨hback, hloss⟩ := redeemed_at_price hm hn hk hle hlt
  rw [Int.tdiv_eq_ediv_of_nonneg (mul_nonneg hk (by omega)), sub_ceil_le_iff (by omega), ← hpositive]
  exact ⟨fun h => h.1, fun h => ⟨h, by omega, hback, hloss⟩⟩

/-- A supply without assets to match buys nothing. -/
theorem deposit_against_sign (hsigns : 0 < n ∧ a < 0 ∨ n < 0 ∧ 0 < a) : ¬ 0 < (m * n).tdiv a := by
  refine not_lt.mpr (tdiv_nonpos_of_signs ?_)
  rcases hsigns with ⟨hn, ha⟩ | ⟨hn, ha⟩
  · exact .inl ⟨(mul_pos hm hn).le, ha⟩
  · exact .inr ⟨(mul_neg_of_pos_of_neg hm hn).le, ha⟩

/-- Both are negative; they are given by their absolute values here. -/
theorem deposit_in_debt_redeems (ha : 0 < a) (hn : 0 < n) :
    0 < m * n / a ∧ -n + m * n / a ≠ 0 ∧
      (m * n / a * (-a + m)).tdiv (-n + m * n / a) ≤ m ∧
      m - ⌈((-a + m : ℤ) : ℚ) / (-n + m * n / a : ℤ)⌉ ≤
        (m * n / a * (-a + m)).tdiv (-n + m * n / a) ↔
    a ≤ m * n ∧ if m < a then
        ⌈((m * n % a : ℤ) : ℚ) / (n - m * n / a : ℤ)⌉ ≤ ⌈((a - m : ℤ) : ℚ) / (n - m * n / a : ℤ)⌉
      else m * n % a < m * n / a + -n := by
  have hpositive : 0 < m * n / a ↔ a ≤ m * n := by
    rw [← Int.add_one_le_iff, zero_add, Int.le_ediv_iff_mul_le ha, one_mul]
  have hk : 0 ≤ m * n / a := Int.ediv_nonneg (mul_pos hm hn).le ha.le
  have hrest := Int.emod_nonneg (m * n) ha.ne'
  rw [← hpositive]
  refine and_congr_right fun hshares => ?_
  by_cases hma : m < a
  · rw [if_pos hma]
    obtain ⟨hleft, hback⟩ := redeemed_below_debt ha hn hma
    generalize m * n % a = rest at hrest hback ⊢
    generalize m * n / a = k at hk hleft hback ⊢
    have hredeemed : (k * (-a + m)).tdiv (-n + k) = m + -rest / (n - k) := by
      rw [show k * (-a + m) = -(k * (a - m)) by ring, show -n + k = -(n - k) by ring,
        Int.neg_tdiv, Int.tdiv_neg, neg_neg,
        Int.tdiv_eq_ediv_of_nonneg (mul_nonneg hk (by omega)), hback]
    have hvalue : ((-a + m : ℤ) : ℚ) / (-n + k : ℤ) = ((a - m : ℤ) : ℚ) / (n - k : ℤ) := by
      rw [← neg_div_neg_eq]
      push_cast
      ring_nf
    have hloss : -rest / (n - k) ≤ 0 := Int.ediv_nonpos_of_nonpos_of_neg (by omega) hleft
    rw [hredeemed, hvalue, ceil_div (a := rest) hleft]
    constructor
    · rintro ⟨-, -, hge⟩
      linarith
    · intro hle
      exact ⟨by omega, by omega, by linarith⟩
  · rw [if_neg hma]
    generalize hrestEq : m * n % a = rest at hrest ⊢
    have hover := redeemed_beyond_debt ha hn (not_lt.mp hma)
    rw [hrestEq] at hover
    generalize m * n / a = k at hk hover ⊢
    constructor
    · rintro ⟨hne, hle, -⟩
      obtain ⟨hleft, hback⟩ := hover (by omega)
      rw [show -n + k = k - n by ring, show -a + m = m - a by ring,
        Int.tdiv_eq_ediv_of_nonneg (mul_nonneg hk (by omega)), hback] at hle
      have hsmall : rest / (k - n) < 1 := by omega
      rw [Int.ediv_lt_iff_lt_mul hleft] at hsmall
      omega
    · intro hlt
      obtain ⟨hleft, hback⟩ := hover (by omega)
      have hexact : rest / (k - n) = 0 := Int.ediv_eq_zero_of_lt hrest (by omega)
      have hredeemed : (k * (-a + m)).tdiv (-n + k) = m := by
        rw [show -n + k = k - n by ring, show -a + m = m - a by ring,
          Int.tdiv_eq_ediv_of_nonneg (mul_nonneg hk (by omega)), hback, hexact, add_zero]
      rw [hredeemed, sub_ceil_le_iff (by omega)]
      exact ⟨by omega, le_rfl, by linarith⟩

end Signs

/-- The shares of a deposit redeem exactly under the condition on amount, assets and
supply before it. -/
theorem redeems_iff_redeemable {amount totalAssets totalSupply : ℤ} (hm : 0 < amount)
    (hassets : totalSupply = 0 ∨ totalAssets ≠ 0)
    (hproduct : I128.InRange
      (sharesFor amount totalAssets totalSupply * (totalAssets + amount)))
    (hquotient : I128.InRange
      ((sharesFor amount totalAssets totalSupply * (totalAssets + amount)).tdiv
        (totalSupply + sharesFor amount totalAssets totalSupply))) :
    Redeems amount (sharesFor amount totalAssets totalSupply) (totalAssets + amount)
        (totalSupply + sharesFor amount totalAssets totalSupply) ↔
      Redeemable amount totalAssets totalSupply := by
  rw [redeems_iff_of_fits hproduct hquotient]
  unfold sharesFor Redeemable
  rcases lt_trichotomy totalSupply 0 with hn | rfl | hn
  · rw [if_neg hn.ne, if_neg hn.ne, if_neg hn.not_gt]
    rcases lt_or_gt_of_ne (hassets.resolve_left hn.ne) with ha | ha
    · -- Both are negative.
      obtain ⟨n, rfl⟩ : ∃ n, totalSupply = -n := ⟨-totalSupply, by ring⟩
      obtain ⟨a, rfl⟩ : ∃ a, totalAssets = -a := ⟨-totalAssets, by ring⟩
      have hn' : 0 < n := by omega
      have ha' : 0 < a := by omega
      have hshares : (amount * -n).tdiv (-a) = amount * n / a := by
        rw [mul_neg, Int.neg_tdiv, Int.tdiv_neg, neg_neg,
          Int.tdiv_eq_ediv_of_nonneg (mul_pos hm hn').le]
      rw [hshares, deposit_in_debt_redeems hm ha' hn']
      simp only [neg_neg]
      exact ⟨fun h => ⟨ha, h⟩, fun h => h.2⟩
    · have hnone := deposit_against_sign hm (.inr ⟨hn, ha⟩)
      exact ⟨fun h => absurd h.1 hnone, fun h => absurd h.1 (by omega)⟩
  · rw [if_pos rfl, if_pos rfl, zero_add]
    exact first_deposit_redeems hm
  · rw [if_neg hn.ne', if_neg hn.ne', if_pos hn]
    rcases lt_or_gt_of_ne (hassets.resolve_left hn.ne') with ha | ha
    · have hnone := deposit_against_sign hm (.inl ⟨hn, ha⟩)
      exact ⟨fun h => absurd h.1 hnone, fun h => absurd h.1 (by omega)⟩
    · rw [deposit_at_price_redeems hm ha hn]
      exact ⟨fun h => ⟨ha, h⟩, fun h => h.2⟩

/-- Nothing overflows in a deposit and in the redemption of its shares. -/
structure DepositFits (user : Address) (portfolioId : ℕ) (amount : ℤ) (portfolio : Portfolio)
    (s : State τ) : Prop where
  product : I128.InRange (amount * portfolio.totalSupply)
  shares : I128.InRange (sharesFor amount portfolio.totalAssets portfolio.totalSupply)
  assets : I128.InRange (portfolio.totalAssets + amount)
  supply : I128.InRange
    (portfolio.totalSupply + sharesFor amount portfolio.totalAssets portfolio.totalSupply)
  position : ∀ pos ∈ s.userPosition.get? (user, portfolioId),
    I128.InRange (pos.shares + sharesFor amount portfolio.totalAssets portfolio.totalSupply) ∧
    I128.InRange (pos.totalDeposited + amount)
  redemption : I128.InRange (sharesFor amount portfolio.totalAssets portfolio.totalSupply *
    (portfolio.totalAssets + amount))
  redeemed : I128.InRange ((sharesFor amount portfolio.totalAssets portfolio.totalSupply *
      (portfolio.totalAssets + amount)).tdiv
    (portfolio.totalSupply + sharesFor amount portfolio.totalAssets portfolio.totalSupply))

/-- A deposit does not divide by zero, and what a completed one mints redeems. -/
def DepositHonoured (tok : Token τ) (self : Address) (env : Env) (user : Address) (portfolioId : ℕ)
    (amount : ℤ) (s : State τ) : Prop :=
  Avoids .divisionByZero (deposit tok self env user portfolioId amount s) ∧
  ∀ shares s', deposit tok self env user portfolioId amount s = .ok (shares, s') →
    ∃ portfolio', s'.portfolio.get? portfolioId = some portfolio' ∧
      Redeems amount shares portfolio'.totalAssets portfolio'.totalSupply

theorem calculateSharesForDeposit_of_fits {amount totalAssets totalSupply : ℤ}
    (hassets : totalSupply = 0 ∨ totalAssets ≠ 0)
    (hproduct : I128.InRange (amount * totalSupply))
    (hshares : I128.InRange (sharesFor amount totalAssets totalSupply)) :
    calculateSharesForDeposit amount totalAssets totalSupply =
      .ok (sharesFor amount totalAssets totalSupply) := by
  unfold calculateSharesForDeposit sharesFor at *
  by_cases hzero : totalSupply = 0
  · rw [if_pos hzero, if_pos hzero]
  · rw [if_neg hzero] at hshares
    rw [if_neg hzero, if_neg hzero]
    exact I128.mul_bind.mpr ⟨hproduct, I128.div_ok.mpr ⟨hassets.resolve_left hzero, hshares, rfl⟩⟩

section Deposit

variable {user : Address} {portfolioId : ℕ} {amount : ℤ} {portfolio : Portfolio}
  (hfound : s.portfolio.get? portfolioId = some portfolio)

include hfound

/-- What a completed deposit has read and written. -/
theorem deposit_ok {shares : ℤ}
    (h : deposit tok self env user portfolioId amount s = .ok (shares, s')) :
    env.authorized user = true ∧
    (∃ tokens, tok.transfer s.tokens portfolio.depositToken user self amount = some tokens) ∧
    calculateSharesForDeposit amount portfolio.totalAssets portfolio.totalSupply = .ok shares ∧
    s'.portfolio = s.portfolio.set portfolio.portfolioId { portfolio with
      totalAssets := portfolio.totalAssets + amount
      totalSupply := portfolio.totalSupply + shares } := by
  unfold deposit getPortfolio at h
  obtain ⟨hsigned, h⟩ := requireAuth_bind.mp h
  obtain ⟨-, h⟩ := panicIf_bind.mp h
  obtain ⟨found, hfound', h⟩ := expect_bind.mp h
  obtain rfl : portfolio = found := Option.some.inj (hfound.symm.trans hfound')
  obtain ⟨-, h⟩ := panicIf_bind.mp h
  obtain ⟨tokens, hpaid, h⟩ := tok.pay_bind.mp h
  obtain ⟨minted, hshares, h⟩ := bind_ok.mp h
  obtain ⟨-, h⟩ := I128.checked_bind.mp h
  obtain ⟨-, h⟩ := I128.checked_bind.mp h
  obtain ⟨s₁, hcredit, h⟩ := bind_ok.mp h
  cases h
  obtain ⟨pos, ids, rfl, -, -⟩ := creditPosition_ok hcredit
  exact ⟨hsigned, ⟨tokens, hpaid⟩, hshares, rfl⟩

/-- A deposit that is signed and paid, fits and divides by no zero completes. -/
theorem deposit_completes (hactive : portfolio.status = .active) (hm : 0 < amount)
    (hfits : DepositFits user portfolioId amount portfolio s)
    (hsigned : env.authorized user = true) {tokens : τ}
    (hpaid : tok.transfer s.tokens portfolio.depositToken user self amount = some tokens)
    (hassets : portfolio.totalSupply = 0 ∨ portfolio.totalAssets ≠ 0) :
    ∃ s', deposit tok self env user portfolioId amount s =
      .ok (sharesFor amount portfolio.totalAssets portfolio.totalSupply, s') := by
  have hshares := calculateSharesForDeposit_of_fits hassets hfits.product hfits.shares
  have hcredit : ∀ s₁ : State τ, s₁.userPosition = s.userPosition → ∃ s₂,
      creditPosition env.timestamp user portfolioId amount
        (sharesFor amount portfolio.totalAssets portfolio.totalSupply) s₁ = .ok s₂ := by
    intro s₁ hsame
    unfold creditPosition
    rw [hsame]
    cases hpos : s.userPosition.get? (user, portfolioId) with
    | none => exact ⟨_, rfl⟩
    | some pos =>
      obtain ⟨hmore, htotal⟩ := hfits.position pos hpos
      exact ⟨_, I128.checked_bind.mpr ⟨hmore, I128.checked_bind.mpr ⟨htotal, rfl⟩⟩⟩
  obtain ⟨s', hs'⟩ := hcredit (setPortfolio { s with tokens } { portfolio with
    totalAssets := portfolio.totalAssets + amount
    totalSupply := portfolio.totalSupply +
      sharesFor amount portfolio.totalAssets portfolio.totalSupply }) rfl
  refine ⟨s', requireAuth_bind.mpr ⟨hsigned, panicIf_bind.mpr ⟨by omega,
    expect_bind.mpr ⟨portfolio, hfound, panicIf_bind.mpr ⟨not_not.mpr hactive,
    tok.pay_bind.mpr ⟨tokens, hpaid, bind_ok.mpr ⟨_, hshares, I128.checked_bind.mpr ⟨hfits.assets,
    I128.checked_bind.mpr ⟨hfits.supply, bind_ok.mpr ⟨s', hs', rfl⟩⟩⟩⟩⟩⟩⟩⟩⟩⟩

/-- Shares are outstanding and there are no assets. -/
theorem deposit_divides_by_zero (hactive : portfolio.status = .active) (hm : 0 < amount)
    (hproduct : I128.InRange (amount * portfolio.totalSupply))
    (hsigned : env.authorized user = true) {tokens : τ}
    (hpaid : tok.transfer s.tokens portfolio.depositToken user self amount = some tokens)
    (hsupply : portfolio.totalSupply ≠ 0) (hassets : portfolio.totalAssets = 0) :
    deposit tok self env user portfolioId amount s = .error .divisionByZero := by
  have hauth : requireAuth env user = .ok () := by simp [requireAuth, hsigned]
  have hloaded : getPortfolio s portfolioId = .ok portfolio := expect_ok.mpr hfound
  have hpay := tok.pay_ok.mpr hpaid
  have hmul : I128.mul amount portfolio.totalSupply = .ok _ := I128.fit_ok.mpr ⟨hproduct, rfl⟩
  unfold deposit
  rw [hauth, ok_bind, panicIf_of_not (by omega), ok_bind, hloaded, ok_bind,
    panicIf_of_not (not_not.mpr hactive), ok_bind, hpay, ok_bind, calculateSharesForDeposit,
    if_neg hsupply, hmul, ok_bind, hassets, I128.div, if_pos rfl]
  rfl

theorem deposit_avoids_division
    (hassets : env.authorized user = true → ∀ tokens,
      tok.transfer s.tokens portfolio.depositToken user self amount = some tokens →
      portfolio.totalSupply = 0 ∨ portfolio.totalAssets ≠ 0) :
    Avoids .divisionByZero (deposit tok self env user portfolioId amount s) := by
  have hdivision : ∀ message, Fault.divisionByZero ≠ .panic message := by simp
  unfold deposit getPortfolio
  refine (requireAuth_avoids (by decide)).bind fun _ hauth => ?_
  have hsigned : env.authorized user = true := by
    by_contra hunsigned
    simp [requireAuth, hunsigned] at hauth
  refine (panicIf_avoids (hdivision _)).bind fun _ _ => ?_
  refine (expect_avoids (hdivision _)).bind fun found hfound' => ?_
  obtain rfl : portfolio = found := Option.some.inj (hfound.symm.trans (expect_ok.mp hfound'))
  refine (panicIf_avoids (hdivision _)).bind fun _ _ => ?_
  refine (tok.pay_avoids (by decide)).bind fun tokens hpaid => ?_
  refine Avoids.bind ?_ fun shares _ => ?_
  · unfold calculateSharesForDeposit
    split
    · exact avoids_ok _
    · rename_i hsupply
      refine (I128.fit_avoids (by decide)).bind fun product _ => ?_
      have hsome := hassets hsigned tokens (tok.pay_ok.mp hpaid)
      exact I128.div_avoids (hsome.resolve_left hsupply) (by decide)
  refine (I128.checked_avoids (hdivision _)).bind fun _ _ => ?_
  refine (I128.checked_avoids (hdivision _)).bind fun _ _ => ?_
  refine Avoids.bind ?_ fun _ _ => avoids_ok _
  unfold creditPosition
  split
  · refine (I128.checked_avoids (hdivision _)).bind fun _ _ => ?_
    exact (I128.checked_avoids (hdivision _)).bind fun _ _ => avoids_ok _
  · exact avoids_ok _

end Deposit

/-- In every reachable state a deposit into an active portfolio divides by no zero, and
mints shares that redeem for it, exactly if it is not signed or not paid, or under the
condition on amount, assets and supply. -/
theorem deposit_honoured_iff {tokens : τ}
    (hrun : Steps (next tok self) (fun _ _ => True) (deployed tokens) s) {user : Address}
    {portfolioId : ℕ} {amount : ℤ} {portfolio : Portfolio}
    (hfound : s.portfolio.get? portfolioId = some portfolio)
    (hactive : portfolio.status = .active) (hm : 0 < amount)
    (hfits : DepositFits user portfolioId amount portfolio s) :
    DepositHonoured tok self env user portfolioId amount s ↔
      env.authorized user = false ∨
      tok.transfer s.tokens portfolio.depositToken user self amount = none ∨
      Redeemable amount portfolio.totalAssets portfolio.totalSupply := by
  have hnumber := ((booked_run hrun).numbered portfolioId portfolio hfound).1
  have hredeems := fun hassets =>
    redeems_iff_redeemable hm hassets hfits.redemption hfits.redeemed
  constructor
  · rintro ⟨havoids, hall⟩
    cases hsigned : env.authorized user with
    | false => exact .inl rfl
    | true =>
      cases hpaid : tok.transfer s.tokens portfolio.depositToken user self amount with
      | none => exact .inr (.inl rfl)
      | some paid =>
        refine .inr (.inr ?_)
        by_cases hassets : portfolio.totalSupply = 0 ∨ portfolio.totalAssets ≠ 0
        · obtain ⟨s', hs'⟩ := deposit_completes hfound hactive hm hfits hsigned hpaid hassets
          obtain ⟨-, -, -, hset⟩ := deposit_ok hfound hs'
          obtain ⟨portfolio', hfound', hback⟩ := hall _ _ hs'
          rw [hset, hnumber, Store.get?_set_self] at hfound'
          cases hfound'
          exact (hredeems hassets).mp hback
        · obtain ⟨hsupply, hzero⟩ := not_or.mp hassets
          exact absurd (deposit_divides_by_zero hfound hactive hm hfits.product hsigned hpaid hsupply
            (not_not.mp hzero)) havoids
  · intro h
    have hassets : env.authorized user = true → ∀ paid,
        tok.transfer s.tokens portfolio.depositToken user self amount = some paid →
        Redeemable amount portfolio.totalAssets portfolio.totalSupply := by
      intro hsigned paid hpaid
      rcases h with hunsigned | hunpaid | h
      · rw [hsigned] at hunsigned
        cases hunsigned
      · rw [hpaid] at hunpaid
        cases hunpaid
      · exact h
    refine ⟨deposit_avoids_division hfound fun hsigned paid hpaid =>
      Redeemable.assets (hassets hsigned paid hpaid), fun shares s' hs' => ?_⟩
    obtain ⟨hsigned, ⟨paid, hpaid⟩, hshares, hset⟩ := deposit_ok hfound hs'
    have hcondition := hassets hsigned paid hpaid
    rw [calculateSharesForDeposit_of_fits hcondition.assets hfits.product hfits.shares] at hshares
    cases hshares
    rw [hnumber] at hset
    exact ⟨_, by rw [hset]; exact Store.get?_set_self _ _ _,
      (hredeems hcondition.assets).mpr hcondition⟩

section Runs

open Sample

/-- At a price of 3/2 Bob's 100 buy 66 shares, which redeem for 99. -/
theorem deposit_honoured_iff_bob :
    ∃ s portfolio, Steps (next asset contract) (fun _ _ => True) start s ∧
      s.portfolio.get? 1 = some portfolio ∧ portfolio.totalAssets = 900 ∧
      portfolio.totalSupply = 600 ∧ DepositHonoured asset contract (Sample.env 3) bob 1 100 s := by
  have h : After (fun s => (∃ portfolio ∈ s.portfolio.get? 1, portfolio.totalAssets = 900 ∧
        portfolio.totalSupply = 600 ∧ portfolio.status = .active) ∧
        s.userPosition.get? (bob, 1) = none)
      (execute (next asset contract)
        (calls (opening ++ [(2, .updateAssetPosition admin 1 0 300 precisionFactor)])) start) := by
    decide +kernel
  obtain ⟨s, hs, ⟨portfolio, hfound, hassets, hsupply, hactive⟩, hnew⟩ := h.exists_ok
  have hrun : Steps (next asset contract) (fun _ _ => True) start s :=
    execute_steps _ (fun _ _ _ => trivial) hs
  refine ⟨s, portfolio, hrun, hfound, hassets, hsupply,
    (deposit_honoured_iff hrun hfound hactive (by decide) ?_).mpr (.inr (.inr ?_))⟩
  · constructor <;> simp only [hassets, hsupply, hnew] <;> decide
  · rw [hassets, hsupply]
    unfold Redeemable
    decide

/-- Mallory rebalances to nothing: Bob's deposit divides by zero. -/
theorem deposit_refused_bob :
    ¬ ∀ s, Steps (next asset contract) (fun _ _ => True) start s →
      ∀ env user portfolioId amount portfolio, s.portfolio.get? portfolioId = some portfolio →
        portfolio.status = .active → 0 < amount →
        DepositFits user portfolioId amount portfolio s →
        DepositHonoured asset contract env user portfolioId amount s := by
  intro hall
  have h : After (fun s => (∃ portfolio ∈ s.portfolio.get? 1, portfolio.totalAssets = 0 ∧
        portfolio.totalSupply = 600 ∧ portfolio.status = .active ∧
        (asset.transfer s.tokens portfolio.depositToken bob contract 100).isSome = true) ∧
        s.userPosition.get? (bob, 1) = none)
      (execute (next asset contract)
        (calls (opening ++ [(2592000, .rebalance mallory 1 [] [] [0, 0, 0])])) start) := by
    decide +kernel
  obtain ⟨s, hs, ⟨portfolio, hfound, hassets, hsupply, hactive, hpays⟩, hnew⟩ := h.exists_ok
  have hrun : Steps (next asset contract) (fun _ _ => True) start s :=
    execute_steps _ (fun _ _ _ => trivial) hs
  obtain ⟨paid, hpaid⟩ := Option.isSome_iff_exists.mp hpays
  have hfits : DepositFits bob 1 100 portfolio s := by
    constructor <;> simp only [hassets, hsupply, hnew] <;> decide
  refine (hall s hrun (Sample.env 2592001) bob 1 100 portfolio hfound hactive (by decide) hfits).1 ?_
  exact deposit_divides_by_zero hfound hactive (by decide) hfits.product rfl hpaid
    (by rw [hsupply]; decide) hassets

end Runs

end PortfolioManager
