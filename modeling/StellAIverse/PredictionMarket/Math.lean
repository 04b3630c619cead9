import StellAIverse.Soroban.ConstantProduct
import StellAIverse.Soroban.Newton
import StellAIverse.PredictionMarket.Types

/-!
# Pricing arithmetic

The CPMM quotes, the LP share formulas and the Newton square root, each with
the range check of every machine operation it performs.
-/

namespace PredictionMarket

open Soroban

def isqrt (n : ℤ) : Result ℤ := do
  panicIf (n < 0) "Cannot take square root of negative number"
  if n = 0 then .ok 0 else do
    let sum ← I128.add n 1
    let y ← I128.div sum 2
    newtonLoop n n.toNat n y

/-- Ceiling division for positive numbers. -/
def ceilDiv (a b : ℤ) : Result ℤ := do
  panicIf (b ≤ 0) "Divisor must be positive"
  panicIf (a < 0) "Dividend must be non-negative for ceiling division"
  let sum ← I128.add a b
  let numerator ← I128.sub sum 1
  I128.div numerator b

/-- The fee is deducted from `collateralIn` before the swap. -/
def calculateBuyAmount (collateralIn collateralReserve outcomeReserve : ℤ) (feeBps : ℕ) :
    Result ℤ :=
  if collateralIn ≤ 0 ∨ collateralReserve ≤ 0 ∨ outcomeReserve ≤ 0 then .ok 0 else do
    let feeFactor ← I128.sub 10000 feeBps
    let scaled ← I128.mul collateralIn feeFactor
    let netCollateral ← I128.div scaled 10000
    if netCollateral ≤ 0 then .ok 0 else do
      let numerator ← I128.mul outcomeReserve netCollateral
      let denominator ← I128.add collateralReserve netCollateral
      I128.div numerator denominator

/-- The new collateral reserve is rounded down, so the gross output is rounded
up before the fee is deducted from it. -/
def calculateSellAmount (outcomeAmount collateralReserve outcomeReserve : ℤ) (feeBps : ℕ) :
    Result ℤ :=
  if outcomeAmount ≤ 0 ∨ collateralReserve ≤ 0 ∨ outcomeReserve ≤ 0 then .ok 0 else
  if outcomeReserve ≤ outcomeAmount then .ok 0 else do
    let k ← I128.mul collateralReserve outcomeReserve
    let newOutcomeReserve ← I128.add outcomeReserve outcomeAmount
    let newCollateralReserve ← I128.div k newOutcomeReserve
    let grossCollateral ← I128.sub collateralReserve newCollateralReserve
    let feeFactor ← I128.sub 10000 feeBps
    let scaled ← I128.mul grossCollateral feeFactor
    I128.div scaled 10000

/-- The largest integer stands for an amount that the reserve does not have. -/
def calculateBuyCollateralRequired (outcomeAmount collateralReserve outcomeReserve : ℤ)
    (feeBps : ℕ) : Result ℤ :=
  if outcomeAmount ≤ 0 ∨ collateralReserve ≤ 0 ∨ outcomeReserve ≤ 0 then .ok 0 else
  if outcomeReserve ≤ outcomeAmount then .ok I128.max else do
    let numerator ← I128.mul collateralReserve outcomeAmount
    let denominator ← I128.sub outcomeReserve outcomeAmount
    let netCollateral ← ceilDiv numerator denominator
    let feeFactor ← I128.sub 10000 feeBps
    let scaled ← I128.mul netCollateral 10000
    ceilDiv scaled feeFactor

def calculateLpSharesAdd (collateralIn outcomeIn : ℤ) (pool : OutcomePool) : Result ℤ :=
  if pool.lpTotalSupply = 0 then do
    let product ← I128.mul collateralIn outcomeIn
    isqrt product
  else do
    let scaledC ← I128.mul collateralIn pool.lpTotalSupply
    let shareC ← I128.div scaledC pool.collateralReserve
    let scaledO ← I128.mul outcomeIn pool.lpTotalSupply
    let shareO ← I128.div scaledO pool.outcomeReserve
    .ok (if shareC < shareO then shareC else shareO)

def calculateLpWithdraw (lpAmount : ℤ) (pool : OutcomePool) : Result (ℤ × ℤ) := do
  let scaledC ← I128.mul lpAmount pool.collateralReserve
  let collateralOut ← I128.div scaledC pool.lpTotalSupply
  let scaledO ← I128.mul lpAmount pool.outcomeReserve
  let outcomeOut ← I128.div scaledO pool.lpTotalSupply
  .ok (collateralOut, outcomeOut)

/-- Collateral that reaches the curve after the trading fee. -/
def netCollateral (collateralIn : ℤ) (feeBps : ℕ) : ℤ :=
  (collateralIn * (10000 - feeBps)).tdiv 10000

/-- Outcome tokens bought from reserves `x`, `y` by `net` collateral. -/
def bought (x y net : ℤ) : ℤ := (y * net).tdiv (x + net)

/-- The collateral reserve a sale leaves before its fee. -/
def reserveAfterSale (x y amount : ℤ) : ℤ := (x * y).tdiv (y + amount)

/-- Collateral paid for `amount` outcome tokens sold into reserves `x`, `y`. -/
def soldFor (x y amount : ℤ) (feeBps : ℕ) : ℤ :=
  netCollateral (x - reserveAfterSale x y amount) feeBps

theorem calculateBuyAmount_ok {collateralIn x y out : ℤ} {feeBps : ℕ}
    (h : calculateBuyAmount collateralIn x y feeBps = .ok out) (hout : 0 < out) :
    0 < x ∧ 0 < y ∧ 0 < netCollateral collateralIn feeBps ∧
      out = bought x y (netCollateral collateralIn feeBps) := by
  unfold calculateBuyAmount at h
  split at h
  · cases h
    omega
  · rename_i hpos
    simp only [I128.sub_bind, I128.mul_bind, I128.div_bind] at h
    obtain ⟨-, -, -, -, h⟩ := h
    split at h
    · cases h
      omega
    · rename_i hnet
      simp only [I128.mul_bind, I128.add_bind, I128.div_ok] at h
      obtain ⟨-, -, -, -, rfl⟩ := h
      exact ⟨by omega, by omega, not_le.mp hnet, rfl⟩

theorem netCollateral_nonneg {a : ℤ} {feeBps : ℕ} (ha : 0 ≤ a) (hfee : feeBps ≤ 10000) :
    0 ≤ netCollateral a feeBps :=
  Int.tdiv_nonneg (mul_nonneg ha (by omega)) (by omega)

/-- The quote in closed form, also where nothing is left of the collateral after the fee. -/
theorem calculateBuyAmount_eq {amount x y out : ℤ} {feeBps : ℕ} (ha : 0 ≤ amount) (hx : 0 < x)
    (hy : 0 < y) (hfee : feeBps ≤ 10000) (h : calculateBuyAmount amount x y feeBps = .ok out) :
    out = bought x y (netCollateral amount feeBps) := by
  have hnothing : bought x y 0 = 0 := by simp [bought]
  unfold calculateBuyAmount at h
  split at h
  · obtain rfl : amount = 0 := by omega
    cases h
    rw [show netCollateral 0 feeBps = 0 by simp [netCollateral], hnothing]
  · simp only [I128.sub_bind, I128.mul_bind, I128.div_bind] at h
    obtain ⟨-, -, -, -, h⟩ := h
    change (if netCollateral amount feeBps ≤ 0 then _ else _) = _ at h
    split at h
    · have hnet := netCollateral_nonneg ha hfee
      obtain hzero : netCollateral amount feeBps = 0 := by omega
      cases h
      rw [hzero, hnothing]
    · simp only [I128.mul_bind, I128.add_bind, I128.div_ok] at h
      obtain ⟨-, -, -, -, rfl⟩ := h
      rfl

theorem calculateSellAmount_ok {amount x y out : ℤ} {feeBps : ℕ}
    (h : calculateSellAmount amount x y feeBps = .ok out) (hout : 0 < out) :
    0 < amount ∧ 0 < x ∧ amount < y ∧ out = soldFor x y amount feeBps := by
  unfold calculateSellAmount at h
  split at h
  · cases h
    omega
  · split at h
    · cases h
      omega
    · simp only [I128.sub_bind, I128.mul_bind, I128.div_bind, I128.add_bind, I128.div_ok] at h
      obtain ⟨-, -, -, -, -, -, -, -, -, rfl⟩ := h
      exact ⟨by omega, by omega, by omega, rfl⟩

theorem calculateLpSharesAdd_ok {a b shares : ℤ} {pool : OutcomePool}
    (h : calculateLpSharesAdd a b pool = .ok shares) :
    (pool.lpTotalSupply = 0 ∧ isqrt (a * b) = .ok shares) ∨
    (pool.lpTotalSupply ≠ 0 ∧ pool.collateralReserve ≠ 0 ∧ pool.outcomeReserve ≠ 0 ∧
      shares = min ((a * pool.lpTotalSupply).tdiv pool.collateralReserve)
        ((b * pool.lpTotalSupply).tdiv pool.outcomeReserve)) := by
  unfold calculateLpSharesAdd at h
  split at h
  · rename_i h0
    rw [I128.mul_bind] at h
    exact .inl ⟨h0, h.2⟩
  · rename_i h0
    simp only [I128.mul_bind, I128.div_bind] at h
    obtain ⟨-, hc, -, -, ho, -, h⟩ := h
    cases h
    refine .inr ⟨h0, hc, ho, ?_⟩
    split <;> omega

theorem calculateLpWithdraw_bind {lpAmount : ℤ} {pool : OutcomePool} {β : Type}
    {f : ℤ × ℤ → Result β} {r : β} (h : (calculateLpWithdraw lpAmount pool >>= f) = .ok r) :
    f ((lpAmount * pool.collateralReserve).tdiv pool.lpTotalSupply,
      (lpAmount * pool.outcomeReserve).tdiv pool.lpTotalSupply) = .ok r := by
  obtain ⟨x, hx, h⟩ := bind_ok.mp h
  simp only [calculateLpWithdraw, I128.mul_bind, I128.div_bind] at hx
  obtain ⟨-, -, -, -, -, -, hx⟩ := hx
  cases hx
  exact h

section Curve

variable {x y net amount : ℤ} {feeBps : ℕ}

theorem netCollateral_le {collateralIn : ℤ} (h : 0 ≤ collateralIn) (hfee : feeBps ≤ 10000) :
    netCollateral collateralIn feeBps ≤ collateralIn := by
  have hn : 0 ≤ collateralIn * (10000 - feeBps) := mul_nonneg h (by omega)
  have hfloor := I128.tdiv_mul_le hn (show (0 : ℤ) < 10000 by omega)
  unfold netCollateral
  nlinarith

theorem bought_mul_le (hx : 0 < x) (hy : 0 < y) (hnet : 0 < net) :
    bought x y net * (x + net) ≤ y * net :=
  I128.tdiv_mul_le (by positivity) (by omega)

/-- A buy never empties the outcome side of a pool. -/
theorem bought_lt (hx : 0 < x) (hy : 0 < y) (hnet : 0 < net) : bought x y net < y := by
  have h := bought_mul_le hx hy hnet
  by_contra hge
  nlinarith

/-- Rounding the bought amount down keeps the product of the reserves. -/
theorem buy_product (hx : 0 < x) (hy : 0 < y) (hnet : 0 < net) :
    x * y ≤ (x + net) * (y - bought x y net) := by
  have h := bought_mul_le hx hy hnet
  nlinarith

theorem reserveAfterSale_nonneg (hx : 0 < x) (hy : 0 < y) (ha : 0 < amount) :
    0 ≤ reserveAfterSale x y amount :=
  Int.tdiv_nonneg (by positivity) (by omega)

theorem reserveAfterSale_mul_le (hx : 0 < x) (hy : 0 < y) (ha : 0 < amount) :
    reserveAfterSale x y amount * (y + amount) ≤ x * y :=
  I128.tdiv_mul_le (by positivity) (by omega)

theorem lt_reserveAfterSale_add_one_mul (hx : 0 < x) (hy : 0 < y) (ha : 0 < amount) :
    x * y < (reserveAfterSale x y amount + 1) * (y + amount) :=
  I128.lt_tdiv_add_one_mul (by positivity) (by omega)

theorem reserveAfterSale_lt (hx : 0 < x) (hy : 0 < y) (ha : 0 < amount) :
    reserveAfterSale x y amount < x := by
  have h := reserveAfterSale_mul_le hx hy ha
  by_contra hge
  nlinarith

theorem soldFor_le (hx : 0 < x) (hy : 0 < y) (ha : 0 < amount) (hfee : feeBps ≤ 10000) :
    soldFor x y amount feeBps ≤ x - reserveAfterSale x y amount :=
  netCollateral_le (by have := reserveAfterSale_lt hx hy ha; omega) hfee

/-- A fee of at least one basis point takes at least one unit of the output. -/
theorem soldFor_lt (hx : 0 < x) (hy : 0 < y) (ha : 0 < amount) (hfee : feeBps ≤ 10000)
    (hpos : 1 ≤ feeBps) : soldFor x y amount feeBps < x - reserveAfterSale x y amount := by
  have hg : 0 < x - reserveAfterSale x y amount := by
    have := reserveAfterSale_lt hx hy ha
    omega
  have hn : 0 ≤ (x - reserveAfterSale x y amount) * (10000 - feeBps) :=
    mul_nonneg hg.le (by omega)
  have hfloor := I128.tdiv_mul_le hn (show (0 : ℤ) < 10000 by omega)
  have hp : (1 : ℤ) ≤ feeBps := by omega
  change soldFor x y amount feeBps * 10000 ≤ _ at hfloor
  nlinarith

theorem sell_reserve_nonneg (hx : 0 < x) (hy : 0 < y) (ha : 0 < amount) (hfee : feeBps ≤ 10000) :
    0 ≤ x - soldFor x y amount feeBps := by
  have h := soldFor_le hx hy ha hfee
  have h0 := reserveAfterSale_nonneg hx hy ha
  omega

/-- Where the sale divides evenly or a fee is due, rounding the reserve down
does not lower the product. -/
theorem sell_product (hx : 0 < x) (hy : 0 < y) (ha : 0 < amount) (hfee : feeBps ≤ 10000)
    (h : 1 ≤ feeBps ∨ y + amount ∣ x * y) :
    x * y ≤ (x - soldFor x y amount feeBps) * (y + amount) := by
  rcases h with hpos | hdvd
  · have hlt := soldFor_lt hx hy ha hfee hpos
    have hceil := lt_reserveAfterSale_add_one_mul hx hy ha
    nlinarith
  · have hle := soldFor_le hx hy ha hfee
    have hexact : reserveAfterSale x y amount * (y + amount) = x * y := Int.tdiv_mul_cancel hdvd
    nlinarith

end Curve

/-- A completed `isqrt` is the floor of the square root. -/
theorem isqrt_ok {n r : ℤ} (h : isqrt n = .ok r) : 0 ≤ n ∧ r = (Nat.sqrt n.toNat : ℕ) :=
  newtonSqrt_ok h

theorem isqrt_mul_self {n r : ℤ} (hn : 0 ≤ n) (h : isqrt (n * n) = .ok r) : r = n := by
  obtain ⟨k, rfl⟩ : ∃ k : ℕ, n = k := ⟨n.toNat, by omega⟩
  have hr := (isqrt_ok h).2
  rw [hr, show ((k : ℤ) * k).toNat = k * k by rw [← Nat.cast_mul, Int.toNat_natCast], Nat.sqrt_eq]

theorem ceilDiv_ok {a b r : ℤ} (h : ceilDiv a b = .ok r) : r = ConstantProduct.ceilQuot a b := by
  unfold ceilDiv at h
  simp only [panicIf_bind, I128.add_bind, I128.sub_bind, I128.div_ok] at h
  obtain ⟨-, -, -, -, -, -, rfl⟩ := h
  rfl

theorem calculateBuyCollateralRequired_ok {d x y required : ℤ} {feeBps : ℕ} (hx : 0 < x)
    (hd : 0 < d) (hdy : d < y)
    (h : calculateBuyCollateralRequired d x y feeBps = .ok required) :
    required = ConstantProduct.inputFor x y d (10000 - feeBps) 10000 := by
  unfold calculateBuyCollateralRequired at h
  rw [if_neg (by omega), if_neg (by omega)] at h
  simp only [I128.mul_bind, I128.sub_bind] at h
  obtain ⟨-, -, h⟩ := h
  obtain ⟨net, hnet, h⟩ := bind_ok.mp h
  simp only [I128.mul_bind, I128.sub_bind] at h
  obtain ⟨-, -, h⟩ := h
  rw [ceilDiv_ok hnet] at h
  exact ceilDiv_ok h

/-- The required collateral is the least that buys the amount. -/
theorem le_calculateBuyAmount_iff {c d x y out required : ℤ} {feeBps : ℕ} (hx : 0 < x)
    (hfee : feeBps ≤ 500) (hd : 0 < d) (hdy : d < y) (hc : 0 < c)
    (hbuy : calculateBuyAmount c x y feeBps = .ok out)
    (hrequired : calculateBuyCollateralRequired d x y feeBps = .ok required) :
    d ≤ out ↔ required ≤ c := by
  rw [calculateBuyAmount_eq hc.le hx (hd.trans hdy) (by omega) hbuy,
    calculateBuyCollateralRequired_ok hx hd hdy hrequired]
  exact ConstantProduct.le_outFor_afterFee_iff hx hd.le hdy (by omega) (by omega) hc.le

/-- A thousand of ten thousand, at the collateral it requires and at one less. -/
theorem le_calculateBuyAmount_iff_basic :
    calculateBuyCollateralRequired 1000 10000 10000 30 = .ok 1116 ∧
      (∃ out, calculateBuyAmount 1116 10000 10000 30 = .ok out ∧ 1000 ≤ out) ∧
      ∃ out, calculateBuyAmount 1115 10000 10000 30 = .ok out ∧ out < 1000 := by
  have hrequired : calculateBuyCollateralRequired 1000 10000 10000 30 = .ok 1116 := by
    decide +kernel
  have henough : calculateBuyAmount 1116 10000 10000 30 = .ok 1000 := by decide +kernel
  have hless : calculateBuyAmount 1115 10000 10000 30 = .ok 999 := by decide +kernel
  refine ⟨hrequired, ⟨_, henough, ?_⟩, _, hless, ?_⟩
  · exact (le_calculateBuyAmount_iff (by decide) (by decide) (by decide) (by decide) (by decide)
      henough hrequired).mpr (by decide)
  · exact not_le.mp fun hle => absurd ((le_calculateBuyAmount_iff (by decide) (by decide)
      (by decide) (by decide) (by decide) hless hrequired).mp hle) (by decide)

end PredictionMarket
