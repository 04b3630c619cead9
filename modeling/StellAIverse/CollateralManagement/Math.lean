import StellAIverse.Soroban.Result

/-!
# Rates, interest and health of a position

The formulas of the lending market in checked 128-bit arithmetic. Rates are in
basis points and every division rounds towards zero.
-/

namespace CollateralManagement

open Soroban

/-- Basis points denominator: 10000 = 100%. -/
def bpsDenominator : ℤ := 10000

/-- Seconds in a year (365 days). -/
def secondsPerYear : ℤ := 365 * 24 * 60 * 60

/-- Protocol-level risk parameters. -/
structure ProtocolParams where
  debtCeiling : ℤ
  /-- Min health factor before liquidation (10000 = 1.0). -/
  liqHealthThresholdBps : ℕ
  baseInterestRateBps : ℕ
  interestSlope1Bps : ℕ
  interestSlope2Bps : ℕ
  optimalUtilizationBps : ℕ
  maxBorrowPerUser : ℤ
  maxCollateralPerUser : ℤ

structure HealthFactor where
  healthFactorBps : ℤ
  totalCollateralValue : ℤ
  totalDebt : ℤ
  isHealthy : Bool

/-- Utilization of a borrow token in basis points, between 0 and 10000. -/
def calculateUtilization (totalBorrowed totalDeposits : ℤ) : Result ℕ :=
  if totalDeposits ≤ 0 then .ok 0
  else do
    let scaled ← I128.mul totalBorrowed bpsDenominator
    let utilBps ← I128.div scaled totalDeposits
    .ok (if utilBps > 10000 then 10000 else if utilBps < 0 then 0 else utilBps.toNat)

/-- The kink model: one slope up to the optimal utilization, another beyond it. -/
def calculateInterestRate (params : ProtocolParams) (utilizationBps : ℕ) : Result ℕ :=
  let base : ℤ := params.baseInterestRateBps
  let slope1 : ℤ := params.interestSlope1Bps
  let slope2 : ℤ := params.interestSlope2Bps
  let optimal : ℤ := params.optimalUtilizationBps
  let util : ℤ := utilizationBps
  if optimal ≤ 0 then .ok params.baseInterestRateBps
  else do
    let rateBps ←
      if util ≤ optimal then do
        let scaled ← I128.mul slope1 util
        let part ← I128.div scaled optimal
        I128.add base part
      else do
        let excess ← I128.sub util optimal
        let maxExcess ← I128.sub bpsDenominator optimal
        let kink ← I128.add base slope1
        if maxExcess ≤ 0 then I128.add kink slope2
        else do
          let scaled ← I128.mul slope2 excess
          let part ← I128.div scaled maxExcess
          I128.add kink part
    .ok (U32.ofInt (min rateBps U32.max))

/-- Interest since the last accrual update. -/
def calculateAccruedInterest (principal : ℤ) (annualRateBps : ℕ) (timeDeltaSeconds : ℤ) : Result ℤ :=
  if principal ≤ 0 ∨ annualRateBps = 0 ∨ timeDeltaSeconds ≤ 0 then .ok 0
  else do
    let yearly ← I128.mul principal annualRateBps
    let scaled ← I128.mul yearly timeDeltaSeconds
    I128.div scaled (bpsDenominator * secondsPerYear)

/-- At least 10000 is healthy, less is undercollateralized. -/
def calculateHealthFactor (totalCollateralValue totalDebt : ℤ) (weightedThresholdBps : ℕ) :
    Result HealthFactor :=
  if totalDebt ≤ 0 then .ok ⟨I128.max / 2, totalCollateralValue, 0, true⟩
  else if totalCollateralValue ≤ 0 then .ok ⟨0, 0, totalDebt, false⟩
  else do
    let scaled ← I128.mul totalCollateralValue weightedThresholdBps
    let hfBps ← I128.div scaled totalDebt
    .ok ⟨hfBps, totalCollateralValue, totalDebt, hfBps ≥ bpsDenominator⟩

/-- What may be borrowed against collateral of this value; nothing in the contract calls it. -/
def calculateMaxBorrow (collateralValue : ℤ) (ltvBps : ℕ) : Result ℤ := do
  let scaled ← I128.mul collateralValue ltvBps
  I128.div scaled bpsDenominator

/-- The collateral that covers a debt with the bonus, rounded up, and the bonus. -/
def calculateLiquidationSeizure (debtToCover collateralPrice : ℤ) (liquidationBonusBps : ℕ) :
    Result (ℤ × ℤ) :=
  if debtToCover ≤ 0 ∨ collateralPrice ≤ 0 then .ok (0, 0)
  else do
    let bonusFactor ← I128.add bpsDenominator liquidationBonusBps
    let numerator ← I128.mul debtToCover bonusFactor
    let denominator ← I128.mul collateralPrice bpsDenominator
    let raised ← I128.add numerator denominator
    let raised ← I128.sub raised 1
    let collateralSeized ← I128.div raised denominator
    let scaled ← I128.mul debtToCover liquidationBonusBps
    let bonusAmount ← I128.div scaled bpsDenominator
    .ok (collateralSeized, bonusAmount)

/-- What is seized is never negative. -/
theorem calculateLiquidationSeizure_nonneg {debt price : ℤ} {bonusBps : ℕ} {seized bonus : ℤ}
    (h : calculateLiquidationSeizure debt price bonusBps = .ok (seized, bonus)) : 0 ≤ seized := by
  unfold calculateLiquidationSeizure at h
  split at h
  · cases h
    exact le_rfl
  · rename_i hpos
    obtain ⟨hdebt, hprice⟩ : 0 < debt ∧ 0 < price := by omega
    obtain ⟨-, h⟩ := I128.add_bind.mp h
    obtain ⟨-, h⟩ := I128.mul_bind.mp h
    obtain ⟨-, h⟩ := I128.mul_bind.mp h
    obtain ⟨-, h⟩ := I128.add_bind.mp h
    obtain ⟨-, h⟩ := I128.sub_bind.mp h
    obtain ⟨-, -, h⟩ := I128.div_bind.mp h
    obtain ⟨-, h⟩ := I128.mul_bind.mp h
    obtain ⟨-, -, h⟩ := I128.div_bind.mp h
    cases h
    have hnum : 0 ≤ debt * (bpsDenominator + bonusBps) := by
      have : 0 ≤ bpsDenominator + (bonusBps : ℤ) := by unfold bpsDenominator; omega
      exact mul_nonneg hdebt.le this
    have hden : 0 < price * bpsDenominator := mul_pos hprice (by decide)
    exact Int.tdiv_nonneg (by omega) hden.le

end CollateralManagement
