import StellAIverse.Soroban.Newton

/-!
# Swap arithmetic

The quotes, the two rounding divisions and the Newton square root, each with
the range check of every machine operation it performs. A completed quote is
fair to the pool: what comes in pays for what goes out along the curve.
-/

namespace Amm

open Soroban

def bpsDenominator : ℤ := 10000

def isqrt (n : ℤ) : Result ℤ := newtonSqrt "Cannot take square root of negative number" n

/-- Smallest integer not below `a / b`. -/
def ceilDiv (a b : ℤ) : Result ℤ := do
  panicIf (b ≤ 0) "Divisor must be positive"
  panicIf (a < 0) "Dividend must be non-negative for ceiling division"
  let sum ← I128.add a b
  let numerator ← I128.sub sum 1
  I128.div numerator b

def floorDiv (a b : ℤ) : Result ℤ := do
  panicIf (b ≤ 0) "Divisor must be positive"
  I128.div a b

/-- The fee is deducted from `amountIn` before the swap. -/
def getAmountOut (amountIn reserveIn reserveOut : ℤ) (feeBps : ℕ) : Result ℤ :=
  if amountIn ≤ 0 ∨ reserveIn ≤ 0 ∨ reserveOut ≤ 0 then .ok 0 else do
    let feeFactor ← I128.sub 10000 feeBps
    let scaled ← I128.mul amountIn feeFactor
    let amountInAfterFee ← I128.div scaled 10000
    let numerator ← I128.mul reserveOut amountInAfterFee
    let denominator ← I128.add reserveIn amountInAfterFee
    I128.div numerator denominator

/-- What repays a flash swap of `amountOut`. -/
def getAmountIn (amountOut reserveIn reserveOut : ℤ) (feeBps : ℕ) : Result ℤ := do
  panicIf (amountOut ≤ 0 ∨ reserveIn ≤ 0 ∨ reserveOut ≤ amountOut) "Invalid flash swap amount"
  let product ← I128.mul reserveIn amountOut
  let numerator ← I128.mul product 10000
  let left ← I128.sub reserveOut amountOut
  let feeFactor ← I128.sub 10000 feeBps
  let denominator ← I128.mul left feeFactor
  ceilDiv numerator denominator

def calculateSwapFee (amountIn : ℤ) (feeBps : ℕ) : Result ℤ := do
  let scaled ← I128.mul amountIn feeBps
  I128.div scaled bpsDenominator

/-- The governance share of a swap's fee; a swap that does not collect it owes none. -/
def protocolFee (collect : Bool) (amountIn : ℤ) (feeBps shareBps : ℕ) : Result ℤ := do
  let feeAmount ← calculateSwapFee amountIn feeBps
  if collect = true then do
    let scaled ← I128.mul feeAmount shareBps
    I128.div scaled bpsDenominator
  else .ok 0

/-- How far a ceiling division lifts `a` to reach a multiple of `b`. -/
def lift (a b : ℤ) : ℤ := -a % b

theorem lift_nonneg {a b : ℤ} (hb : 0 < b) : 0 ≤ lift a b := Int.emod_nonneg _ (by omega)

theorem ceilDiv_ok {a b r : ℤ} (h : ceilDiv a b = .ok r) :
    0 < b ∧ 0 ≤ a ∧ r * b = a + lift a b := by
  unfold ceilDiv at h
  simp only [panicIf_bind, I128.add_bind, I128.sub_bind, I128.div_ok, not_le, not_lt] at h
  obtain ⟨hb, ha, -, -, -, -, rfl⟩ := h
  refine ⟨hb, ha, ?_⟩
  -- The quotient is the one whose product with `b` lies in `[a, a + b)`.
  have hlow := I128.tdiv_mul_le (show 0 ≤ a + b - 1 by omega) hb
  have hhigh := I128.lt_tdiv_add_one_mul (show 0 ≤ a + b - 1 by omega) hb
  generalize (a + b - 1).tdiv b = q at hlow hhigh ⊢
  have hgap : lift a b = q * b - a := by
    unfold lift
    rw [show -a = q * b - a + b * -q by ring, Int.add_mul_emod_self_left]
    exact Int.emod_eq_of_lt (by linarith) (by linarith)
  omega

theorem floorDiv_ok {a b r : ℤ} (h : floorDiv a b = .ok r) : 0 < b ∧ r = a.tdiv b := by
  unfold floorDiv at h
  simp only [panicIf_bind, I128.div_ok, not_le] at h
  obtain ⟨hb, -, -, rfl⟩ := h
  exact ⟨hb, rfl⟩

/-- What a pool with reserves `x` and `y` takes in and gives out: along the curve
the input pays for the output. -/
structure FairTrade (x y paid out : ℤ) : Prop where
  stocked : 0 < x
  paid_pos : 0 < paid
  out_pos : 0 < out
  covered : out < y
  fair : x * out ≤ paid * (y - out)

/-- A fair trade does not lower the product of the reserves. -/
theorem FairTrade.product {x y paid out : ℤ} (h : FairTrade x y paid out) :
    x * y ≤ (x + paid) * (y - out) := by
  have := h.fair
  linarith

/-- The two ways a trade is priced: from its input, or from its output. -/
inductive Quoted (x y : ℤ) (feeBps : ℕ) (amountIn out : ℤ) : Prop
  | exactIn (positive : 0 < out) (quote : getAmountOut amountIn x y feeBps = .ok out)
  | exactOut (quote : getAmountIn out x y feeBps = .ok amountIn)

theorem getAmountOut_ok {amountIn x y out : ℤ} {feeBps : ℕ} (hfee : feeBps ≤ 10000)
    (h : getAmountOut amountIn x y feeBps = .ok out) (hout : 0 < out) :
    0 < amountIn ∧ 0 < x ∧ 0 < y ∧ ∃ net, 0 < net ∧
      net * 10000 ≤ amountIn * (10000 - feeBps) ∧ out * (x + net) ≤ y * net := by
  unfold getAmountOut at h
  split at h
  · cases h
    omega
  · rename_i hpos
    simp only [I128.sub_bind, I128.mul_bind, I128.div_bind, I128.add_bind, I128.div_ok] at h
    obtain ⟨-, -, -, -, -, -, -, -, rfl⟩ := h
    have hscaled : 0 ≤ amountIn * (10000 - feeBps) := mul_nonneg (by omega) (by omega)
    have hfloor := I128.tdiv_mul_le hscaled (show (0 : ℤ) < 10000 by omega)
    have hn := Int.tdiv_nonneg hscaled (show (0 : ℤ) ≤ 10000 by omega)
    generalize (amountIn * (10000 - feeBps)).tdiv 10000 = net at hout hfloor hn ⊢
    refine ⟨by omega, by omega, by omega, net, ?_, hfloor, ?_⟩
    · rcases hn.lt_or_eq with hlt | heq
      · exact hlt
      · rw [← heq] at hout
        simp at hout
    · exact I128.tdiv_mul_le (mul_nonneg (by omega) hn) (by omega)

theorem getAmountIn_ok {amountIn x y out : ℤ} {feeBps : ℕ}
    (h : getAmountIn out x y feeBps = .ok amountIn) :
    0 < out ∧ 0 < x ∧ out < y ∧ 0 ≤ amountIn ∧
      x * out * 10000 ≤ amountIn * ((y - out) * (10000 - feeBps)) := by
  unfold getAmountIn at h
  simp only [panicIf_bind, I128.sub_bind, I128.mul_bind] at h
  obtain ⟨hpos, -, -, -, -, -, h⟩ := h
  obtain ⟨hden, hnum, heq⟩ := ceilDiv_ok h
  have hlift : 0 ≤ lift (x * out * 10000) ((y - out) * (10000 - feeBps)) := lift_nonneg hden
  refine ⟨by omega, by omega, by omega, ?_, by omega⟩
  by_contra hneg
  have := mul_neg_of_neg_of_pos (not_le.mp hneg) hden
  omega

theorem protocolFee_ok {collect : Bool} {amountIn fee : ℤ} {feeBps shareBps : ℕ}
    (hin : 0 ≤ amountIn) (hshare : shareBps ≤ 10000)
    (h : protocolFee collect amountIn feeBps shareBps = .ok fee) :
    0 ≤ fee ∧ fee * 10000 ≤ amountIn * feeBps := by
  unfold protocolFee calculateSwapFee at h
  simp only [bind_assoc, I128.mul_bind, I128.div_bind] at h
  obtain ⟨-, -, -, h⟩ := h
  have hten : (0 : ℤ) < bpsDenominator := by decide
  have hscaled : 0 ≤ amountIn * feeBps := mul_nonneg hin (by omega)
  cases collect with
  | false =>
    cases h
    exact ⟨le_rfl, by linarith⟩
  | true =>
    simp only [if_true, I128.mul_bind, I128.div_ok] at h
    obtain ⟨-, -, -, rfl⟩ := h
    have hfee := Int.tdiv_nonneg hscaled hten.le
    have hfloor := I128.tdiv_mul_le hscaled hten
    generalize (amountIn * feeBps).tdiv bpsDenominator = whole at hfee hfloor ⊢
    have hpart : 0 ≤ whole * shareBps := mul_nonneg hfee (by omega)
    have hfloor' := I128.tdiv_mul_le hpart hten
    refine ⟨Int.tdiv_nonneg hpart hten.le, ?_⟩
    have hle : whole * shareBps ≤ whole * 10000 := mul_le_mul_of_nonneg_left (by omega) hfee
    simp only [bpsDenominator] at hfloor hfloor' ⊢
    linarith

/-- However a trade is priced, what is left after the protocol fee pays for it. -/
theorem Quoted.fair {x y amountIn out fee : ℤ} {feeBps : ℕ} (h : Quoted x y feeBps amountIn out)
    (hfee : feeBps < 10000) (hpart : fee * 10000 ≤ amountIn * feeBps) :
    FairTrade x y (amountIn - fee) out := by
  have hnet : amountIn * (10000 - feeBps) ≤ (amountIn - fee) * 10000 := by linarith
  cases h with
  | exactIn positive quote =>
    obtain ⟨hin, hx, hy, net, hpos, hle, hcurve⟩ := getAmountOut_ok hfee.le quote positive
    have hpaid : net ≤ amountIn - fee := by linarith
    have hcovered : out < y := by
      by_contra hge
      nlinarith [mul_pos positive hx]
    refine ⟨hx, by omega, positive, hcovered, ?_⟩
    have := mul_le_mul_of_nonneg_right hpaid (show 0 ≤ y - out by omega)
    linarith
  | exactOut quote =>
    obtain ⟨hout, hx, hcovered, hin, hcurve⟩ := getAmountIn_ok quote
    have hleft : 0 < y - out := by omega
    have hstep := mul_le_mul_of_nonneg_right hnet hleft.le
    have hfair : x * out ≤ (amountIn - fee) * (y - out) := by linarith
    refine ⟨hx, ?_, hout, hcovered, hfair⟩
    by_contra hneg
    have := mul_nonpos_of_nonpos_of_nonneg (not_lt.mp hneg) hleft.le
    have := mul_pos hx hout
    omega

end Amm
