import StellAIverse.Amm.Pools
import StellAIverse.Soroban.ConstantProduct

/-!
# Quotes from the output

What repays a flash swap is one ceiling of a fraction that a swap evaluates with two floors.
The repayment is never more than an ordinary swap would have to pay; it is as much exactly
where the two remainders agree.
-/

namespace Amm

open Soroban
open Soroban.ConstantProduct (afterFee outFor netFor inputFor inputAtOnce)

variable {a d x y charged out : ℤ} {feeBps : ℕ}

/-- The parts in 10000 of an input that are kept. -/
def feeFactor (feeBps : ℕ) : ℤ := 10000 - feeBps

theorem feeFactor_pos (hfee : feeBps ≤ maxFeeBps) : 0 < feeFactor feeBps := by
  unfold maxFeeBps at hfee
  unfold feeFactor
  omega

theorem feeFactor_le (feeBps : ℕ) : feeFactor feeBps ≤ 10000 := by
  unfold feeFactor
  omega

/-- The machine operations of `get_amount_out` on the way to its quote. -/
structure OutFits (a x y : ℤ) (feeBps : ℕ) : Prop where
  scaled : I128.InRange (a * feeFactor feeBps)
  bought : I128.InRange (y * afterFee a (feeFactor feeBps) 10000)
  reserve : I128.InRange (x + afterFee a (feeFactor feeBps) 10000)

theorem getAmountOut_of_nonpos (ha : a ≤ 0) : getAmountOut a x y feeBps = .ok 0 :=
  if_pos (.inl ha)

theorem getAmountOut_iff (ha : 0 < a) (hx : 0 < x) (hy : 0 < y) (hfee : feeBps ≤ maxFeeBps) :
    getAmountOut a x y feeBps = .ok out ↔
      OutFits a x y feeBps ∧ out = outFor x y (afterFee a (feeFactor feeBps) 10000) := by
  have hkeep := feeFactor_pos hfee
  have hscaled : 0 ≤ a * feeFactor feeBps := mul_nonneg ha.le hkeep.le
  have hnet : 0 ≤ afterFee a (feeFactor feeBps) 10000 :=
    ConstantProduct.afterFee_nonneg ha.le hkeep.le (by omega)
  unfold getAmountOut
  rw [if_neg (by omega)]
  simp only [I128.sub_bind, I128.mul_bind, I128.div_bind, I128.add_bind, I128.div_ok]
  change _ ∧ I128.InRange (a * feeFactor feeBps) ∧ _ ∧
    I128.InRange (afterFee a (feeFactor feeBps) 10000) ∧ _ ∧ _ ∧ _ ∧
    I128.InRange (outFor x y (afterFee a (feeFactor feeBps) 10000)) ∧
    outFor x y (afterFee a (feeFactor feeBps) 10000) = out ↔ _
  constructor
  · rintro ⟨-, hin, -, -, hbought, hreserve, -, -, rfl⟩
    exact ⟨⟨hin, hbought, hreserve⟩, rfl⟩
  · rintro ⟨⟨hin, hbought, hreserve⟩, rfl⟩
    refine ⟨?_, hin, by decide, hin.of_le hnet ?_, hbought, hreserve, ?_, hbought.of_le ?_ ?_, rfl⟩
    · refine I128.InRange.of_le (m := 10000) (by decide) hkeep.le (feeFactor_le feeBps)
    · exact Int.tdiv_le_self _ hscaled
    · change x + afterFee a (feeFactor feeBps) 10000 ≠ 0
      omega
    · exact Int.tdiv_nonneg (mul_nonneg hy.le hnet) (by omega)
    · exact Int.tdiv_le_self _ (mul_nonneg hy.le hnet)

theorem getAmountIn_iff (hx : 0 < x) (hd : 0 < d) (hdy : d < y) (hfee : feeBps ≤ maxFeeBps) :
    getAmountIn d x y feeBps = .ok a ↔
      I128.InRange (x * d * 10000 + (y - d) * feeFactor feeBps) ∧
        a = inputAtOnce x y d (feeFactor feeBps) 10000 := by
  have hkeep := feeFactor_pos hfee
  have hproduct : 0 < x * d := mul_pos hx hd
  have hleft : 0 < (y - d) * feeFactor feeBps := mul_pos (by omega) hkeep
  have hone : y - d ≤ (y - d) * feeFactor feeBps := le_mul_of_one_le_right (by omega) hkeep
  unfold getAmountIn ceilDiv
  simp only [panicIf_bind, I128.sub_bind, I128.mul_bind, I128.add_bind, I128.div_ok]
  change _ ∧ _ ∧ _ ∧ _ ∧ _ ∧ I128.InRange ((y - d) * feeFactor feeBps) ∧
    ¬ (y - d) * feeFactor feeBps ≤ 0 ∧ _ ∧
    I128.InRange (x * d * 10000 + (y - d) * feeFactor feeBps) ∧
    I128.InRange (x * d * 10000 + (y - d) * feeFactor feeBps - 1) ∧
    (y - d) * feeFactor feeBps ≠ 0 ∧
    I128.InRange (inputAtOnce x y d (feeFactor feeBps) 10000) ∧
    inputAtOnce x y d (feeFactor feeBps) 10000 = a ↔ _
  constructor
  · rintro ⟨-, -, -, -, -, -, -, -, hsum, -, -, -, rfl⟩
    exact ⟨hsum, rfl⟩
  · rintro ⟨hsum, rfl⟩
    have hpred : 0 ≤ x * d * 10000 + (y - d) * feeFactor feeBps - 1 := by omega
    have hpred' := hsum.of_le hpred (by omega)
    refine ⟨by omega, hsum.of_le hproduct.le (by omega), hsum.of_le (by omega) (by omega),
      hsum.of_le (by omega) (by omega), ?_, hsum.of_le hleft.le (by omega), by omega, by omega,
      hsum, hpred', hleft.ne', hpred'.of_le (Int.tdiv_nonneg hpred hleft.le)
      (Int.tdiv_le_self _ hpred), rfl⟩
    exact I128.InRange.of_le (m := 10000) (by decide) hkeep.le (feeFactor_le feeBps)

/-- Some ordinary swap that pays no more than `charged` yields `d`. -/
def CoversSwap (charged d x y : ℤ) (feeBps : ℕ) : Prop :=
  ∃ a ≤ charged, ∃ out, getAmountOut a x y feeBps = .ok out ∧ d ≤ out

/-- `get_amount_in` names the least input that buys `d`. -/
def ExactInverse (d x y : ℤ) (feeBps : ℕ) : Prop :=
  ∃ a out, getAmountIn d x y feeBps = .ok a ∧ getAmountOut a x y feeBps = .ok out ∧ d ≤ out ∧
    ∀ b < a, ∃ less, getAmountOut b x y feeBps = .ok less ∧ less < d

/-- What the two quotes compute stays within the integers. -/
def ProductsFit (d x y : ℤ) (feeBps : ℕ) : Prop :=
  I128.InRange (x * d * 10000 + (y - d) * (10000 - feeBps)) ∧
    I128.InRange (y * ConstantProduct.ceilQuot (x * d) (y - d))

/-- The single ceiling lifts its fraction at least as far as a ceiling of the first fraction. -/
def RoundsTogether (d x y : ℤ) (feeBps : ℕ) : Prop :=
  10000 * (-(x * d) % (y - d)) ≤ -(x * d * 10000) % ((y - d) * (10000 - feeBps))

instance : Decidable (ProductsFit d x y feeBps) := inferInstanceAs (Decidable (_ ∧ _))

instance : Decidable (RoundsTogether d x y feeBps) := inferInstanceAs (Decidable (_ ≤ _))

section Inverse

variable (hx : 0 < x) (hd : 0 < d) (hdy : d < y) (hfee : feeBps ≤ maxFeeBps)

include hx hd hdy hfee

theorem roundsTogether_iff : RoundsTogether d x y feeBps ↔
    inputFor x y d (feeFactor feeBps) 10000 ≤ inputAtOnce x y d (feeFactor feeBps) 10000 := by
  have hkeep := feeFactor_pos hfee
  have hproduct : 0 < x * d := mul_pos hx hd
  have hleft : 0 < y - d := by omega
  rw [ConstantProduct.inputFor_le_atOnce_iff hx hd.le hdy hkeep (by omega),
    ConstantProduct.lifted_eq_emod hproduct.le hleft,
    ConstantProduct.lifted_eq_emod (by omega) (mul_pos hleft hkeep), mul_comm _ (10000 : ℤ)]
  rfl

/-- A completed quote buys `d` exactly if the input is at least what both ceilings require. -/
theorem le_getAmountOut_iff (h : getAmountOut a x y feeBps = .ok out) :
    d ≤ out ↔ 0 < a ∧ inputFor x y d (feeFactor feeBps) 10000 ≤ a := by
  rcases le_or_gt a 0 with ha | ha
  · rw [getAmountOut_of_nonpos ha] at h
    cases h
    omega
  · obtain ⟨-, rfl⟩ := (getAmountOut_iff ha hx (hd.trans hdy) hfee).mp h
    rw [ConstantProduct.le_outFor_afterFee_iff hx hd.le hdy (feeFactor_pos hfee) (by omega) ha.le]
    exact (and_iff_right ha).symm

/-- Up to what both ceilings require, no quote buys with more than the net amount for `d`. -/
theorem afterFee_le_netFor (ha : 0 ≤ a) (hle : a ≤ inputFor x y d (feeFactor feeBps) 10000) :
    afterFee a (feeFactor feeBps) 10000 ≤ netFor x y d := by
  have hkeep := feeFactor_pos hfee
  exact (ConstantProduct.afterFee_mono ha hle hkeep.le (by omega)).trans
    (ConstantProduct.afterFee_inputFor_le hx hd.le hdy hkeep (feeFactor_le feeBps))

/-- Where `get_amount_in` completes, the quotes for up to that much overflow in the last
product at most. -/
theorem outFits_of_le (hin : getAmountIn d x y feeBps = .ok charged)
    (hfit : I128.InRange (y * netFor x y d)) (ha : 0 < a) (hle : a ≤ charged) :
    OutFits a x y feeBps := by
  have hkeep := feeFactor_pos hfee
  have hproduct : 0 < x * d := mul_pos hx hd
  have hleft : 0 < y - d := by omega
  obtain ⟨hsum, rfl⟩ := (getAmountIn_iff hx hd hdy hfee).mp hin
  have hnet : 0 ≤ afterFee a (feeFactor feeBps) 10000 :=
    ConstantProduct.afterFee_nonneg ha.le hkeep.le (by omega)
  have hneed := afterFee_le_netFor hx hd hdy hfee ha.le
    (hle.trans (ConstantProduct.inputAtOnce_le hx hd.le hdy hkeep (by omega)))
  have hscaled : 0 < a * feeFactor feeBps := mul_pos ha hkeep
  have hbound : a * feeFactor feeBps ≤ x * d * 10000 + (y - d) * feeFactor feeBps := by
    have hlt := ConstantProduct.ceilQuot_mul_lt (a := x * d * 10000) (by omega) (mul_pos hleft hkeep)
    have hmono : a * ((y - d) * feeFactor feeBps) ≤
        inputAtOnce x y d (feeFactor feeBps) 10000 * ((y - d) * feeFactor feeBps) :=
      mul_le_mul_of_nonneg_right hle (mul_nonneg hleft.le hkeep.le)
    have hone : a * feeFactor feeBps ≤ (y - d) * (a * feeFactor feeBps) :=
      le_mul_of_one_le_left hscaled.le hleft
    unfold inputAtOnce at hmono
    linarith
  refine ⟨hsum.of_le hscaled.le hbound, hfit.of_le (mul_nonneg (hd.trans hdy).le hnet) ?_,
    hsum.of_le (by omega) ?_⟩
  · exact mul_le_mul_of_nonneg_left hneed (hd.trans hdy).le
  · -- Both summands are a ten-thousandth of terms of the sum that fits.
    have hfloor := I128.tdiv_mul_le hscaled.le (show (0 : ℤ) < 10000 by omega)
    have hone : x ≤ x * d := le_mul_of_one_le_right hx.le hd
    have hrest : 0 < (y - d) * feeFactor feeBps := mul_pos hleft hkeep
    change afterFee a (feeFactor feeBps) 10000 * 10000 ≤ _ at hfloor
    omega

/-- The charge is enough for an ordinary swap exactly if the last product fits and the
remainders agree. -/
theorem coversSwap_iff (hin : getAmountIn d x y feeBps = .ok charged) :
    CoversSwap charged d x y feeBps ↔ ProductsFit d x y feeBps ∧ RoundsTogether d x y feeBps := by
  have hkeep := feeFactor_pos hfee
  obtain ⟨hsum, hcharged⟩ := (getAmountIn_iff hx hd hdy hfee).mp hin
  rw [roundsTogether_iff hx hd hdy hfee, ← hcharged]
  constructor
  · rintro ⟨a, hle, out, hquote, hd'⟩
    obtain ⟨ha, hneed⟩ := (le_getAmountOut_iff hx hd hdy hfee hquote).mp hd'
    obtain ⟨hfits, -⟩ := (getAmountOut_iff ha hx (hd.trans hdy) hfee).mp hquote
    refine ⟨⟨hsum, hfits.bought.of_le ?_ ?_⟩, hneed.trans hle⟩
    · exact mul_nonneg (hd.trans hdy).le (ConstantProduct.netFor_nonneg hx hd.le hdy)
    · exact mul_le_mul_of_nonneg_left
        ((ConstantProduct.netFor_le_afterFee_iff hx hd.le hdy hkeep (by omega) ha.le).mpr hneed)
        (hd.trans hdy).le
  · rintro ⟨⟨-, hfit⟩, hneed⟩
    have hpos : 0 < charged := by
      rw [hcharged]
      exact ConstantProduct.ceilQuot_pos (by have := mul_pos hx hd; omega)
        (mul_pos (by omega) hkeep)
    have hquote := (getAmountOut_iff hpos hx (hd.trans hdy) hfee).mpr
      ⟨outFits_of_le hx hd hdy hfee hin hfit hpos le_rfl, rfl⟩
    exact ⟨charged, le_rfl, _, hquote,
      (le_getAmountOut_iff hx hd hdy hfee hquote).mpr ⟨hpos, hneed⟩⟩

/-- Less than the charge never buys `d`. -/
theorem getAmountOut_lt (hin : getAmountIn d x y feeBps = .ok charged)
    (hfit : I128.InRange (y * netFor x y d)) (ha : a < charged) :
    ∃ less, getAmountOut a x y feeBps = .ok less ∧ less < d := by
  rcases le_or_gt a 0 with hneg | hpos
  · exact ⟨0, getAmountOut_of_nonpos hneg, hd⟩
  · have hquote := (getAmountOut_iff hpos hx (hd.trans hdy) hfee).mpr
      ⟨outFits_of_le hx hd hdy hfee hin hfit hpos ha.le, rfl⟩
    refine ⟨_, hquote, ?_⟩
    by_contra hge
    obtain ⟨-, hneed⟩ := (le_getAmountOut_iff hx hd hdy hfee hquote).mp (not_lt.mp hge)
    have hle := ConstantProduct.inputAtOnce_le hx hd.le hdy (feeFactor_pos hfee)
      (show (0 : ℤ) < 10000 by omega)
    have hcharged := ((getAmountIn_iff hx hd hdy hfee).mp hin).2
    omega

theorem exactInverse_iff :
    ExactInverse d x y feeBps ↔ ProductsFit d x y feeBps ∧ RoundsTogether d x y feeBps := by
  constructor
  · rintro ⟨charged, out, hin, hquote, hd', -⟩
    exact (coversSwap_iff hx hd hdy hfee hin).mp ⟨charged, le_rfl, out, hquote, hd'⟩
  · rintro ⟨hfit, hrounds⟩
    have hin := (getAmountIn_iff hx hd hdy hfee).mpr ⟨hfit.1, rfl⟩
    obtain ⟨a, hle, out, hquote, hd'⟩ := (coversSwap_iff hx hd hdy hfee hin).mpr ⟨hfit, hrounds⟩
    -- Nothing below the charge buys `d`, so the swap that does pays all of it.
    rcases hle.lt_or_eq with hlt | rfl
    · obtain ⟨less, hless, hlow⟩ := getAmountOut_lt hx hd hdy hfee hin hfit.2 hlt
      cases hquote.symm.trans hless
      omega
    · exact ⟨_, out, hin, hquote, hd', fun b hb => getAmountOut_lt hx hd hdy hfee hin hfit.2 hb⟩

end Inverse

section Flash

variable {τ : Type} {tok : Token τ} {self : Address}

/-- `get_amount_in` inverts `get_amount_out`, and a flash swap charges as much as some ordinary
swap for the same output, exactly where the products fit and the remainders agree. -/
theorem getAmountIn_inverse_iff :
    (∀ {d x y : ℤ} {feeBps : ℕ}, 0 < x → 0 < d → d < y → feeBps ≤ maxFeeBps →
      (ExactInverse d x y feeBps ↔ ProductsFit d x y feeBps ∧ RoundsTogether d x y feeBps)) ∧
    ∀ {s : State τ} {env : Env} {borrower tokenIn tokenOut : Address} {id : ℕ} {d most : ℤ}
      {r : ℤ × State τ}, Reachable tok self s →
      flashSwap tok self env borrower id tokenOut d tokenIn most s = .ok r →
      ∃ pool aToB, s.pool.get? id = some pool ∧
        tokenIn = pool.tokenIn aToB ∧ tokenOut = pool.tokenOut aToB ∧
        (CoversSwap r.1 d (pool.reserveIn aToB) (pool.reserveOut aToB) pool.feeBps ↔
          ProductsFit d (pool.reserveIn aToB) (pool.reserveOut aToB) pool.feeBps ∧
            RoundsTogether d (pool.reserveIn aToB) (pool.reserveOut aToB) pool.feeBps) := by
  refine ⟨fun hx hd hdy hfee => exactInverse_iff hx hd hdy hfee, ?_⟩
  intro s env borrower tokenIn tokenOut id d most r hs h
  obtain ⟨-, pool, aToB, hk, hin, hout, hquote⟩ := flashSwap_effect h
  have hcap := (hs.wellFormed.pools id pool hk).2.2.capped
  obtain ⟨hd, hx, hdy, -, -⟩ := getAmountIn_ok hquote
  exact ⟨pool, aToB, hk, hin, hout, coversSwap_iff hx hd hdy hcap hquote⟩

open Sample in
/-- For five hundred the remainders agree. -/
theorem getAmountIn_inverse_iff_agrees :
    ExactInverse 500 10000 20000 30 ∧
      ∃ s r pool, run (opened 10000 20000) = .ok s ∧
        flashSwap asset contract env bob 0 usdc 500 xlm 1000 s = .ok r ∧ r.1 = 258 ∧
        s.pool.get? 0 = some pool ∧ CoversSwap r.1 500 pool.reserveA pool.reserveB pool.feeBps := by
  refine ⟨((@getAmountIn_inverse_iff _ asset contract).1 (by decide) (by decide) (by decide)
    (by decide)).mpr (by decide), ?_⟩
  have h : After (fun s => (∃ pool ∈ s.pool.get? 0, pool.tokenA = xlm ∧
        pool.reserveA = 10000 ∧ pool.reserveB = 20000 ∧ pool.feeBps = 30) ∧
      After (fun r => r.1 = 258) (flashSwap asset contract env bob 0 usdc 500 xlm 1000 s))
      (run (opened 10000 20000)) := by
    decide +kernel
  obtain ⟨s, hs, ⟨pool, hk, hxlm, hA, hB, hfee⟩, hflash⟩ := h.exists_ok
  obtain ⟨r, hr, hcharged⟩ := hflash.exists_ok
  obtain ⟨pool', aToB, hk', hin, hout, hcovers⟩ :=
    getAmountIn_inverse_iff.2 (run_reachable hs) hr
  obtain rfl : pool = pool' := Option.some.inj (hk.symm.trans hk')
  have hdirection : aToB = true := by
    cases aToB
    · simp only [Pool.tokenOut, Bool.false_eq_true, if_false, hxlm] at hout
      cases hout
    · rfl
  subst hdirection
  refine ⟨s, r, pool, hs, hr, hcharged, hk, hcovers.mpr ?_⟩
  simp only [Pool.reserveIn, Pool.reserveOut, if_true, hA, hB, hfee]
  decide

open Sample in
/-- The pool of the unit test: what repays a flash swap of a thousand buys one less. -/
theorem getAmountIn_falls_short :
    getAmountIn 1000 100000 100000 30 = .ok 1014 ∧ getAmountOut 1014 100000 100000 30 = .ok 999 ∧
      ¬ ExactInverse 1000 100000 100000 30 ∧
      ∃ s r, run (opened 100000 100000) = .ok s ∧
        flashSwap asset contract env bob 0 usdc 1000 xlm 2000 s = .ok r ∧ r.1 = 1014 ∧
        ¬ CoversSwap r.1 1000 100000 100000 30 := by
  have hin : getAmountIn 1000 100000 100000 30 = .ok 1014 := by decide +kernel
  have h : After (fun s => After (fun r => r.1 = 1014)
      (flashSwap asset contract env bob 0 usdc 1000 xlm 2000 s))
      (run (opened 100000 100000)) := by
    decide +kernel
  obtain ⟨s, hs, hflash⟩ := h.exists_ok
  obtain ⟨r, hr, hcharged⟩ := hflash.exists_ok
  refine ⟨hin, by decide +kernel, ?_, s, r, hs, hr, hcharged, ?_⟩
  · rw [exactInverse_iff (by decide) (by decide) (by decide) (by decide)]
    decide
  · rw [hcharged, coversSwap_iff (by decide) (by decide) (by decide) (by decide) hin]
    decide

end Flash

end Amm
