import StellAIverse.Amm.Math
import StellAIverse.PredictionMarket.Math
import StellAIverse.PortfolioManager.Contract

/-!
# The square roots of three contracts

The exchange, the prediction market and the portfolio manager each carry their
own copy of the Newton loop. They differ on negative arguments only: the first
two panic and the third returns zero.
-/

namespace SquareRoot

open Soroban

/-- The exchange and the market write the same function. -/
theorem isqrt_eq_isqrt (n : ℤ) : PredictionMarket.isqrt n = Amm.isqrt n := rfl

/-- The portfolio manager's copy agrees with them wherever they do not panic. -/
theorem isqrt_eq_of_nonneg {n : ℤ} (h0 : 0 ≤ n) : PortfolioManager.isqrt n = Amm.isqrt n := by
  unfold PortfolioManager.isqrt Amm.isqrt newtonSqrt
  rw [if_neg (not_lt.mpr h0), panicIf_of_not (not_lt.mpr h0), ok_bind]

/-- For every argument below the largest integer each copy returns the floor of
the root. A positive argument has a first estimate, and from it the loop stops
after finitely many steps, none of which overflows or divides by zero. -/
theorem isqrt_floor {n : ℤ} (h0 : 0 ≤ n) (hmax : n < I128.max) :
    ∃ r, Amm.isqrt n = .ok r ∧ PredictionMarket.isqrt n = .ok r ∧
      PortfolioManager.isqrt n = .ok r ∧
      (0 < n → ∃ sum y, I128.add n 1 = .ok sum ∧ I128.div sum 2 = .ok y ∧ NewtonRun n n y r) ∧
      r * r ≤ n ∧ n < (r + 1) * (r + 1) := by
  have hfloor : ((Nat.sqrt n.toNat : ℕ) : ℤ) * (Nat.sqrt n.toNat : ℕ) ≤ n ∧
      n < (((Nat.sqrt n.toNat : ℕ) : ℤ) + 1) * ((Nat.sqrt n.toNat : ℕ) + 1) := by
    obtain ⟨k, rfl⟩ : ∃ k : ℕ, n = k := ⟨n.toNat, by omega⟩
    exact ⟨by exact_mod_cast Nat.sqrt_le k, by exact_mod_cast Nat.lt_succ_sqrt k⟩
  have hruns : 0 < n → ∃ sum y, I128.add n 1 = .ok sum ∧ I128.div sum 2 = .ok y ∧
      NewtonRun n n y (Nat.sqrt n.toNat : ℕ) ∧ Amm.isqrt n = .ok (Nat.sqrt n.toNat : ℕ) :=
    fun hpos => newtonSqrt_runs hpos hmax
  have hamm : Amm.isqrt n = .ok ((Nat.sqrt n.toNat : ℕ) : ℤ) := by
    rcases h0.eq_or_lt with rfl | hpos
    · rfl
    · obtain ⟨_, _, -, -, -, hroot⟩ := hruns hpos
      exact hroot
  refine ⟨_, hamm, by rw [isqrt_eq_isqrt, hamm], by rw [isqrt_eq_of_nonneg h0, hamm],
    fun hpos => ?_, hfloor⟩
  obtain ⟨sum, y, hsum, hy, hrun, -⟩ := hruns hpos
  exact ⟨sum, y, hsum, hy, hrun⟩

theorem isqrt_floor_seventeen : (0 : ℤ) ≤ 17 ∧ 17 < I128.max ∧
    ∃ r, Amm.isqrt 17 = .ok r ∧ PredictionMarket.isqrt 17 = .ok r ∧
      PortfolioManager.isqrt 17 = .ok r ∧
      ((0 : ℤ) < 17 →
        ∃ sum y, I128.add 17 1 = .ok sum ∧ I128.div sum 2 = .ok y ∧ NewtonRun 17 17 y r) ∧
      r * r ≤ 17 ∧ 17 < (r + 1) * (r + 1) :=
  ⟨by decide, by decide, isqrt_floor (by decide) (by decide)⟩

end SquareRoot
