import StellAIverse.Soroban.Result

/-!
# Quotes along a constant-product curve

An input loses its fee, rounded down, and buys an output, rounded down again. The least input
that buys a given output is found by undoing both steps, each with a ceiling; a single ceiling
of the two fractions together never asks for more, and sometimes for less.
-/

namespace Soroban

namespace ConstantProduct

variable {a b c d n x y net keep whole : ℤ}

/-- Smallest integer not below `a / b`, as truncating division computes it. -/
def ceilQuot (a b : ℤ) : ℤ := (a + b - 1).tdiv b

/-- How far the ceiling lifts `a` to reach a multiple of `b`. -/
def lifted (a b : ℤ) : ℤ := ceilQuot a b * b - a

theorem le_tdiv_iff (ha : 0 ≤ a) (hb : 0 < b) : n ≤ a.tdiv b ↔ n * b ≤ a := by
  rw [Int.tdiv_eq_ediv_of_nonneg ha]
  exact Int.le_ediv_iff_mul_le hb

theorem ceilQuot_le_iff (ha : 0 ≤ a) (hb : 0 < b) : ceilQuot a b ≤ n ↔ a ≤ n * b := by
  unfold ceilQuot
  rw [Int.tdiv_eq_ediv_of_nonneg (by omega), ← Int.lt_add_one_iff, Int.ediv_lt_iff_lt_mul hb,
    add_mul, one_mul]
  omega

theorem le_ceilQuot_mul (ha : 0 ≤ a) (hb : 0 < b) : a ≤ ceilQuot a b * b :=
  (ceilQuot_le_iff ha hb).mp le_rfl

theorem ceilQuot_mul_lt (ha : 0 ≤ a) (hb : 0 < b) : ceilQuot a b * b < a + b := by
  have hfloor : (a + b - 1).tdiv b * b ≤ a + b - 1 := I128.tdiv_mul_le (by omega) hb
  unfold ceilQuot
  omega

theorem ceilQuot_nonneg (ha : 0 ≤ a) (hb : 0 < b) : 0 ≤ ceilQuot a b :=
  Int.tdiv_nonneg (by omega) hb.le

theorem ceilQuot_pos (ha : 0 < a) (hb : 0 < b) : 0 < ceilQuot a b := by
  by_contra hnone
  have hle := (ceilQuot_le_iff ha.le hb).mp (not_lt.mp hnone)
  omega

/-- The ceiling is least for a multiple of what it was taken of, too, only while one unit is
enough. -/
theorem ceilQuot_least_mul_iff {k : ℤ} (ha : 0 < a) (hb : 0 < b) (hk : 1 ≤ k) :
    IsLeast {m | a * k ≤ m * b} (ceilQuot a b) ↔ k = 1 ∨ a * k ≤ b := by
  have hpos := ceilQuot_pos ha hb
  constructor
  · rintro ⟨henough, -⟩
    have hlt := ceilQuot_mul_lt ha.le hb
    by_contra hnone
    rw [not_or, not_le] at hnone
    have hdouble : a * 2 ≤ a * k := mul_le_mul_of_nonneg_left (by omega) ha.le
    rcases (show ceilQuot a b = 1 ∨ 2 ≤ ceilQuot a b by omega) with hone | htwo
    · have hle : a * k ≤ ceilQuot a b * b := henough
      rw [hone, one_mul] at hle
      omega
    · have hle : a * k ≤ ceilQuot a b * b := henough
      have hmore : 2 * b ≤ ceilQuot a b * b := mul_le_mul_of_nonneg_right htwo hb.le
      omega
  · rintro (rfl | hunit)
    · refine ⟨?_, fun m hm => (ceilQuot_le_iff ha.le hb).mpr ?_⟩
      · change a * 1 ≤ ceilQuot a b * b
        rw [mul_one]
        exact le_ceilQuot_mul ha.le hb
      · have hle : a * 1 ≤ m * b := hm
        rwa [mul_one] at hle
    · have hle : a ≤ a * k := le_mul_of_one_le_right ha.le hk
      have hone : ceilQuot a b = 1 :=
        le_antisymm ((ceilQuot_le_iff ha.le hb).mpr (by omega)) hpos
      rw [hone]
      refine ⟨by simpa using hunit, fun m hm => ?_⟩
      have hproduct : 0 < m * b := (mul_pos ha (by omega)).trans_le hm
      exact (mul_pos_iff_of_pos_right hb).mp hproduct

/-- The lift is the remainder that is missing. -/
theorem lifted_eq_emod (ha : 0 ≤ a) (hb : 0 < b) : lifted a b = -a % b := by
  have hlow := le_ceilQuot_mul ha hb
  have hhigh := ceilQuot_mul_lt ha hb
  unfold lifted
  have hshift : -a = ceilQuot a b * b - a + b * -ceilQuot a b := by ring
  rw [hshift, Int.add_mul_emod_self_left, Int.emod_eq_of_lt (by omega) (by omega)]

/-- What is left of an input of which `keep` parts in `whole` are kept. -/
def afterFee (amount keep whole : ℤ) : ℤ := (amount * keep).tdiv whole

/-- What `net` buys from reserves `x` and `y`. -/
def outFor (x y net : ℤ) : ℤ := (y * net).tdiv (x + net)

/-- What buys at least `d`, after the fee. -/
def netFor (x y d : ℤ) : ℤ := ceilQuot (x * d) (y - d)

/-- What buys at least `d`, with both steps undone one after the other. -/
def inputFor (x y d keep whole : ℤ) : ℤ := ceilQuot (netFor x y d * whole) keep

/-- The same, with one ceiling of both fractions. -/
def inputAtOnce (x y d keep whole : ℤ) : ℤ := ceilQuot (x * d * whole) ((y - d) * keep)

theorem afterFee_nonneg (ha : 0 ≤ a) (hk : 0 ≤ keep) (hw : 0 < whole) :
    0 ≤ afterFee a keep whole :=
  Int.tdiv_nonneg (mul_nonneg ha hk) hw.le

theorem le_outFor_iff (hx : 0 < x) (hy : 0 ≤ y) (hnet : 0 ≤ net) :
    d ≤ outFor x y net ↔ x * d ≤ net * (y - d) := by
  unfold outFor
  rw [le_tdiv_iff (mul_nonneg hy hnet) (by omega)]
  constructor <;>
  · intro h
    linarith

theorem netFor_le_iff (hx : 0 < x) (hd : 0 ≤ d) (hdy : d < y) :
    netFor x y d ≤ n ↔ x * d ≤ n * (y - d) :=
  ceilQuot_le_iff (mul_nonneg hx.le hd) (by omega)

theorem netFor_nonneg (hx : 0 < x) (hd : 0 ≤ d) (hdy : d < y) : 0 ≤ netFor x y d :=
  ceilQuot_nonneg (mul_nonneg hx.le hd) (by omega)

theorem netFor_le_afterFee_iff (hx : 0 < x) (hd : 0 ≤ d) (hdy : d < y) (hk : 0 < keep)
    (hw : 0 < whole) (hc : 0 ≤ c) :
    netFor x y d ≤ afterFee c keep whole ↔ inputFor x y d keep whole ≤ c := by
  have hnet := netFor_nonneg hx hd hdy
  unfold afterFee inputFor
  rw [le_tdiv_iff (mul_nonneg hc hk.le) hw, ceilQuot_le_iff (mul_nonneg hnet hw.le) hk]

/-- The two ceilings undo the two floors: buying and what it requires are adjoint. -/
theorem le_outFor_afterFee_iff (hx : 0 < x) (hd : 0 ≤ d) (hdy : d < y) (hk : 0 < keep)
    (hw : 0 < whole) (hc : 0 ≤ c) :
    d ≤ outFor x y (afterFee c keep whole) ↔ inputFor x y d keep whole ≤ c := by
  have hnet := afterFee_nonneg hc hk.le hw
  rw [le_outFor_iff hx (by omega) hnet, ← netFor_le_iff hx hd hdy,
    netFor_le_afterFee_iff hx hd hdy hk hw hc]

/-- One ceiling asks for no more than two. -/
theorem inputAtOnce_le (hx : 0 < x) (hd : 0 ≤ d) (hdy : d < y) (hk : 0 < keep)
    (hw : 0 < whole) : inputAtOnce x y d keep whole ≤ inputFor x y d keep whole := by
  have hproduct : 0 ≤ x * d := mul_nonneg hx.le hd
  have hleft : 0 < y - d := by omega
  have hinner : x * d ≤ netFor x y d * (y - d) := le_ceilQuot_mul hproduct hleft
  have houter : netFor x y d * whole ≤ inputFor x y d keep whole * keep :=
    le_ceilQuot_mul (mul_nonneg (netFor_nonneg hx hd hdy) hw.le) hk
  refine (ceilQuot_le_iff (mul_nonneg hproduct hw.le) (mul_pos hleft hk)).mpr ?_
  calc x * d * whole ≤ netFor x y d * (y - d) * whole := mul_le_mul_of_nonneg_right hinner hw.le
    _ = netFor x y d * whole * (y - d) := by ring
    _ ≤ inputFor x y d keep whole * keep * (y - d) := mul_le_mul_of_nonneg_right houter hleft.le
    _ = inputFor x y d keep whole * ((y - d) * keep) := by ring

/-- It asks for enough exactly if it lifts at least as far as the inner ceiling alone. -/
theorem inputFor_le_atOnce_iff (hx : 0 < x) (hd : 0 ≤ d) (hdy : d < y) (hk : 0 < keep)
    (hw : 0 < whole) :
    inputFor x y d keep whole ≤ inputAtOnce x y d keep whole ↔
      lifted (x * d) (y - d) * whole ≤ lifted (x * d * whole) ((y - d) * keep) := by
  have hleft : 0 < y - d := by omega
  have hnet := netFor_nonneg hx hd hdy
  unfold inputFor lifted
  rw [ceilQuot_le_iff (mul_nonneg hnet hw.le) hk, ← mul_le_mul_iff_left₀ hleft]
  unfold inputAtOnce netFor
  generalize ceilQuot (x * d) (y - d) = inner
  generalize ceilQuot (x * d * whole) ((y - d) * keep) = outer
  constructor <;>
  · intro h
    linarith

/-- Where a fee is less than the whole, what either asks for leaves no more than is needed. -/
theorem afterFee_inputFor_le (hx : 0 < x) (hd : 0 ≤ d) (hdy : d < y) (hk : 0 < keep)
    (hkw : keep ≤ whole) : afterFee (inputFor x y d keep whole) keep whole ≤ netFor x y d := by
  have hw : 0 < whole := by omega
  have hscaled : 0 ≤ netFor x y d * whole := mul_nonneg (netFor_nonneg hx hd hdy) hw.le
  have hinput : 0 ≤ inputFor x y d keep whole := ceilQuot_nonneg hscaled hk
  have hlt : inputFor x y d keep whole * keep < netFor x y d * whole + keep :=
    ceilQuot_mul_lt hscaled hk
  have hfloor := I128.tdiv_mul_le (mul_nonneg hinput hk.le) hw
  have hstep : afterFee (inputFor x y d keep whole) keep whole * whole <
      (netFor x y d + 1) * whole := by
    unfold afterFee
    linarith
  have := lt_of_mul_lt_mul_right hstep hw.le
  omega

theorem afterFee_mono (ha : 0 ≤ a) (hab : a ≤ b) (hk : 0 ≤ keep) (hw : 0 < whole) :
    afterFee a keep whole ≤ afterFee b keep whole := by
  have hscaled : a * keep ≤ b * keep := mul_le_mul_of_nonneg_right hab hk
  unfold afterFee
  rw [le_tdiv_iff (mul_nonneg (ha.trans hab) hk) hw]
  exact (I128.tdiv_mul_le (mul_nonneg ha hk) hw).trans hscaled

end ConstantProduct

end Soroban
