import Mathlib.Data.Nat.Sqrt
import StellAIverse.Soroban.Result

/-!
# Newton's integer square root

The loop `while y < x { x = y; y = (x + n / x) / 2; }`. An estimate that is
not below the root stays so, and the loop stops exactly when it is not above.
-/

namespace Soroban

/-- The estimate `x` strictly falls, so its starting value is fuel enough. -/
def newtonLoop (n : ℤ) : ℕ → ℤ → ℤ → Result ℤ
  | 0, x, _ => .ok x
  | fuel + 1, x, y =>
    if y < x then do
      let quotient ← I128.div n y
      let sum ← I128.add y quotient
      let next ← I128.div sum 2
      newtonLoop n fuel y next
    else .ok x

/-- The square root as the contracts write it, with their message for a negative
argument. -/
def newtonSqrt (message : String) (n : ℤ) : Result ℤ := do
  panicIf (n < 0) message
  if n = 0 then .ok 0 else do
    let sum ← I128.add n 1
    let y ← I128.div sum 2
    newtonLoop n n.toNat n y

/-- The next estimate, on naturals. -/
def newtonNext (n x : ℕ) : ℕ := (x + n / x) / 2

theorem lt_newtonNext_succ_sq {n x : ℕ} (hx : 0 < x) :
    n < (newtonNext n x + 1) * (newtonNext n x + 1) := by
  have hq : n < (n / x + 1) * x := by
    rw [mul_comm]
    exact Nat.lt_mul_div_succ n hx
  have hy : x + n / x + 1 ≤ 2 * (newtonNext n x + 1) := by unfold newtonNext; omega
  generalize newtonNext n x = y at hy ⊢
  generalize n / x = q at hq hy
  have hsq : (q + 1) * x ≤ (y + 1) * (y + 1) := by
    zify at hy ⊢
    nlinarith [sq_nonneg ((y : ℤ) + 1 - x)]
  omega

theorem mul_self_le_of_le_newtonNext {n x : ℕ} (h : x ≤ newtonNext n x) :
    x * x ≤ n := by
  have hq : x ≤ n / x := by unfold newtonNext at h; omega
  calc x * x ≤ n / x * x := Nat.mul_le_mul_right x hq
    _ ≤ n := Nat.div_mul_le_self n x

theorem newtonLoop_ok {n : ℕ} (fuel x : ℕ) (hx : 0 < x) (hf : x ≤ fuel)
    (hn : n < (x + 1) * (x + 1)) {r : ℤ} (h : newtonLoop n fuel x (newtonNext n x) = .ok r) :
    r = (Nat.sqrt n : ℕ) := by
  induction fuel generalizing x with
  | zero => omega
  | succ fuel ih =>
    unfold newtonLoop at h
    have hnext := lt_newtonNext_succ_sq (n := n) hx
    by_cases hlt : newtonNext n x < x
    · rw [if_pos (by exact_mod_cast hlt)] at h
      generalize newtonNext n x = y at h hlt hnext
      simp only [I128.div_bind, I128.add_bind] at h
      obtain ⟨hy, -, -, -, -, h⟩ := h
      have hy0 : y ≠ 0 := by exact_mod_cast hy
      exact ih y (by omega) (by omega) hnext h
    · rw [if_neg (by exact_mod_cast hlt)] at h
      cases h
      have hle := mul_self_le_of_le_newtonNext (not_lt.mp hlt)
      rw [Nat.eq_sqrt.mpr ⟨hle, hn⟩]

/-- A completed square root is the floor of the real one. -/
theorem newtonSqrt_ok {message : String} {n r : ℤ} (h : newtonSqrt message n = .ok r) :
    0 ≤ n ∧ r = (Nat.sqrt n.toNat : ℕ) := by
  unfold newtonSqrt at h
  rw [panicIf_bind] at h
  obtain ⟨hn, h⟩ := h
  obtain ⟨k, rfl⟩ : ∃ k : ℕ, n = k := ⟨n.toNat, by omega⟩
  refine ⟨by omega, ?_⟩
  split at h
  · rename_i h0
    cases h
    simp [h0]
  · have hk : 0 < k := by omega
    simp only [I128.add_bind, I128.div_bind, Int.toNat_natCast] at h
    obtain ⟨-, -, -, h⟩ := h
    have hy : ((k : ℤ) + 1).tdiv 2 = (newtonNext k k : ℕ) := by
      rw [newtonNext, Nat.div_self hk]
      rfl
    rw [hy] at h
    rw [Int.toNat_natCast]
    exact newtonLoop_ok k k hk le_rfl (by nlinarith) h

theorem newtonNext_pos {n x : ℕ} (hn : 0 < n) (hx : 0 < x) : 0 < newtonNext n x := by
  have hsum : 2 ≤ x + n / x := by
    rcases Nat.lt_or_ge n x with hlt | hge
    · exact le_trans (by omega) (Nat.le_add_right x _)
    · have := Nat.div_pos hge hx
      omega
  unfold newtonNext
  omega

/-- Every estimate of a positive number is positive, so no step divides by zero. -/
theorem newtonLoop_avoids {n : ℕ} (hn : 0 < n) {e : Fault} (he : e ≠ .overflow)
    (fuel x y : ℕ) (hy : 0 < y) : Avoids e (newtonLoop n fuel x y) := by
  induction fuel generalizing x y with
  | zero => exact avoids_ok _
  | succ fuel ih =>
    unfold newtonLoop
    split
    · refine (I128.div_avoids (by omega) he).bind fun quotient hq => ?_
      refine (I128.fit_avoids he).bind fun sum hsum => ?_
      refine (I128.div_avoids (by omega) he).bind fun next hnext => ?_
      obtain ⟨-, -, rfl⟩ := I128.div_ok.mp hq
      obtain ⟨-, rfl⟩ := I128.fit_ok.mp hsum
      obtain ⟨-, -, rfl⟩ := I128.div_ok.mp hnext
      exact ih y (newtonNext n y) (newtonNext_pos hn hy)
    · exact avoids_ok _

theorem newtonSqrt_avoids {message : String} {n : ℤ} {e : Fault} (he : e ≠ .overflow)
    (hp : e ≠ .panic message) : Avoids e (newtonSqrt message n) := by
  refine (panicIf_avoids hp).bind fun u hu => ?_
  obtain ⟨k, rfl⟩ : ∃ k : ℕ, n = k := ⟨n.toNat, by have := panicIf_ok hu; omega⟩
  split
  · exact avoids_ok _
  · have hk : 0 < k := by omega
    refine (I128.fit_avoids he).bind fun sum hsum => ?_
    refine (I128.div_avoids (by omega) he).bind fun y hy => ?_
    obtain ⟨-, rfl⟩ := I128.fit_ok.mp hsum
    obtain ⟨-, -, rfl⟩ := I128.div_ok.mp hy
    have hstart : 0 < (k + 1) / 2 := by omega
    exact newtonLoop_avoids hk he _ k ((k + 1) / 2) hstart

/-- The loop as the source runs it, with no fuel: from the estimates `x` and `y`
it stops after finitely many steps with `r`, and every machine operation on the
way completes. -/
inductive NewtonRun (n : ℤ) : ℤ → ℤ → ℤ → Prop where
  | stop {x y : ℤ} : ¬ y < x → NewtonRun n x y x
  | step {x y quotient sum next r : ℤ} : y < x → I128.div n y = .ok quotient →
    I128.add y quotient = .ok sum → I128.div sum 2 = .ok next → NewtonRun n y next r →
    NewtonRun n x y r

/-- A positive estimate and its quotient add up to at most one more than the
larger of them allows. -/
theorem add_div_le_succ {n y : ℕ} (hy : 0 < y) (hle : y ≤ n) : y + n / y ≤ n + 1 := by
  obtain ⟨z, rfl⟩ : ∃ z, y = z + 1 := ⟨y - 1, by omega⟩
  have hq : n / (z + 1) * (z + 1) ≤ n := Nat.div_mul_le_self n (z + 1)
  have hone : 1 ≤ n / (z + 1) := (Nat.one_le_div_iff (by omega)).mpr hle
  nlinarith

/-- The machine operations of one step from the estimate `y` complete. -/
theorem newtonStep_ok {n y : ℕ} (hmax : (n : ℤ) < I128.max) (hy : 0 < y) (hle : y ≤ n) :
    I128.div n y = .ok ((n / y : ℕ) : ℤ) ∧
      I128.add y ((n / y : ℕ) : ℤ) = .ok ((y + n / y : ℕ) : ℤ) ∧
      I128.div ((y + n / y : ℕ) : ℤ) 2 = .ok ((newtonNext n y : ℕ) : ℤ) := by
  have hsum := add_div_le_succ hy hle
  have fits : ∀ {k : ℕ}, k ≤ n + 1 → I128.InRange k := fun {k} hk =>
    ⟨I128.inRange_zero.1.trans (by omega), by omega⟩
  have hquotient : n / y ≤ n + 1 := by omega
  have hnext : newtonNext n y ≤ n + 1 := by unfold newtonNext; omega
  refine ⟨I128.div_ok.mpr ⟨by omega, ?_, rfl⟩, I128.fit_ok.mpr ⟨?_, rfl⟩,
    I128.div_ok.mpr ⟨two_ne_zero, ?_, rfl⟩⟩
  · exact fits hquotient
  · exact fits hsum
  · exact fits hnext

/-- From an estimate that is not below the root the loop runs to its end, and the
fuel does not run out before. -/
theorem newtonRun_of_estimate {n : ℕ} (hmax : (n : ℤ) < I128.max) (fuel x : ℕ) (hx : 0 < x)
    (hf : x ≤ fuel) (hle : x ≤ n) (hn : n < (x + 1) * (x + 1)) :
    NewtonRun n x (newtonNext n x) (Nat.sqrt n : ℕ) ∧
      newtonLoop n fuel x (newtonNext n x) = .ok ((Nat.sqrt n : ℕ) : ℤ) := by
  induction fuel generalizing x with
  | zero => omega
  | succ fuel ih =>
    have hnext := lt_newtonNext_succ_sq (n := n) hx
    have hpos := newtonNext_pos (n := n) (by omega) hx
    by_cases hlt : newtonNext n x < x
    · generalize newtonNext n x = y at hlt hnext hpos ⊢
      obtain ⟨hquotient, hsum, hhalf⟩ := newtonStep_ok hmax hpos (by omega)
      obtain ⟨hrun, hloop⟩ := ih y hpos (by omega) (by omega) hnext
      refine ⟨.step (by exact_mod_cast hlt) hquotient hsum hhalf hrun, ?_⟩
      rw [newtonLoop, if_pos (by exact_mod_cast hlt), hquotient, ok_bind, hsum, ok_bind, hhalf,
        ok_bind]
      exact hloop
    · have hroot : Nat.sqrt n = x :=
        (Nat.eq_sqrt.mpr ⟨mul_self_le_of_le_newtonNext (not_lt.mp hlt), hn⟩).symm
      have hstop : ¬ ((newtonNext n x : ℕ) : ℤ) < x := by exact_mod_cast hlt
      rw [hroot]
      exact ⟨.stop hstop, by rw [newtonLoop, if_neg hstop]⟩

/-- Below the largest integer every positive argument has a root: the first
estimate is computed, the loop ends, and `newtonSqrt` returns what it ends with. -/
theorem newtonSqrt_runs {message : String} {n : ℤ} (h0 : 0 < n) (hmax : n < I128.max) :
    ∃ sum y, I128.add n 1 = .ok sum ∧ I128.div sum 2 = .ok y ∧
      NewtonRun n n y (Nat.sqrt n.toNat : ℕ) ∧
      newtonSqrt message n = .ok (Nat.sqrt n.toNat : ℕ) := by
  obtain ⟨k, rfl⟩ : ∃ k : ℕ, n = k := ⟨n.toNat, by omega⟩
  have hk : 0 < k := by omega
  have hone : k / k = 1 := Nat.div_self hk
  obtain ⟨-, hsum, hhalf⟩ := newtonStep_ok hmax hk le_rfl
  rw [hone] at hsum hhalf
  obtain ⟨hrun, hloop⟩ := newtonRun_of_estimate hmax k k hk le_rfl le_rfl (by nlinarith)
  refine ⟨_, _, hsum, hhalf, hrun, ?_⟩
  rw [newtonSqrt, panicIf_of_not (by omega), ok_bind, if_neg (by omega)]
  rw [show I128.add (k : ℤ) 1 = _ from hsum, ok_bind, hhalf, ok_bind, Int.toNat_natCast]
  exact hloop

end Soroban
