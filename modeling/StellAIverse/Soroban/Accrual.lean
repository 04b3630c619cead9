import Mathlib.Data.Int.DivMod
import Mathlib.Tactic.Ring
import Mathlib.Tactic.Linarith

/-!
# Interest in whole units

Something grows by `rate` a second and is booked in multiples of `unit`, rounded
down. The clock moves with a booking only, so what was too little to book stays
due. Over any bookings the sum is off by less than one unit for each of them.
-/

namespace Soroban

namespace Accrual

variable {rate unit elapsed later booked : ℤ} {count : ℕ}

/-- What can be booked after so many seconds. -/
def due (rate unit elapsed : ℤ) : ℤ := rate * elapsed / unit

theorem due_mul_le (hunit : 0 < unit) : due rate unit elapsed * unit ≤ rate * elapsed :=
  Int.ediv_mul_le _ hunit.ne'

theorem lt_due_add_one_mul (hunit : 0 < unit) :
    rate * elapsed < (due rate unit elapsed + 1) * unit :=
  Int.lt_ediv_add_one_mul_self _ hunit

theorem due_nonneg (hunit : 0 < unit) (hrate : 0 ≤ rate) (helapsed : 0 ≤ elapsed) :
    0 ≤ due rate unit elapsed :=
  Int.ediv_nonneg (mul_nonneg hrate helapsed) hunit.le

/-- So much was booked in `count` bookings over the seconds that the clock moved. -/
structure Tally (rate unit elapsed booked : ℤ) (count : ℕ) : Prop where
  le : booked * unit ≤ rate * elapsed
  ge : rate * elapsed ≤ (booked + count) * unit

theorem Tally.zero : Tally rate unit 0 0 0 where
  le := by simp
  ge := by simp

theorem Tally.book (h : Tally rate unit elapsed booked count) (hunit : 0 < unit) (seconds : ℤ) :
    Tally rate unit (elapsed + seconds) (booked + due rate unit seconds) (count + 1) := by
  have hle : due rate unit seconds * unit ≤ rate * seconds := due_mul_le hunit
  have hlt : rate * seconds < (due rate unit seconds + 1) * unit := lt_due_add_one_mul hunit
  obtain ⟨hbelow, habove⟩ := h
  constructor
  · rw [add_mul, mul_add]
    exact add_le_add hbelow hle
  · calc rate * (elapsed + seconds) = rate * elapsed + rate * seconds := mul_add _ _ _
      _ ≤ (booked + count) * unit + (due rate unit seconds + 1) * unit := add_le_add habove hlt.le
      _ = (booked + due rate unit seconds + (count + 1 : ℕ)) * unit := by
        rw [Nat.cast_add, Nat.cast_one]
        ring

/-- When nothing more can be booked, the sum is what was due at once, but for one unit for each
booking. -/
theorem Tally.bounds (h : Tally rate unit elapsed booked count) (hunit : 0 < unit)
    (hrest : 0 ≤ rate * later) (hidle : due rate unit later ≤ 0) :
    booked ≤ due rate unit (elapsed + later) ∧
      due rate unit (elapsed + later) - count - 1 < booked := by
  have hlt : rate * later < (due rate unit later + 1) * unit := lt_due_add_one_mul hunit
  have hone : (due rate unit later + 1) * unit ≤ 1 * unit :=
    mul_le_mul_of_nonneg_right (by omega) hunit.le
  obtain ⟨hbelow, habove⟩ := h
  have hsum : rate * (elapsed + later) = rate * elapsed + rate * later := mul_add _ _ _
  refine ⟨Int.le_ediv_of_mul_le hunit (by linarith), ?_⟩
  have hupper : rate * (elapsed + later) < (booked + count + 1) * unit := by
    rw [hsum, add_mul]
    linarith
  have hdue : due rate unit (elapsed + later) < booked + count + 1 :=
    Int.ediv_lt_of_lt_mul hunit hupper
  omega

end Accrual

end Soroban
