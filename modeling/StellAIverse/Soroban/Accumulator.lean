import StellAIverse.Soroban.Result
import StellAIverse.Soroban.Store

/-!
# Reward accumulators

One number that rises with every payment to a pool stands for all holders of a
share in it: a holder is owed the weight of the share times the rise since the
holder's snapshot. What is owed to all of them moves with the accumulator by the
total weight, so paying the pool's increment divided by the total weight, rounded
down, never promises more than was paid in.
-/

namespace Soroban

/-- How an entry takes part in an accumulator. -/
structure Share (V : Type) where
  weight : V → ℤ
  snapshot : V → ℤ

namespace Share

variable {K V : Type} (m : Share V)

/-- What one entry is owed when the accumulator stands at `r`. -/
def due (r : ℤ) (v : V) : ℤ := (r - m.snapshot v) * m.weight v

/-- What all entries are owed. -/
def owed (r : ℤ) (s : Store K V) : ℤ := s.total fun _ v => m.due r v

def totalWeight (s : Store K V) : ℤ := s.total fun _ v => m.weight v

theorem owed_rise (r d : ℤ) (s : Store K V) :
    m.owed (r + d) s = m.owed r s + m.totalWeight s * d := by
  unfold owed totalWeight
  rw [← Store.total_mul, ← Store.total_add]
  congr 1
  funext k v
  unfold due
  ring

/-- Paying `e` into the pool raises what is owed by at most `e`. -/
theorem owed_pay_in {r e : ℤ} {s : Store K V} (he : 0 ≤ e) (hW : 0 < m.totalWeight s) :
    m.owed (r + e.tdiv (m.totalWeight s)) s ≤ m.owed r s + e := by
  have hfloor := I128.tdiv_mul_le he hW
  rw [owed_rise, mul_comm]
  linarith

variable [DecidableEq K] {m}

/-- A new entry whose snapshot is current is owed nothing. -/
theorem owed_enter {r : ℤ} {s : Store K V} {k : K} {v : V} (hk : s.get? k = none)
    (hv : m.due r v = 0) : m.owed r (s.set k v) = m.owed r s := by
  unfold owed
  rw [Store.total_set, Store.weight_none hk, hv, sub_zero, add_zero]

/-- An entry that has been settled is owed nothing any more. -/
theorem owed_settle {r : ℤ} {s : Store K V} {k : K} {v v' : V} (hk : s.get? k = some v)
    (hv : m.due r v' = 0) : m.owed r (s.set k v') = m.owed r s - m.due r v := by
  unfold owed
  rw [Store.total_set, Store.weight_some hk, hv, add_zero]

/-- Rounding each entry's share down, together they get at most what is owed. -/
theorem floors_le_owed {r n : ℤ} {s : Store K V} (hn : 0 < n)
    (h : ∀ k v, s.get? k = some v → 0 ≤ m.due r v) :
    (s.total fun _ v => (m.due r v).tdiv n) * n ≤ m.owed r s := by
  rw [← Store.total_mul]
  exact Store.total_le_total fun k v hk => I128.tdiv_mul_le (h k v hk) hn

theorem owed_congr {m' : Share V} {r : ℤ} {s : Store K V}
    (h : ∀ k v, s.get? k = some v → m.due r v = m'.due r v) : m.owed r s = m'.owed r s :=
  Store.total_congr h

end Share

end Soroban
